import DirectoryClient.Proofs.Record.Names
import DirectoryClient.Text.Split

/-!
# Offsets in octets

An offset into a text is between two characters if it is the size of some beginning
of the text, and then the text is cut into this beginning and the rest. At any other
offset it cannot be cut.

Making letters small keeps the size of a text. So texts that are equal up to the case
of ASCII letters, put at the end of another text, begin at the same offset.
-/

namespace DirectoryClient.Text

theorem utf8ByteSize_ofList_cons (c : Char) (cs : List Char) :
    (String.ofList (c :: cs)).utf8ByteSize = c.utf8Size + (String.ofList cs).utf8ByteSize := by
  rw [← List.singleton_append, String.ofList_append, String.utf8ByteSize_append,
    ← String.singleton_eq_ofList, String.utf8ByteSize_singleton]

/-! ## Cutting -/

theorem splitAt?_cons (n : Nat) (c : Char) (rest : List Char) :
    splitAt? (c.utf8Size + n) (c :: rest) =
      (splitAt? n rest).map fun (front, back) => (c :: front, back) := by
  have hpos := c.utf8Size_pos
  obtain ⟨m, hm⟩ : ∃ m, c.utf8Size + n = m + 1 := ⟨c.utf8Size + n - 1, by omega⟩
  rw [hm, splitAt?, if_pos (by omega), show m + 1 - c.utf8Size = n by omega]

/-- A text is cut where some beginning of it ends. -/
theorem splitAt?_append (front back : List Char) :
    splitAt? (String.ofList front).utf8ByteSize (front ++ back) = some (front, back) := by
  induction front with
  | nil => rw [List.nil_append, String.ofList_nil, String.utf8ByteSize_empty, splitAt?]
  | cons c rest ih => rw [utf8ByteSize_ofList_cons, List.cons_append, splitAt?_cons, ih]; rfl

/-- Wherever a text is cut, the parts make up the whole of it. -/
theorem append_of_splitAt? {n : Nat} {cs front back : List Char}
    (h : splitAt? n cs = some (front, back)) :
    cs = front ++ back ∧ (String.ofList front).utf8ByteSize = n := by
  induction cs generalizing n front with
  | nil =>
      cases n with
      | zero =>
          cases h
          exact ⟨rfl, rfl⟩
      | succ n => cases h
  | cons c rest ih =>
      cases n with
      | zero =>
          cases h
          exact ⟨rfl, rfl⟩
      | succ n =>
          rw [splitAt?] at h
          split at h
          · next hc =>
              obtain ⟨⟨front', back'⟩, hrest, heq⟩ := Option.map_eq_some_iff.1 h
              cases heq
              obtain ⟨happ, hsize⟩ := ih hrest
              rw [utf8ByteSize_ofList_cons, hsize, happ]
              exact ⟨rfl, by omega⟩
          · cases h

theorem splitAt?_eq_some_iff {n : Nat} {cs front back : List Char} :
    splitAt? n cs = some (front, back) ↔
      cs = front ++ back ∧ (String.ofList front).utf8ByteSize = n := by
  constructor
  · exact append_of_splitAt?
  · rintro ⟨rfl, rfl⟩
    exact splitAt?_append front back

/-! ## Small letters -/

theorem utf8Size_toLower (c : Char) : c.toLower.utf8Size = c.utf8Size := by
  by_cases h : 'A'.val ≤ c.val ∧ c.val ≤ 'Z'.val
  · have hval : c.toLower.val = c.val + ('a'.val - 'A'.val) := congrArg Char.val (dif_pos h)
    have hsmall : c.val.toNat ≤ 90 := h.2
    -- both letters are below 128
    have hlower : c.toLower.val ≤ 127 := by
      rw [hval, UInt32.le_iff_toNat_le, UInt32.toNat_add]
      simp only [seval]
      omega
    have hcapital : c.val ≤ 127 := Nat.le_trans hsmall (by decide)
    rw [Char.utf8Size_eq_one_iff.2 hlower, Char.utf8Size_eq_one_iff.2 hcapital]
  · have hsame : c.toLower = c := dif_neg h
    rw [hsame]

theorem utf8ByteSize_foldCase (s : String) : (foldCase s).utf8ByteSize = s.utf8ByteSize := by
  rw [foldCase, ← String.ofList_toList (s := s), String.toList_ofList]
  induction s.toList with
  | nil => rfl
  | cons c rest ih =>
      rw [List.map_cons, utf8ByteSize_ofList_cons, utf8ByteSize_ofList_cons, utf8Size_toLower, ih]

/-- Texts that are equal up to the case of ASCII letters take the same room. -/
theorem utf8ByteSize_of_sameName {a b : String} (h : sameName a b = true) :
    a.utf8ByteSize = b.utf8ByteSize := by
  rw [← utf8ByteSize_foldCase a, sameName_iff.1 h, utf8ByteSize_foldCase]

end DirectoryClient.Text
