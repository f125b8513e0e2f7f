import DirectoryClient.Text.Utf8

/-!
# Encoding text character by character

The octets of a text are those of its characters, one after another. An octet
below 128 only occurs as the whole encoding of the character of that number, so
whoever looks for a line feed among the octets finds exactly the line feeds of
the text, and octets that are all below 128 are a text of as many characters.
-/

namespace DirectoryClient.Text

theorem bytes_ofList (cs : List Char) :
    bytes (String.ofList cs) = cs.flatMap String.utf8EncodeChar := by
  simp only [bytes, String.toUTF8_eq_toByteArray, String.toByteArray_ofList, List.utf8Encode]
  generalize cs.flatMap String.utf8EncodeChar = octets
  simp

theorem bytes_eq_flatMap (s : String) : bytes s = s.toList.flatMap String.utf8EncodeChar := by
  rw [← bytes_ofList, String.ofList_toList]

theorem ofBytes?_flatMap (cs : List Char) :
    ofBytes? (cs.flatMap String.utf8EncodeChar) = some (String.ofList cs) := by
  rw [← bytes_ofList, ofBytes?_bytes]

@[simp] theorem bytes_ofList_append (as bs : List Char) :
    bytes (String.ofList (as ++ bs)) = bytes (String.ofList as) ++ bytes (String.ofList bs) := by
  simp only [bytes_ofList, List.flatMap_append]

/-! ## Octets below 128 -/

theorem utf8EncodeChar_of_lt {c : Char} (h : c.toNat < 128) :
    String.utf8EncodeChar c = [UInt8.ofNat c.toNat] := by
  have h' : c.val.toNat ≤ 0x7f := Nat.le_of_lt_succ h
  simp only [String.utf8EncodeChar, if_pos h', Char.toNat]

theorem bytes_ofList_of_lt {cs : List Char} (h : ∀ c ∈ cs, c.toNat < 128) :
    bytes (String.ofList cs) = cs.map fun c => UInt8.ofNat c.toNat := by
  rw [bytes_ofList]
  induction cs with
  | nil => rfl
  | cons c rest ih =>
      rw [List.flatMap_cons, utf8EncodeChar_of_lt (h c List.mem_cons_self),
        ih fun d hd => h d (List.mem_cons_of_mem c hd), List.map_cons, List.singleton_append]

/-- All octets of a character that takes more than one are at least 128. -/
theorem le_of_mem_utf8EncodeChar {c : Char} (h : 128 ≤ c.toNat) :
    ∀ b ∈ String.utf8EncodeChar c, 128 ≤ b.toNat := by
  have h' : ¬ c.val.toNat ≤ 0x7f := Nat.not_le.2 h
  intro b hb
  simp only [String.utf8EncodeChar, if_neg h'] at hb
  split at hb
  · simp only [List.mem_cons, List.not_mem_nil, or_false] at hb
    rcases hb with rfl | rfl <;> simp only [UInt8.toNat_ofNat'] <;> omega
  · split at hb
    · simp only [List.mem_cons, List.not_mem_nil, or_false] at hb
      rcases hb with rfl | rfl | rfl <;> simp only [UInt8.toNat_ofNat'] <;> omega
    · simp only [List.mem_cons, List.not_mem_nil, or_false] at hb
      rcases hb with rfl | rfl | rfl | rfl <;> simp only [UInt8.toNat_ofNat'] <;> omega

theorem utf8EncodeChar_newline : String.utf8EncodeChar '\n' = [10] := by decide

theorem newline_notMem_utf8EncodeChar {c : Char} (h : c ≠ '\n') :
    10 ∉ String.utf8EncodeChar c := by
  intro hmem
  rcases Nat.lt_or_ge c.toNat 128 with hlt | hge
  · rw [utf8EncodeChar_of_lt hlt, List.mem_singleton] at hmem
    have hnat := congrArg UInt8.toNat hmem
    rw [UInt8.toNat_ofNat', Nat.mod_eq_of_lt (by omega)] at hnat
    exact h (Char.toNat_inj.1 hnat.symm)
  · exact absurd (le_of_mem_utf8EncodeChar hge 10 hmem) (by decide)

end DirectoryClient.Text
