import DirectoryClient.Entry
import DirectoryClient.Record

/-!
# Names within a record

No two attributes of a record have names that are equal up to ASCII case. A
record that is made with `Record.new` and changed with the operations on records
keeps this up: `Attribute.update` either goes to the attribute of that name or
adds one of a name that is new, and the other operations only take attributes
out. The records that a search finds are made in this way too.

A name is known by its key, the name in small letters.
-/

namespace DirectoryClient

/-! ## Small letters -/

theorem Text.toLower_toLower (c : Char) : c.toLower.toLower = c.toLower := by
  have toLower_other (d : Char) (h : ¬('A'.val ≤ d.val ∧ d.val ≤ 'Z'.val)) : d.toLower = d :=
    dif_neg h
  by_cases h : 'A'.val ≤ c.val ∧ c.val ≤ 'Z'.val
  · -- a letter that was made small is no capital any more
    have hval : c.toLower.val = c.val + ('a'.val - 'A'.val) := congrArg Char.val (dif_pos h)
    refine toLower_other c.toLower fun h' => ?_
    rw [hval] at h'
    simp only [UInt32.le_iff_toNat_le, UInt32.toNat_add, seval] at h h'
    omega
  · rw [toLower_other c h, toLower_other c h]

/-- Characters below the letters have no case. -/
theorem Text.toLower_eq_iff {c d : Char} (hd : d.toNat < 65) :
    c.toLower = d ↔ c = d := by
  by_cases h : 'A'.val ≤ c.val ∧ c.val ≤ 'Z'.val
  · have hval : c.toLower.val = c.val + ('a'.val - 'A'.val) := congrArg Char.val (dif_pos h)
    have hc : 65 ≤ c.toNat ∧ c.toNat ≤ 90 := h
    have hlower : c.toLower.toNat = c.toNat + 32 := by
      have hnat := congrArg UInt32.toNat hval
      rw [UInt32.toNat_add] at hnat
      have : c.val.toNat = c.toNat := rfl
      have : c.toLower.val.toNat = c.toLower.toNat := rfl
      have : ('a'.val - 'A'.val).toNat = 32 := rfl
      omega
    constructor
    · rintro rfl
      omega
    · rintro rfl
      omega
  · have hlower : c.toLower = c := dif_neg h
    rw [hlower]

@[simp] theorem Text.foldCase_foldCase (s : String) : foldCase (foldCase s) = foldCase s := by
  have htwice : Char.toLower ∘ Char.toLower = Char.toLower := funext toLower_toLower
  unfold foldCase
  rw [String.toList_ofList, List.map_map, htwice]

namespace Attribute

/-- The name in small letters. -/
def key (a : Attribute) : String := Text.foldCase a.name

theorem isNamed_iff {a : Attribute} {name : String} :
    a.isNamed name = true ↔ a.key = Text.foldCase name :=
  Text.sameName_iff

/-- An attribute of a name that is new is added at the end. -/
theorem update_of_notMem {name : String} {f : List Value → List Value} {attrs : List Attribute}
    (h : Text.foldCase name ∉ attrs.map key) :
    update name f attrs = attrs ++ [⟨name, f []⟩] := by
  induction attrs with
  | nil => rfl
  | cons a rest ih =>
      rw [List.map_cons, List.mem_cons, not_or] at h
      have ha : ¬ a.isNamed name = true := by
        rw [isNamed_iff]
        exact Ne.symm h.1
      rw [update, if_neg ha, ih h.2]
      rfl

/-- The attribute of a name is where the name first occurs. -/
theorem update_append_cons {name : String} {f : List Value → List Value} {a : Attribute}
    {front back : List Attribute} (h : Text.foldCase name ∉ front.map key)
    (ha : a.isNamed name = true) :
    update name f (front ++ a :: back) = front ++ { a with values := f a.values } :: back := by
  induction front with
  | nil => rw [List.nil_append, update, if_pos ha, List.nil_append]
  | cons b rest ih =>
      rw [List.map_cons, List.mem_cons, not_or] at h
      have hb : ¬ b.isNamed name = true := by
        rw [isNamed_iff]
        exact Ne.symm h.1
      rw [List.cons_append, update, if_neg hb, ih h.2]
      rfl

theorem map_key_update (name : String) (f : List Value → List Value) (attrs : List Attribute) :
    (update name f attrs).map key =
      if Text.foldCase name ∈ attrs.map key then attrs.map key
      else attrs.map key ++ [Text.foldCase name] := by
  induction attrs with
  | nil => rfl
  | cons a rest ih =>
      rw [update]
      split
      · next hname =>
          rw [isNamed_iff] at hname
          rw [if_pos (by simp [hname])]
          rfl
      · next hname =>
          rw [isNamed_iff] at hname
          rw [List.map_cons, ih]
          by_cases hrest : Text.foldCase name ∈ rest.map key
          · rw [if_pos hrest, if_pos (by simp [hrest]), List.map_cons]
          · rw [if_neg hrest, if_neg (by simpa [eq_comm, hname] using hrest)]
            rfl

end Attribute

/-! ## Records -/

namespace Record

/-- No two attributes have names that are equal up to ASCII case. -/
def NamesDistinct (r : Record) : Prop := (r.attributes.map Attribute.key).Nodup

theorem namesDistinct_new (dn : String) : (new dn).NamesDistinct := List.nodup_nil

theorem namesDistinct_clear (r : Record) : r.clear.NamesDistinct := List.nodup_nil

theorem nodup_update {name : String} {f : List Value → List Value} {attrs : List Attribute}
    (h : (attrs.map Attribute.key).Nodup) :
    ((Attribute.update name f attrs).map Attribute.key).Nodup := by
  rw [Attribute.map_key_update]
  split
  · exact h
  · next hname =>
      refine List.nodup_append.2 ⟨h, by simp, ?_⟩
      intro key hkey key' hkey'
      obtain rfl := List.mem_singleton.1 hkey'
      rintro rfl
      exact hname hkey

theorem NamesDistinct.addValues {r : Record} (h : r.NamesDistinct) (name : String)
    (values : List Value) : (r.addValues name values).NamesDistinct :=
  nodup_update h

theorem NamesDistinct.addValue {r : Record} (h : r.NamesDistinct) (name : String)
    (value : Value) : (r.addValue name value).NamesDistinct :=
  h.addValues name [value]

theorem NamesDistinct.setValues {r : Record} (h : r.NamesDistinct) (name : String)
    (values : List Value) : (r.setValues name values).NamesDistinct :=
  nodup_update h

theorem NamesDistinct.erase {r : Record} (h : r.NamesDistinct) (name : String) :
    (r.erase name).NamesDistinct :=
  List.Nodup.sublist (List.eraseP_sublist.map Attribute.key) h

/-- The records of a search are like any others. -/
theorem namesDistinct_toRecord (e : Entry) : e.toRecord.NamesDistinct := by
  have hfold : ∀ {α : Type} (values : α → List Value) (attrs : List (String × α)) (r : Record),
      r.NamesDistinct →
        (attrs.foldl (fun r a => r.addValues a.1 (values a.2)) r).NamesDistinct := by
    intro α values attrs
    induction attrs with
    | nil => exact fun _ h => h
    | cons a rest ih => exact fun r h => ih _ (h.addValues a.1 _)
  exact hfold _ _ _ (hfold _ _ _ (namesDistinct_new e.dn))

end Record

end DirectoryClient
