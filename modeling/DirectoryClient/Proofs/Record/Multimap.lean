import DirectoryClient.Proofs.Record.Names

/-!
# A record as a map from names to values

However a record was changed, what it holds under a name is what was done to that
name, in any spelling, since the name was last absent. `NameMap` says this without
any list of attributes: it is a function from names in small letters, in which an
update touches one place, and it keeps the time at which a name was supplied.

A record lists what the map holds in the order of those times (`NameMap.Lists`).
One update keeps this up, so any number of them do, and every way of looking into
the record is then a way of looking into the map.
-/

namespace DirectoryClient

/-! ## Updates -/

namespace Record

/-- A change to the attributes of a record. -/
inductive Update
  | addValue (name : String) (value : Value)
  | addValues (name : String) (values : List Value)
  | setValues (name : String) (values : List Value)
  | remove (name : String)
  | clear

namespace Update

/-- The name whose attribute an update changes. Clearing is about no single one. -/
def name? : Update → Option String
  | addValue name _ | addValues name _ | setValues name _ | remove name => some name
  | clear => none

/-- Whether an update takes attributes out. -/
def takesOut : Update → Bool
  | remove _ | clear => true
  | addValue _ _ | addValues _ _ | setValues _ _ => false

end Update

def update (r : Record) : Update → Record
  | .addValue name value => r.addValue name value
  | .addValues name values => r.addValues name values
  | .setValues name values => r.setValues name values
  | .remove name => (r.remove name).2
  | .clear => r.clear

/-- Makes updates one after another. -/
def updateAll (r : Record) (updates : List Update) : Record := updates.foldl update r

theorem remove_eq (r : Record) (name : String) :
    r.remove name = (r.attribute? name, r.erase name) := by
  rw [remove, attribute?, erase, List.find?_eq_bind_findIdx?_getElem?, List.eraseP_eq_eraseIdx]
  cases r.attributes.findIdx? (·.isNamed name) with
  | none => rfl
  | some i => rfl

end Record

/-! ## The map -/

/-- What is held under a name: the spelling that was supplied first, the values,
and when the name was supplied. -/
structure Holding where
  since : Nat
  spelling : String
  values : List Value

namespace Holding

def toAttribute (h : Holding) : Attribute := ⟨h.spelling, h.values⟩

/-- Changes the values of a holding if it is the one under a name. -/
def change (name : String) (f : List Value → List Value) (h : Holding) : Holding :=
  if Text.foldCase h.spelling = Text.foldCase name then { h with values := f h.values } else h

theorem change_of_eq {name : String} {h : Holding} (f : List Value → List Value)
    (hname : Text.foldCase h.spelling = Text.foldCase name) :
    h.change name f = { h with values := f h.values } := if_pos hname

theorem change_of_ne {name : String} {h : Holding} (f : List Value → List Value)
    (hname : Text.foldCase h.spelling ≠ Text.foldCase name) : h.change name f = h := if_neg hname

@[simp] theorem since_change (name : String) (f : List Value → List Value) (h : Holding) :
    (h.change name f).since = h.since := by
  unfold change
  split <;> rfl

@[simp] theorem spelling_change (name : String) (f : List Value → List Value) (h : Holding) :
    (h.change name f).spelling = h.spelling := by
  unfold change
  split <;> rfl

theorem isNamed_toAttribute {name : String} {h : Holding} :
    h.toAttribute.isNamed name = true ↔ Text.foldCase h.spelling = Text.foldCase name :=
  Attribute.isNamed_iff

theorem toAttribute_change (name : String) (f : List Value → List Value) (h : Holding) :
    (h.change name f).toAttribute =
      if h.toAttribute.isNamed name then { h.toAttribute with values := f h.toAttribute.values }
      else h.toAttribute := by
  by_cases hname : Text.foldCase h.spelling = Text.foldCase name
  · rw [change_of_eq f hname, if_pos (isNamed_toAttribute.2 hname)]
    rfl
  · rw [change_of_ne f hname, if_neg fun hnamed => hname (isNamed_toAttribute.1 hnamed)]

end Holding

/-- A map from names in small letters, and the number of updates made so far. -/
structure NameMap where
  clock : Nat
  held? : String → Option Holding

namespace NameMap

def empty : NameMap := ⟨0, fun _ => none⟩

/-- Changes the values under a name. An absent name is supplied now, in this
spelling, as if it had had no values. -/
def supply (name : String) (f : List Value → List Value) (m : NameMap) : NameMap where
  clock := m.clock + 1
  held? key :=
    if key = Text.foldCase name then
      match m.held? key with
      | some h => some { h with values := f h.values }
      | none => some ⟨m.clock, name, f []⟩
    else m.held? key

/-- Drops what is held under some names. -/
def drop (gone : String → Bool) (m : NameMap) : NameMap where
  clock := m.clock + 1
  held? key := if gone key then none else m.held? key

def update (m : NameMap) : Record.Update → NameMap
  | .addValue name value => m.supply name (· ++ [value])
  | .addValues name values => m.supply name (· ++ values)
  | .setValues name values => m.supply name fun _ => values
  | .remove name => m.drop (· == Text.foldCase name)
  | .clear => m.drop fun _ => true

/-- What is held after updates that were made one after another. -/
def ofUpdates (updates : List Record.Update) : NameMap := updates.foldl update empty

/-- Everything is held under its own name, and was supplied in the past. -/
def IsSound (m : NameMap) : Prop :=
  ∀ key h, m.held? key = some h → Text.foldCase h.spelling = key ∧ h.since < m.clock

/-- The attributes are what the map holds, in the order in which it was supplied. -/
def Lists (m : NameMap) (attrs : List Attribute) : Prop :=
  ∃ hs : List Holding, attrs = hs.map Holding.toAttribute ∧
    hs.Pairwise (fun h h' => h.since < h'.since) ∧
    ∀ h, h ∈ hs ↔ m.held? (Text.foldCase h.spelling) = some h

/-! ## One update of the map -/

section

variable {m : NameMap} {name key : String} {f : List Value → List Value}

theorem held?_supply_ne (h : key ≠ Text.foldCase name) :
    (m.supply name f).held? key = m.held? key := if_neg h

theorem held?_supply_of_none (h : m.held? (Text.foldCase name) = none) :
    (m.supply name f).held? (Text.foldCase name) = some ⟨m.clock, name, f []⟩ := by
  simp only [supply, h, ↓reduceIte]

theorem held?_supply_of_some {h₀ : Holding} (h : m.held? (Text.foldCase name) = some h₀) :
    (m.supply name f).held? (Text.foldCase name) = some { h₀ with values := f h₀.values } := by
  simp only [supply, h, ↓reduceIte]

end

theorem isSound_empty : empty.IsSound := by
  intro key h hheld
  cases hheld

theorem IsSound.supply {m : NameMap} (hm : m.IsSound) (name : String)
    (f : List Value → List Value) : (m.supply name f).IsSound := by
  intro key h hheld
  by_cases hkey : key = Text.foldCase name
  · subst hkey
    cases hname : m.held? (Text.foldCase name) with
    | none =>
        rw [held?_supply_of_none hname] at hheld
        cases hheld
        exact ⟨rfl, Nat.lt_succ_self _⟩
    | some h₀ =>
        rw [held?_supply_of_some hname] at hheld
        cases hheld
        exact ⟨(hm _ h₀ hname).1, Nat.lt_succ_of_lt (hm _ h₀ hname).2⟩
  · rw [held?_supply_ne hkey] at hheld
    exact ⟨(hm key h hheld).1, Nat.lt_succ_of_lt (hm key h hheld).2⟩

theorem IsSound.drop {m : NameMap} (hm : m.IsSound) (gone : String → Bool) :
    (m.drop gone).IsSound := by
  intro key h hheld
  simp only [NameMap.drop] at hheld ⊢
  split at hheld
  · cases hheld
  · exact ⟨(hm key h hheld).1, Nat.lt_succ_of_lt (hm key h hheld).2⟩

theorem IsSound.update {m : NameMap} (hm : m.IsSound) (u : Record.Update) :
    (m.update u).IsSound := by
  cases u with
  | addValue name value => exact hm.supply name (· ++ [value])
  | addValues name values => exact hm.supply name (· ++ values)
  | setValues name values => exact hm.supply name fun _ => values
  | remove name => exact hm.drop (· == Text.foldCase name)
  | clear => exact hm.drop fun _ => true

end NameMap

/-! ## Attributes with distinct names -/

namespace Attribute

/-- An attribute that is there is changed in its place. -/
theorem update_of_mem {name : String} {f : List Value → List Value} {attrs : List Attribute}
    (hnodup : (attrs.map key).Nodup) (h : Text.foldCase name ∈ attrs.map key) :
    update name f attrs =
      attrs.map fun a => if a.isNamed name then { a with values := f a.values } else a := by
  obtain ⟨a, ha, hkey⟩ := List.mem_map.1 h
  obtain ⟨front, back, rfl⟩ := List.append_of_mem ha
  rw [List.map_append, List.map_cons, List.nodup_append, List.nodup_cons] at hnodup
  obtain ⟨-, ⟨hback, -⟩, hfront⟩ := hnodup
  have hother : ∀ b : Attribute, b.key ≠ a.key →
      (if b.isNamed name then { b with values := f b.values } else b) = b := by
    intro b hb
    refine if_neg fun hnamed => hb ?_
    rw [isNamed_iff.1 hnamed, hkey]
  have hfront' : ∀ b ∈ front, b.key ≠ a.key := fun b hb =>
    hfront _ (List.mem_map_of_mem hb) _ List.mem_cons_self
  have hback' : ∀ b ∈ back, b.key ≠ a.key := fun b hb heq =>
    hback (heq ▸ List.mem_map_of_mem hb)
  have hnew : Text.foldCase name ∉ front.map key := by
    rw [← hkey]
    intro hmem
    obtain ⟨b, hb, heq⟩ := List.mem_map.1 hmem
    exact hfront' b hb heq
  rw [update_append_cons hnew (isNamed_iff.2 hkey), List.map_append, List.map_cons,
    if_pos (isNamed_iff.2 hkey), List.map_congr_left fun b hb => hother b (hfront' b hb),
    List.map_congr_left fun b hb => hother b (hback' b hb), List.map_id', List.map_id']

/-- What is found under a name is the attribute that bears it. -/
theorem find?_isNamed_eq_some_iff {name : String} {attrs : List Attribute} {a : Attribute}
    (hnodup : (attrs.map key).Nodup) :
    attrs.find? (·.isNamed name) = some a ↔ a ∈ attrs ∧ a.key = Text.foldCase name := by
  induction attrs with
  | nil => simp
  | cons b rest ih =>
      rw [List.map_cons, List.nodup_cons] at hnodup
      rw [List.find?_cons]
      split
      · next hb =>
          rw [isNamed_iff] at hb
          constructor
          · intro h
            cases h
            exact ⟨List.mem_cons_self, hb⟩
          · rintro ⟨ha, hkey⟩
            rcases List.mem_cons.1 ha with rfl | ha
            · rfl
            · -- nothing further on has the same name
              have hmem : a.key ∈ rest.map key := List.mem_map_of_mem ha
              rw [hkey, ← hb] at hmem
              exact absurd hmem hnodup.1
      · next hb =>
          rw [ih hnodup.2, List.mem_cons]
          constructor
          · rintro ⟨ha, hkey⟩
            exact ⟨Or.inr ha, hkey⟩
          · rintro ⟨rfl | ha, hkey⟩
            · rw [isNamed_iff.2 hkey] at hb
              cases hb
            · exact ⟨ha, hkey⟩

/-- To take out an attribute is to leave those that do not bear its name. -/
theorem eraseP_isNamed {name : String} {attrs : List Attribute}
    (hnodup : (attrs.map key).Nodup) :
    attrs.eraseP (·.isNamed name) = attrs.filter (! ·.isNamed name) := by
  induction attrs with
  | nil => rfl
  | cons b rest ih =>
      rw [List.map_cons, List.nodup_cons] at hnodup
      rw [List.eraseP_cons]
      cases hb : b.isNamed name with
      | true =>
          have hrest : ∀ a ∈ rest, (! a.isNamed name) = true := by
            intro a ha
            rw [Bool.not_eq_true', ← Bool.not_eq_true, isNamed_iff, ← isNamed_iff.1 hb]
            intro hkey
            exact hnodup.1 (hkey ▸ List.mem_map_of_mem ha)
          rw [cond_true, List.filter_cons_of_neg (by simp [hb]), List.filter_eq_self.2 hrest]
      | false => rw [cond_false, List.filter_cons_of_pos (by simp [hb]), ih hnodup.2]

end Attribute

/-! ## One update of a list -/

namespace NameMap

theorem lists_empty : empty.Lists [] := ⟨[], rfl, .nil, by simp [empty]⟩

/-- No name is listed twice. -/
theorem Lists.nodup {m : NameMap} {attrs : List Attribute} (h : m.Lists attrs) :
    (attrs.map Attribute.key).Nodup := by
  obtain ⟨hs, rfl, hsince, hheld⟩ := h
  rw [List.map_map, List.Nodup, List.pairwise_map]
  refine hsince.imp_of_mem fun {a b} ha hb hlt hkey => ?_
  -- what is held under the one key would be either of the two
  have hkey' : Text.foldCase a.spelling = Text.foldCase b.spelling := hkey
  rw [hheld, hkey'] at ha
  rw [hheld, ha] at hb
  cases hb
  exact Nat.lt_irrefl _ hlt

theorem Lists.find? {m : NameMap} {attrs : List Attribute} (hm : m.IsSound)
    (h : m.Lists attrs) (name : String) :
    attrs.find? (·.isNamed name) = (m.held? (Text.foldCase name)).map Holding.toAttribute := by
  have hnodup := h.nodup
  obtain ⟨hs, rfl, -, hheld⟩ := h
  refine Option.ext fun a => ?_
  rw [Attribute.find?_isNamed_eq_some_iff hnodup, List.mem_map, Option.map_eq_some_iff]
  constructor
  · rintro ⟨⟨h, hmem, rfl⟩, hkey⟩
    have hkey' : Text.foldCase h.spelling = Text.foldCase name := hkey
    exact ⟨h, hkey' ▸ (hheld h).1 hmem, rfl⟩
  · rintro ⟨h, hname, rfl⟩
    obtain ⟨hspelling, -⟩ := hm _ h hname
    exact ⟨⟨h, (hheld h).2 (by rw [hspelling, hname]), rfl⟩, hspelling⟩

theorem Lists.supply_of_none {m : NameMap} {attrs : List Attribute} {name : String}
    (hm : m.IsSound) (h : m.Lists attrs) (hname : m.held? (Text.foldCase name) = none)
    (f : List Value → List Value) : (m.supply name f).Lists (Attribute.update name f attrs) := by
  obtain ⟨hs, rfl, hsince, hheld⟩ := h
  have hnew : Text.foldCase name ∉ (hs.map Holding.toAttribute).map Attribute.key := by
    intro hmem
    obtain ⟨a, ha, hkey⟩ := List.mem_map.1 hmem
    obtain ⟨h, hmem, rfl⟩ := List.mem_map.1 ha
    have hkey' : Text.foldCase h.spelling = Text.foldCase name := hkey
    rw [hheld, hkey', hname] at hmem
    cases hmem
  refine ⟨hs ++ [⟨m.clock, name, f []⟩], ?_, ?_, fun h => ?_⟩
  · rw [Attribute.update_of_notMem hnew, List.map_append]
    rfl
  · rw [List.pairwise_append]
    refine ⟨hsince, List.pairwise_singleton _ _, ?_⟩
    intro h hmem h' hmem'
    obtain rfl := List.mem_singleton.1 hmem'
    exact (hm _ h ((hheld h).1 hmem)).2
  · rw [List.mem_append, List.mem_singleton, hheld]
    by_cases hkey : Text.foldCase h.spelling = Text.foldCase name
    · rw [hkey, held?_supply_of_none hname, hname]
      simp [eq_comm]
    · rw [held?_supply_ne hkey]
      refine or_iff_left ?_
      rintro rfl
      exact hkey rfl

theorem Lists.supply_of_some {m : NameMap} {attrs : List Attribute} {name : String}
    {h₀ : Holding} (hm : m.IsSound) (h : m.Lists attrs)
    (hname : m.held? (Text.foldCase name) = some h₀) (f : List Value → List Value) :
    (m.supply name f).Lists (Attribute.update name f attrs) := by
  have hnodup := h.nodup
  obtain ⟨hs, rfl, hsince, hheld⟩ := h
  obtain ⟨hspelling, -⟩ := hm _ h₀ hname
  have hmem₀ : h₀ ∈ hs := (hheld h₀).2 (by rw [hspelling, hname])
  refine ⟨hs.map (Holding.change name f), ?_, ?_, fun h => ?_⟩
  · rw [Attribute.update_of_mem hnodup, List.map_map, List.map_map]
    · exact List.map_congr_left fun h _ => (h.toAttribute_change name f).symm
    · exact List.mem_map.2 ⟨h₀.toAttribute, List.mem_map_of_mem hmem₀, hspelling⟩
  · rw [List.pairwise_map]
    simpa using hsince
  · rw [List.mem_map]
    by_cases hkey : Text.foldCase h.spelling = Text.foldCase name
    · rw [hkey, held?_supply_of_some hname, Option.some.injEq, ← Holding.change_of_eq f hspelling]
      constructor
      · rintro ⟨a, ha, rfl⟩
        rw [Holding.spelling_change] at hkey
        rw [hheld, hkey, hname, Option.some.injEq] at ha
        rw [ha]
      · rintro rfl
        exact ⟨h₀, hmem₀, rfl⟩
    · rw [held?_supply_ne hkey, ← hheld]
      constructor
      · rintro ⟨a, ha, rfl⟩
        rw [Holding.spelling_change] at hkey
        rwa [Holding.change_of_ne f hkey]
      · intro hmem
        exact ⟨h, hmem, Holding.change_of_ne f hkey⟩

/-- To supply a name changes the list as it changes the map. -/
theorem Lists.supply {m : NameMap} {attrs : List Attribute} (hm : m.IsSound)
    (h : m.Lists attrs) (name : String) (f : List Value → List Value) :
    (m.supply name f).Lists (Attribute.update name f attrs) := by
  cases hname : m.held? (Text.foldCase name) with
  | none => exact h.supply_of_none hm hname f
  | some h₀ => exact h.supply_of_some hm hname f

theorem Lists.drop {m : NameMap} {attrs : List Attribute} (h : m.Lists attrs)
    (gone : String → Bool) : (m.drop gone).Lists (attrs.filter fun a => ! gone a.key) := by
  obtain ⟨hs, rfl, hsince, hheld⟩ := h
  refine ⟨hs.filter fun h => ! gone (Text.foldCase h.spelling), ?_, hsince.filter _, fun h => ?_⟩
  · rw [List.filter_map]
    rfl
  · rw [List.mem_filter, hheld]
    cases hgone : gone (Text.foldCase h.spelling) with
    | true => simp [NameMap.drop, hgone]
    | false => simp [NameMap.drop, hgone]

theorem Lists.update {m : NameMap} {r : Record} (hm : m.IsSound) (h : m.Lists r.attributes)
    (u : Record.Update) : (m.update u).Lists (r.update u).attributes := by
  cases u with
  | addValue name value => exact h.supply hm name (· ++ [value])
  | addValues name values => exact h.supply hm name (· ++ values)
  | setValues name values => exact h.supply hm name fun _ => values
  | remove name =>
      have hdrop := h.drop (· == Text.foldCase name)
      rw [Record.update, Record.remove_eq, Record.erase]
      simp only [Attribute.eraseP_isNamed h.nodup]
      exact hdrop
  | clear =>
      have hdrop := h.drop fun _ => true
      have hnone : r.attributes.filter (fun _ => ! true) = [] := by simp
      rw [hnone] at hdrop
      exact hdrop

/-- Updates made one after another change a record as they change the map. -/
theorem Lists.updateAll {m : NameMap} {r : Record} (hm : m.IsSound) (h : m.Lists r.attributes)
    (updates : List Record.Update) :
    (updates.foldl NameMap.update m).IsSound ∧
      (updates.foldl NameMap.update m).Lists (r.updateAll updates).attributes := by
  induction updates generalizing m r with
  | nil => exact ⟨hm, h⟩
  | cons u rest ih => exact ih (hm.update u) (h.update hm u)

theorem lists_ofUpdates (dn : String) (updates : List Record.Update) :
    (ofUpdates updates).IsSound ∧
      (ofUpdates updates).Lists ((Record.new dn).updateAll updates).attributes :=
  lists_empty.updateAll isSound_empty updates

end NameMap

/-! ## Other names -/

namespace Attribute

theorem filter_update (name : String) (f : List Value → List Value) (attrs : List Attribute) :
    (update name f attrs).filter (! ·.isNamed name) = attrs.filter (! ·.isNamed name) := by
  induction attrs with
  | nil =>
      have hname : isNamed ⟨name, f []⟩ name = true := Text.sameName_self name
      rw [update, List.filter_cons_of_neg (by simp [hname])]
  | cons a rest ih =>
      rw [update]
      split
      · next ha =>
          have ha' : isNamed { a with values := f a.values } name = true := ha
          rw [List.filter_cons_of_neg (by simp [ha']), List.filter_cons_of_neg (by simp [ha])]
      · next ha =>
          rw [List.filter_cons_of_pos (by simpa using ha),
            List.filter_cons_of_pos (by simpa using ha), ih]

theorem getElem?_update {name : String} (f : List Value → List Value) {attrs : List Attribute}
    {i : Nat} {a : Attribute} (h : attrs[i]? = some a) (ha : a.isNamed name = false) :
    (update name f attrs)[i]? = some a := by
  induction attrs generalizing i with
  | nil => cases h
  | cons b rest ih =>
      rw [update]
      cases i with
      | zero =>
          cases h
          rw [if_neg (by simp [ha])]
          rfl
      | succ i =>
          rw [List.getElem?_cons_succ] at h
          split
          · rw [List.getElem?_cons_succ, h]
          · rw [List.getElem?_cons_succ, ih h]

theorem filter_eraseP (name : String) (attrs : List Attribute) :
    (attrs.eraseP (·.isNamed name)).filter (! ·.isNamed name) =
      attrs.filter (! ·.isNamed name) := by
  induction attrs with
  | nil => rfl
  | cons a rest ih =>
      rw [List.eraseP_cons]
      cases ha : a.isNamed name with
      | true => rw [cond_true, List.filter_cons_of_neg (by simp [ha])]
      | false =>
          rw [cond_false, List.filter_cons_of_pos (by simp [ha]),
            List.filter_cons_of_pos (by simp [ha]), ih]

end Attribute

namespace Record

/-- An update under a name leaves the other attributes as they are, in their order. -/
theorem filter_update {r : Record} {u : Update} {name : String} (h : u.name? = some name) :
    (r.update u).attributes.filter (! ·.isNamed name) =
      r.attributes.filter (! ·.isNamed name) := by
  cases u with
  | clear => cases h
  | remove name' =>
      cases h
      rw [update, remove_eq]
      exact Attribute.filter_eraseP name r.attributes
  | addValue name' value =>
      cases h
      exact Attribute.filter_update name _ r.attributes
  | addValues name' values =>
      cases h
      exact Attribute.filter_update name _ r.attributes
  | setValues name' values =>
      cases h
      exact Attribute.filter_update name _ r.attributes

/-- An update that takes nothing out leaves the other attributes in their places. -/
theorem getElem?_update {r : Record} {u : Update} {name : String} {i : Nat} {a : Attribute}
    (h : u.name? = some name) (hout : u.takesOut = false) (hi : r.attributes[i]? = some a)
    (ha : a.isNamed name = false) : (r.update u).attributes[i]? = some a := by
  cases u with
  | clear | remove name' => cases hout
  | addValue name' value =>
      cases h
      exact Attribute.getElem?_update _ hi ha
  | addValues name' values =>
      cases h
      exact Attribute.getElem?_update _ hi ha
  | setValues name' values =>
      cases h
      exact Attribute.getElem?_update _ hi ha

end Record

/-! ## Any number of updates -/

/-- What a record shows of its attributes is what a map holds: no two attributes have
the same name, what is found under a name in any spelling is what the map holds there,
the attributes stand in the order in which the map was supplied with them, and so the
values that are looked for are those in the map. -/
structure Record.Shows (r : Record) (m : NameMap) : Prop where
  namesDistinct : r.NamesDistinct
  attribute?_eq : ∀ name,
    r.attribute? name = (m.held? (Text.foldCase name)).map Holding.toAttribute
  lists : m.Lists r.attributes
  containsValue_iff : ∀ name value, r.containsValue name value = true ↔
    ∃ h, m.held? (Text.foldCase name) = some h ∧ ∃ v ∈ h.values, v.bytes = value.bytes
  firstText?_eq : ∀ name, r.firstText? name =
    (m.held? (Text.foldCase name)).bind fun h => h.values.head?.bind Value.text?
  firstBytes?_eq : ∀ name, r.firstBytes? name =
    (m.held? (Text.foldCase name)).bind fun h => h.values.head?.map Value.bytes

namespace Record

theorem shows_of_lists {r : Record} {m : NameMap} (hm : m.IsSound) (h : m.Lists r.attributes) :
    r.Shows m := by
  have hfind : ∀ name, r.attribute? name = (m.held? (Text.foldCase name)).map Holding.toAttribute :=
    h.find? hm
  refine ⟨h.nodup, hfind, h, fun name value => ?_, fun name => ?_, fun name => ?_⟩
  · rw [containsValue, hfind]
    cases m.held? (Text.foldCase name) with
    | none => simp
    | some holding => simp [Holding.toAttribute]
  · rw [firstText?, first?, hfind]
    cases m.held? (Text.foldCase name) <;> rfl
  · rw [firstBytes?, first?, hfind]
    cases m.held? (Text.foldCase name) <;> rfl

/-- A record that was made by updates shows what the map of these updates holds. A
further update under a name leaves the other attributes as they are, in their order,
and in their places unless it takes one out. To remove a name hands over what was held
under it, and nothing is found there afterwards. -/
theorem shows_updateAll (dn : String) (updates : List Update) :
    ((new dn).updateAll updates).Shows (NameMap.ofUpdates updates) ∧
    (∀ u name, u.name? = some name →
      (((new dn).updateAll updates).update u).attributes.filter (! ·.isNamed name) =
        ((new dn).updateAll updates).attributes.filter (! ·.isNamed name) ∧
      (u.takesOut = false → ∀ (i : Nat) a,
        ((new dn).updateAll updates).attributes[i]? = some a → a.isNamed name = false →
          (((new dn).updateAll updates).update u).attributes[i]? = some a)) ∧
    ∀ name,
      (((new dn).updateAll updates).remove name).1 =
        ((NameMap.ofUpdates updates).held? (Text.foldCase name)).map Holding.toAttribute ∧
      ∀ name', Text.sameName name name' = true →
        (((new dn).updateAll updates).remove name).2.attribute? name' = none := by
  obtain ⟨hsound, hlists⟩ := NameMap.lists_ofUpdates dn updates
  have hshows := shows_of_lists hsound hlists
  refine ⟨hshows, fun u name hname => ?_, fun name => ?_⟩
  · exact ⟨filter_update hname, fun hout i a hi ha => getElem?_update hname hout hi ha⟩
  · refine ⟨?_, fun name' hname => ?_⟩
    · rw [remove_eq]
      exact hshows.attribute?_eq name
    · have hremoved := shows_of_lists (hsound.update (.remove name))
        (hlists.update hsound (.remove name))
      have hgone : ((NameMap.ofUpdates updates).update (.remove name)).held?
          (Text.foldCase name') = none := by
        rw [← Text.sameName_iff.1 hname]
        simp [NameMap.update, NameMap.drop]
      have hfound := hremoved.attribute?_eq name'
      rw [hgone] at hfound
      exact hfound

/-- A name that comes back has the spelling of its return and stands last. -/
example :
    ((new "cn=a").updateAll [.addValues "SN" [], .addValue "cn" (.text "a"), .remove "sn",
      .addValue "Sn" (.text "b"), .addValue "SN" (.text "c")]).attributes =
        [⟨"cn", [.text "a"]⟩, ⟨"Sn", [.text "b", .text "c"]⟩] := by decide

end Record

end DirectoryClient
