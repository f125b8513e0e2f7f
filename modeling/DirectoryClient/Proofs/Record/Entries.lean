import DirectoryClient.Ldap.Request
import DirectoryClient.Proofs.Record.Multimap
import Mathlib.Data.List.Nodup

/-!
# From entries to records to requests

An entry has its attributes in two maps, and a record takes them over one by one, the
textual map first. The order within a map is of no consequence, as long as no two of
its names are equal up to ASCII case: taking over one attribute does nothing to what is
found under other names (`Record.attribute?_addAll_of_absent`), so what is found under a
name afterwards is decided by the one attribute of that name in either map.

`Entry.Supplies` says which attributes these are without any order. The record has
exactly them, so another order of the maps can only change their order; and the request
that adds the record lists them as they stand in it, each with the set of its values.
-/

namespace DirectoryClient

/-! ## Sets of values -/

namespace Ldap.ValueSet

theorem pairwise_insert {b : Bytes} {set : ValueSet} (h : set.Pairwise (· < ·)) :
    (insert b set).Pairwise (· < ·) := by
  induction set with
  | nil => exact List.pairwise_singleton _ _
  | cons c rest ih =>
      rw [List.pairwise_cons] at h
      obtain ⟨hc, hrest⟩ := h
      unfold insert
      split
      · exact List.pairwise_cons.2 ⟨hc, hrest⟩
      · next hne =>
          split
          · next hlt =>
              refine List.pairwise_cons.2 ⟨?_, List.pairwise_cons.2 ⟨hc, hrest⟩⟩
              intro d hd
              rcases List.mem_cons.1 hd with rfl | hd
              · exact hlt
              · exact List.lt_trans hlt (hc d hd)
          · next hnlt =>
              have hcb : c < b := Std.lt_of_le_of_ne (Std.not_lt.1 hnlt) (Ne.symm hne)
              refine List.pairwise_cons.2 ⟨?_, ih hrest⟩
              intro d hd
              rcases mem_insert.1 hd with rfl | hd
              · exact hcb
              · exact hc d hd

/-- A set lists each of its values once, in order. -/
theorem pairwise_ofValues (values : List Value) : (ofValues values).Pairwise (· < ·) := by
  induction values with
  | nil => exact List.Pairwise.nil
  | cons v rest ih => exact pairwise_insert ih

end Ldap.ValueSet

/-! ## Adding to a record -/

namespace Record

theorem attribute?_addValues_self {r : Record} {m n : String} {vs : List Value}
    (h : Text.sameName n m = true) :
    (r.addValues n vs).attribute? m =
      some (match r.attribute? m with
        | some a => { a with values := a.values ++ vs }
        | none => ⟨n, vs⟩) := by
  unfold addValues attribute?
  simp only []
  induction r.attributes with
  | nil =>
      have hnew : Attribute.isNamed ⟨n, [] ++ vs⟩ m = true := h
      simp only [Attribute.update, List.find?_cons, List.find?_nil]
      rw [hnew]
      rfl
  | cons a rest ih =>
      have hsame : a.isNamed n = a.isNamed m := by
        rw [Attribute.isNamed, Attribute.isNamed, Text.sameName, Text.sameName,
          Text.sameName_iff.1 h]
      rw [Attribute.update, hsame]
      cases ha : a.isNamed m with
      | true =>
          have ha' : Attribute.isNamed { a with values := a.values ++ vs } m = true := ha
          simp only [if_true, List.find?_cons, ha, ha']
      | false =>
          rw [if_neg Bool.false_ne_true]
          simp only [List.find?_cons, ha, ih]

theorem NamesDistinct.attribute?_eq_some_iff {r : Record} (h : r.NamesDistinct) {name : String}
    {a : Attribute} :
    r.attribute? name = some a ↔ a ∈ r.attributes ∧ a.key = Text.foldCase name :=
  Attribute.find?_isNamed_eq_some_iff h

/-- Adds the values of several attributes, one attribute after another. -/
def addAll (r : Record) (supply : List (String × List Value)) : Record :=
  supply.foldl (fun r p => r.addValues p.1 p.2) r

theorem NamesDistinct.addAll {r : Record} (h : r.NamesDistinct)
    (supply : List (String × List Value)) : (r.addAll supply).NamesDistinct := by
  induction supply generalizing r with
  | nil => exact h
  | cons p rest ih => exact ih (h.addValues p.1 p.2)

/-- Besides its attributes, nothing about a record changes. -/
theorem addAll_eq (r : Record) (supply : List (String × List Value)) :
    r.addAll supply = { r with attributes := (r.addAll supply).attributes } := by
  induction supply generalizing r with
  | nil => rfl
  | cons p rest ih => exact ih (r.addValues p.1 p.2)

theorem addAll_append (r : Record) (supply supply' : List (String × List Value)) :
    r.addAll (supply ++ supply') = (r.addAll supply).addAll supply' :=
  List.foldl_append

theorem attribute?_addAll_of_absent {r : Record} {supply : List (String × List Value)}
    {name : String} (h : ∀ p ∈ supply, Text.sameName p.1 name = false) :
    (r.addAll supply).attribute? name = r.attribute? name := by
  induction supply generalizing r with
  | nil => rfl
  | cons p rest ih =>
      obtain ⟨hp, hrest⟩ := List.forall_mem_cons.1 h
      have hadd : (r.addValues p.1 p.2).attribute? name = r.attribute? name :=
        attribute?_addValues_ne hp
      rw [← hadd]
      exact ih hrest

/-- No two names are equal up to ASCII case. -/
def Distinct {α : Type} (named : List (String × α)) : Prop :=
  (named.map fun p => Text.foldCase p.1).Nodup

theorem not_exists_of_absent {α : Type} {named : List (String × α)} {name : String}
    (h : ∀ p ∈ named, Text.sameName p.1 name = false) (P : α → Prop) :
    ¬ ∃ p ∈ named, Text.sameName p.1 name = true ∧ P p.2 := by
  rintro ⟨p, hp, hname, -⟩
  rw [h p hp] at hname
  cases hname

theorem Distinct.exists_iff {α : Type} {named : List (String × α)} (h : Distinct named)
    {p : String × α} (hp : p ∈ named) {name : String} (hname : Text.sameName p.1 name = true)
    (P : α → Prop) : (∃ q ∈ named, Text.sameName q.1 name = true ∧ P q.2) ↔ P p.2 := by
  rw [Text.sameName_iff] at hname
  constructor
  · rintro ⟨q, hq, hsame, hP⟩
    rw [Text.sameName_iff, ← hname] at hsame
    obtain rfl := List.inj_on_of_nodup_map h hq hp hsame
    exact hP
  · intro hP
    exact ⟨p, hp, Text.sameName_iff.2 hname, hP⟩

/-- Of attributes with distinct names only one is added to what is found under a name. -/
theorem attribute?_addAll_of_mem {r : Record} {supply : List (String × List Value)}
    (hdistinct : Distinct supply) {p : String × List Value} (hp : p ∈ supply) {name : String}
    (hname : Text.sameName p.1 name = true) :
    (r.addAll supply).attribute? name = (r.addValues p.1 p.2).attribute? name := by
  induction supply generalizing r with
  | nil => cases hp
  | cons q rest ih =>
      rw [Distinct, List.map_cons, List.nodup_cons] at hdistinct
      obtain ⟨hq, hrest⟩ := hdistinct
      rw [Text.sameName_iff] at hname
      show ((r.addValues q.1 q.2).addAll rest).attribute? name = _
      rcases List.mem_cons.1 hp with rfl | hp
      · -- no later attribute has the name
        apply attribute?_addAll_of_absent
        intro q' hq'
        rw [Bool.eq_false_iff, ne_eq, Text.sameName_iff, ← hname]
        intro heq
        exact hq (List.mem_map.2 ⟨q', hq', heq⟩)
      · -- the first attribute has another name
        have hne : Text.sameName q.1 name = false := by
          rw [Bool.eq_false_iff, ne_eq, Text.sameName_iff, ← hname]
          intro heq
          exact hq (List.mem_map.2 ⟨p, hp, heq.symm⟩)
        have hsame : Text.sameName p.1 name = true := Text.sameName_iff.2 hname
        rw [ih hrest hp, attribute?_addValues_self hsame, attribute?_addValues_self hsame,
          attribute?_addValues_ne hne]

end Record

namespace Entry

/-! ## What an entry supplies -/

/-- No two names within a map are equal up to ASCII case. A name may be in both maps. -/
structure NamesDistinct (e : Entry) : Prop where
  texts : Record.Distinct e.texts
  binaries : Record.Distinct e.binaries

/-- Whether either map has a name, in whatever spelling. -/
def HasName (e : Entry) (name : String) : Prop :=
  (∃ p ∈ e.texts, Text.sameName p.1 name = true) ∨
    ∃ p ∈ e.binaries, Text.sameName p.1 name = true

/-- Whether either map has octets among the values of a name. -/
def HasOctets (e : Entry) (name : String) (b : Bytes) : Prop :=
  (∃ p ∈ e.texts, Text.sameName p.1 name = true ∧ ∃ t ∈ p.2, Text.bytes t = b) ∨
    ∃ p ∈ e.binaries, Text.sameName p.1 name = true ∧ b ∈ p.2

/-- The attributes that an entry stands for. A name in both maps is spelled as in the
textual one, and the texts come first. -/
inductive Supplies (e : Entry) : Attribute → Prop
  | both {name name' : String} {texts : List String} {octets : List Bytes} :
      (name, texts) ∈ e.texts → (name', octets) ∈ e.binaries →
      Text.sameName name' name = true →
      Supplies e ⟨name, texts.map .text ++ octets.map .binary⟩
  | texts {name : String} {texts : List String} :
      (name, texts) ∈ e.texts → (∀ p ∈ e.binaries, Text.sameName p.1 name = false) →
      Supplies e ⟨name, texts.map .text⟩
  | binaries {name : String} {octets : List Bytes} :
      (name, octets) ∈ e.binaries → (∀ p ∈ e.texts, Text.sameName p.1 name = false) →
      Supplies e ⟨name, octets.map .binary⟩

/-! ## The record of an entry -/

/-- A map with its values as those of a record. -/
def supply {α : Type} (kind : α → Value) (named : List (String × List α)) :
    List (String × List Value) :=
  named.map fun p => (p.1, p.2.map kind)

theorem distinct_supply {α : Type} {kind : α → Value} {named : List (String × List α)}
    (h : Record.Distinct named) : Record.Distinct (supply kind named) := by
  rw [Record.Distinct, supply, List.map_map]
  exact h

theorem mem_supply {α : Type} (kind : α → Value) {named : List (String × List α)}
    {p : String × List α} (h : p ∈ named) : (p.1, p.2.map kind) ∈ supply kind named :=
  List.mem_map_of_mem h

theorem absent_supply {α : Type} {kind : α → Value} {named : List (String × List α)}
    {name : String} (h : ∀ p ∈ named, Text.sameName p.1 name = false) :
    ∀ p ∈ supply kind named, Text.sameName p.1 name = false := by
  intro p hp
  obtain ⟨q, hq, rfl⟩ := List.mem_map.1 hp
  exact h q hq

theorem toRecord_eq (e : Entry) :
    e.toRecord =
      ((Record.new e.dn).addAll (supply .text e.texts)).addAll (supply .binary e.binaries) := by
  simp only [toRecord, Record.addAll, supply, List.foldl_map]

/-- After the textual map, its attributes are all there is. -/
theorem attribute?_texts {e : Entry} (h : e.NamesDistinct) {name : String} {texts : List String}
    (hmem : (name, texts) ∈ e.texts) :
    ((Record.new e.dn).addAll (supply .text e.texts)).attribute? name =
      some ⟨name, texts.map .text⟩ := by
  have hself : Text.sameName name name = true := Text.sameName_self name
  rw [Record.attribute?_addAll_of_mem (distinct_supply h.texts) (mem_supply .text hmem) hself,
    Record.attribute?_addValues_self hself]
  rfl

theorem attribute?_texts_of_absent {e : Entry} {name : String}
    (h : ∀ p ∈ e.texts, Text.sameName p.1 name = false) :
    ((Record.new e.dn).addAll (supply .text e.texts)).attribute? name = none := by
  rw [Record.attribute?_addAll_of_absent (absent_supply h)]
  rfl

theorem Supplies.attribute?_toRecord {e : Entry} (h : e.NamesDistinct) {a : Attribute}
    (ha : e.Supplies a) : e.toRecord.attribute? a.name = some a := by
  rw [toRecord_eq]
  cases ha with
  | both htexts hoctets hname =>
      rw [Record.attribute?_addAll_of_mem (distinct_supply h.binaries)
        (mem_supply .binary hoctets) hname, Record.attribute?_addValues_self hname,
        attribute?_texts h htexts]
  | texts htexts habsent =>
      rw [Record.attribute?_addAll_of_absent (absent_supply habsent), attribute?_texts h htexts]
  | @binaries name octets hoctets habsent =>
      have hself : Text.sameName name name = true := Text.sameName_self name
      rw [Record.attribute?_addAll_of_mem (distinct_supply h.binaries)
        (mem_supply .binary hoctets) hself, Record.attribute?_addValues_self hself,
        attribute?_texts_of_absent habsent]

/-- What neither map names is not in the record. -/
theorem attribute?_toRecord_of_not_hasName {e : Entry} {name : String} (h : ¬ e.HasName name) :
    e.toRecord.attribute? name = none := by
  rw [HasName, not_or] at h
  rw [toRecord_eq, Record.attribute?_addAll_of_absent, attribute?_texts_of_absent]
  · intro p hp
    exact Bool.eq_false_iff.2 fun hname => h.1 ⟨p, hp, hname⟩
  · apply absent_supply
    intro p hp
    exact Bool.eq_false_iff.2 fun hname => h.2 ⟨p, hp, hname⟩

/-- Every name of either map has an attribute. -/
theorem exists_supplies {e : Entry} {name : String} (h : e.HasName name) :
    ∃ a, e.Supplies a ∧ a.isNamed name = true := by
  by_cases htexts : ∃ p ∈ e.texts, Text.sameName p.1 name = true
  · obtain ⟨⟨name', texts⟩, hmem, hname⟩ := htexts
    by_cases hoctets : ∃ q ∈ e.binaries, Text.sameName q.1 name' = true
    · obtain ⟨⟨name'', octets⟩, hmem', hname'⟩ := hoctets
      exact ⟨_, .both hmem hmem' hname', hname⟩
    · refine ⟨_, .texts hmem fun q hq => ?_, hname⟩
      exact Bool.eq_false_iff.2 fun hsame => hoctets ⟨q, hq, hsame⟩
  · obtain ⟨⟨name', octets⟩, hmem, hname⟩ := h.resolve_left htexts
    refine ⟨_, .binaries hmem fun p hp => ?_, hname⟩
    rw [Text.sameName_iff] at hname
    refine Bool.eq_false_iff.2 fun hsame => htexts ⟨p, hp, ?_⟩
    rw [Text.sameName_iff] at hsame ⊢
    exact hsame.trans hname

theorem Supplies.hasName {e : Entry} {a : Attribute} (h : e.Supplies a) {name : String}
    (hname : a.isNamed name = true) : e.HasName name := by
  cases h with
  | both htexts _ _ => exact .inl ⟨_, htexts, hname⟩
  | texts htexts _ => exact .inl ⟨_, htexts, hname⟩
  | binaries hoctets _ => exact .inr ⟨_, hoctets, hname⟩

/-- The attributes of the record are those that the entry stands for. -/
theorem mem_attributes_iff {e : Entry} (h : e.NamesDistinct) {a : Attribute} :
    a ∈ e.toRecord.attributes ↔ e.Supplies a := by
  have hdistinct := Record.namesDistinct_toRecord e
  constructor
  · intro ha
    have hfound : e.toRecord.attribute? a.name = some a :=
      hdistinct.attribute?_eq_some_iff.2 ⟨ha, rfl⟩
    by_cases hname : e.HasName a.name
    · obtain ⟨a', ha', hsame⟩ := exists_supplies hname
      -- both are found under the one name
      have hmem' := hdistinct.attribute?_eq_some_iff.1 (ha'.attribute?_toRecord h)
      have hfound' : e.toRecord.attribute? a.name = some a' :=
        hdistinct.attribute?_eq_some_iff.2 ⟨hmem'.1, Attribute.isNamed_iff.1 hsame⟩
      rw [hfound] at hfound'
      cases hfound'
      exact ha'
    · rw [attribute?_toRecord_of_not_hasName hname] at hfound
      cases hfound
  · intro ha
    exact (hdistinct.attribute?_eq_some_iff.1 (ha.attribute?_toRecord h)).1

/-! ## Other orders of the maps -/

theorem NamesDistinct.of_perm {e e' : Entry} (h : e.NamesDistinct)
    (htexts : e'.texts.Perm e.texts) (hbinaries : e'.binaries.Perm e.binaries) :
    e'.NamesDistinct where
  texts := (htexts.map _).nodup_iff.2 h.texts
  binaries := (hbinaries.map _).nodup_iff.2 h.binaries

theorem Supplies.of_perm {e e' : Entry} (htexts : e'.texts.Perm e.texts)
    (hbinaries : e'.binaries.Perm e.binaries) {a : Attribute} (ha : e.Supplies a) :
    e'.Supplies a := by
  cases ha with
  | both hmem hmem' hname => exact .both (htexts.mem_iff.2 hmem) (hbinaries.mem_iff.2 hmem') hname
  | texts hmem habsent =>
      exact .texts (htexts.mem_iff.2 hmem) fun q hq => habsent q (hbinaries.mem_iff.1 hq)
  | binaries hmem habsent =>
      exact .binaries (hbinaries.mem_iff.2 hmem) fun p hp => habsent p (htexts.mem_iff.1 hp)

theorem nodup_attributes (e : Entry) : e.toRecord.attributes.Nodup :=
  List.Nodup.of_map Attribute.key (Record.namesDistinct_toRecord e)

theorem perm_attributes {e e' : Entry} (h : e.NamesDistinct) (htexts : e'.texts.Perm e.texts)
    (hbinaries : e'.binaries.Perm e.binaries) :
    e'.toRecord.attributes.Perm e.toRecord.attributes := by
  rw [List.perm_ext_iff_of_nodup (nodup_attributes e') (nodup_attributes e)]
  intro a
  rw [mem_attributes_iff h, mem_attributes_iff (h.of_perm htexts hbinaries)]
  constructor
  · exact Supplies.of_perm htexts.symm hbinaries.symm
  · exact Supplies.of_perm htexts hbinaries

/-- In whichever order the maps are gone through, the attributes are the same. -/
theorem perm_attributes_arrange {e : Entry} (h : e.NamesDistinct) (o : Order) :
    (e.arrange o).toRecord.attributes.Perm e.toRecord.attributes :=
  perm_attributes h (o.texts_perm e.texts) (o.binaries_perm e.binaries)

/-- All but the attributes of the record comes from the name of the entry. -/
theorem toRecord_eq_of_attributes (e : Entry) :
    e.toRecord = { Record.new e.dn with attributes := e.toRecord.attributes } := by
  have h := (Record.new e.dn).addAll_eq (supply .text e.texts ++ supply .binary e.binaries)
  rwa [Record.addAll_append, ← toRecord_eq] at h

/-! ## The values -/

theorem Supplies.mem_bytes_iff {e : Entry} (h : e.NamesDistinct) {a : Attribute}
    (ha : e.Supplies a) (b : Bytes) :
    (∃ v ∈ a.values, v.bytes = b) ↔ e.HasOctets a.name b := by
  have hself : ∀ name, Text.sameName name name = true := Text.sameName_self
  rw [HasOctets]
  cases ha with
  | both htexts hoctets hname =>
      rw [h.texts.exists_iff htexts (hself _) fun texts => ∃ t ∈ texts, Text.bytes t = b,
        h.binaries.exists_iff hoctets hname fun octets => b ∈ octets]
      simp [Value.bytes, or_and_right, exists_or]
  | texts htexts habsent =>
      have hnone := Record.not_exists_of_absent habsent fun octets => b ∈ octets
      rw [h.texts.exists_iff htexts (hself _) fun texts => ∃ t ∈ texts, Text.bytes t = b,
        or_iff_left hnone]
      simp [Value.bytes]
  | binaries hoctets habsent =>
      have hnone := Record.not_exists_of_absent habsent fun texts =>
        ∃ t ∈ texts, Text.bytes t = b
      rw [h.binaries.exists_iff hoctets (hself _) fun octets => b ∈ octets, or_iff_right hnone]
      simp [Value.bytes]

/-- Whatever the order of the maps of an entry, its record has exactly one attribute for
each name in either of them, and these are the attributes that the entry supplies. So the
order of the maps matters to the order of the attributes alone. A request to add the
record lists them once each, in their order, and with each the set of octets that the
values of its name have in either map. -/
theorem toRecord_supplies {e : Entry} (h : e.NamesDistinct) :
    (∀ name, e.HasName name ↔ ∃ a ∈ e.toRecord.attributes, a.isNamed name = true) ∧
    e.toRecord.NamesDistinct ∧
    (∀ a, a ∈ e.toRecord.attributes ↔ e.Supplies a) ∧
    (∀ e' : Entry, e'.dn = e.dn → e'.texts.Perm e.texts → e'.binaries.Perm e.binaries →
      e'.toRecord.attributes.Perm e.toRecord.attributes ∧
        e'.toRecord = { e.toRecord with attributes := e'.toRecord.attributes }) ∧
    (Ldap.attributeSets e.toRecord).map Prod.fst = e.toRecord.attributes.map Attribute.name ∧
    ∀ name set, (name, set) ∈ Ldap.attributeSets e.toRecord →
      set.Pairwise (· < ·) ∧ ∀ b, b ∈ set ↔ e.HasOctets name b := by
  refine ⟨fun name => ⟨fun hname => ?_, ?_⟩, Record.namesDistinct_toRecord e,
    fun a => mem_attributes_iff h, fun e' hdn htexts hbinaries => ⟨?_, ?_⟩, ?_, ?_⟩
  · obtain ⟨a, ha, hnamed⟩ := exists_supplies hname
    exact ⟨a, (mem_attributes_iff h).2 ha, hnamed⟩
  · rintro ⟨a, ha, hnamed⟩
    exact ((mem_attributes_iff h).1 ha).hasName hnamed
  · exact perm_attributes h htexts hbinaries
  · rw [toRecord_eq_of_attributes e', toRecord_eq_of_attributes e, hdn]
  · rw [Ldap.attributeSets, List.map_map]
    rfl
  · intro name set hset
    obtain ⟨a, ha, heq⟩ := List.mem_map.1 hset
    cases heq
    refine ⟨Ldap.ValueSet.pairwise_ofValues a.values, fun b => ?_⟩
    rw [Ldap.ValueSet.mem_ofValues]
    exact ((mem_attributes_iff h).1 ha).mem_bytes_iff h b

/-- A name in both maps, in two spellings and with a value that is in both. -/
theorem toRecord_supplies_mail :
    NamesDistinct ⟨"cn=a", [("sn", ["b"]), ("Mail", ["x", "y"])], [("MAIL", [[0xFF], [0x79]])]⟩ ∧
    Ldap.attributeSets (toRecord
        ⟨"cn=a", [("sn", ["b"]), ("Mail", ["x", "y"])], [("MAIL", [[0xFF], [0x79]])]⟩) =
      [("sn", [[0x62]]), ("Mail", [[0x78], [0x79], [0xFF]])] ∧
    Supplies ⟨"cn=a", [("sn", ["b"]), ("Mail", ["x", "y"])], [("MAIL", [[0xFF], [0x79]])]⟩
      ⟨"Mail", [.text "x", .text "y", .binary [0xFF], .binary [0x79]]⟩ := by
  have hdistinct : NamesDistinct
      ⟨"cn=a", [("sn", ["b"]), ("Mail", ["x", "y"])], [("MAIL", [[0xFF], [0x79]])]⟩ := by
    constructor <;> unfold Record.Distinct <;> decide
  obtain ⟨-, -, hmem, -⟩ := toRecord_supplies hdistinct
  exact ⟨hdistinct, by decide, (hmem _).1 (by decide)⟩

end Entry

end DirectoryClient
