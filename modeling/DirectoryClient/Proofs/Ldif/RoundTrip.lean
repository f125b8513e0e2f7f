import DirectoryClient.Proofs.Ldif.Acceptance
import DirectoryClient.Proofs.Ldif.Rendering
import DirectoryClient.Proofs.Ldif.Writing

/-!
# Reading what was written

Records that are written one behind the other are read back one by one. Not
everything of a record is written: `Record.normal` says what is left, the names
of attributes in small letters, values as text where they can be, and no
attribute without a value.

The writer and the reader meet at the items of the grammar. The lines of a record
render its items (`Record.renders_items`), its items describe its normal form
(`Record.describes_items`), and so every record is a block of its own.
-/

namespace DirectoryClient

open Ldif

/-! ## What is left of a record -/

/-- A value by its octets: text where possible. -/
def Value.normal (v : Value) : Value := ofBytes v.bytes

/-- An attribute as it is read. -/
def Attribute.normal (a : Attribute) : Attribute := ⟨a.key, a.values.map Value.normal⟩

/-- An edit as it is read. -/
def Edit.normal (e : Edit) : Edit := { e with values := e.values.map Value.normal }

namespace Record

/-- The attributes that have values. -/
def supplied (r : Record) : List Attribute := r.attributes.filter fun a => !a.values.isEmpty

/-- A record as it is read after it was written. -/
def normal (r : Record) : Record where
  dn := r.dn
  relativeName := none
  isContent := r.writtenChange.isNone
  change := r.writtenChange
  edits := if r.writtenChange = some .modify then r.edits.map Edit.normal else []
  attributes :=
    if r.writtenChange = none ∨ r.writtenChange = some .add then
      r.supplied.map Attribute.normal
    else []

/-- What a record needs to be read as it was written: a name, plain names within,
and, for an entry, no first attribute that would be read as something else. -/
structure Legible (r : Record) : Prop where
  dn : r.dn ≠ ""
  names : ∀ a ∈ r.supplied, Plain a.name
  edits : r.writtenChange = some .modify → ∀ e ∈ r.edits, Plain e.name
  first : r.writtenChange = none → ∀ a ∈ r.supplied.head?,
    Text.sameName a.name "changetype" = false ∧ Text.sameName a.name "control" = false

/-- What a record needs to be read as it was written, provided that its lines
stay what they are: no names that would be read as something else, and in all of
them only allowed characters. The name of an edit that has no values is read like
a value, so it may be almost anything. -/
structure Readable (ok : Char → Prop) (r : Record) : Prop where
  names : ∀ a ∈ r.supplied, FieldName ok a.name
  edits : r.writtenChange = some .modify → ∀ e ∈ r.edits, e.name.toList.head? ≠ some ' ' ∧
    (∀ c ∈ e.name.toList, ok c) ∧ (e.values ≠ [] → FieldName ok e.name)
  first : r.writtenChange = none → ∀ a ∈ r.supplied.head?,
    Text.sameName a.name "changetype" = false ∧ Text.sameName a.name "control" = false

theorem Legible.readable {r : Record} (h : r.Legible) : r.Readable NoLineEnd where
  names a ha := (h.names a ha).fieldName
  edits hchange e he :=
    have hname := (h.edits hchange e he).fieldName
    ⟨hname.space, hname.chars, fun _ => hname⟩
  first := h.first

end Record

/-! ## Items -/

/-- The fields of an attribute. -/
def Attribute.fields (a : Attribute) : List Ldif.Field := a.values.map fun v => ⟨a.key, v.normal⟩

/-- The items of an edit. -/
def Edit.items (e : Edit) : List Item :=
  .field ⟨e.kind.keyword, .text e.name⟩ ::
    ((e.values.map fun v => Ldif.Field.mk (Text.foldCase e.name) v.normal).map .field ++ [.separator])

namespace Record

/-- The items after the name and the kind of change. -/
def bodyItems (r : Record) : List Item :=
  match r.writtenChange with
  | none | some .add => (r.supplied.flatMap Attribute.fields).map .field
  | some .modify => r.edits.flatMap Edit.items
  | some .delete | some .rename => []

/-- All items of a record. -/
def items (r : Record) : List Item :=
  .field ⟨"dn", .text r.dn⟩ ::
    ((r.writtenChange.map fun kind => Item.field ⟨"changetype", .text kind.keyword⟩).toList ++
      r.bodyItems)

end Record

/-! ## Lines and items -/

section

variable {ok : Char → Prop} (hok : AllowsPrintable ok)

include hok

/-- The names that are written of the writer's own accord are made of letters. -/
theorem fieldName_of_letters {name : String} (hne : name.toList ≠ [])
    (h : name.toList.all (fun c => 97 ≤ c.toNat) = true) : FieldName ok name := by
  have hletter : ∀ c ∈ name.toList, 97 ≤ c.toNat := by simpa using h
  refine ⟨hne, fun hc => ?_, fun hhead => ?_, fun hhead => ?_, fun c hc => ?_⟩
  · exact absurd (hletter _ hc) (by decide)
  · exact absurd (hletter _ (List.mem_of_mem_head? hhead)) (by decide)
  · exact absurd (hletter _ (List.mem_of_mem_head? hhead)) (by decide)
  · exact hok c (Nat.le_trans (by decide) (hletter c hc))

theorem fieldName_dn : FieldName ok "dn" := fieldName_of_letters hok (by decide) (by decide)

theorem fieldName_changetype : FieldName ok "changetype" :=
  fieldName_of_letters hok (by decide) (by decide)

theorem EditKind.fieldName_keyword (kind : EditKind) : FieldName ok kind.keyword := by
  cases kind <;> exact fieldName_of_letters hok (by decide) (by decide)

omit hok in
theorem EditKind.foldCase_keyword (kind : EditKind) :
    Text.foldCase kind.keyword = kind.keyword := by
  cases kind <;> decide

theorem Attribute.renders_lines {a : Attribute} (h : FieldName ok a.name) :
    Renders ok a.lines (a.fields.map .field) := by
  have hmap : a.fields.map Item.field =
      a.values.flatMap fun v => [Item.field ⟨a.key, v.normal⟩] := by
    rw [fields, List.map_map, List.map_eq_flatMap]
    rfl
  rw [hmap, lines]
  exact Renders.flatMap fun v _ => renders_valueLines hok h v.bytes

theorem Edit.renders_lines {e : Edit} (hspace : e.name.toList.head? ≠ some ' ')
    (hchars : ∀ c ∈ e.name.toList, ok c) (hname : e.values ≠ [] → FieldName ok e.name) :
    Renders ok e.lines e.items := by
  have hopen := renders_keyword hok (e.kind.fieldName_keyword hok) hspace hchars
  rw [e.kind.foldCase_keyword] at hopen
  have hvalues : Renders ok (e.values.flatMap fun v => valueLines e.name v.bytes)
      (e.values.flatMap fun v => [Item.field ⟨Text.foldCase e.name, v.normal⟩]) :=
    Renders.flatMap fun v hv => renders_valueLines hok (hname (List.ne_nil_of_mem hv)) v.bytes
  rw [← List.map_eq_flatMap] at hvalues
  have hall := hopen.append (hvalues.append (Renders.separator hok))
  simpa [lines, items, Function.comp_def] using hall

namespace Record

omit hok in
theorem flatMap_supplied {α : Type} (f : Attribute → List α)
    (hf : ∀ a : Attribute, a.values = [] → f a = []) (r : Record) :
    r.supplied.flatMap f = r.attributes.flatMap f := by
  unfold supplied
  induction r.attributes with
  | nil => rfl
  | cons a rest ih =>
      by_cases ha : a.values = []
      · simp [ha, hf a ha, ih]
      · simp [ha, ih]

theorem renders_attributes {r : Record} (h : ∀ a ∈ r.supplied, FieldName ok a.name) :
    Renders ok (r.attributes.flatMap Attribute.lines)
      ((r.supplied.flatMap Attribute.fields).map .field) := by
  rw [← flatMap_supplied Attribute.lines (fun a ha => by rw [Attribute.lines, ha]; rfl),
    List.map_flatMap]
  exact Renders.flatMap fun a ha => Attribute.renders_lines hok (h a ha)

theorem renders_bodyItems {r : Record} (h : r.Readable ok) :
    Renders ok r.bodyLines r.bodyItems := by
  cases hchange : r.writtenChange with
  | none =>
      simp only [bodyLines, bodyItems, hchange]
      exact renders_attributes hok h.names
  | some kind =>
      simp only [bodyLines, bodyItems, hchange]
      cases kind with
      | add => exact renders_attributes hok h.names
      | modify =>
          refine Renders.flatMap fun e he => ?_
          obtain ⟨hspace, hchars, hname⟩ := h.edits hchange e he
          exact Edit.renders_lines hok hspace hchars hname
      | delete | rename => exact Renders.nil

end Record

theorem ChangeKind.renders_keyword (kind : ChangeKind) :
    Renders ok [("changetype: " ++ kind.keyword).toList]
      [.field ⟨"changetype", .text kind.keyword⟩] := by
  have hname : FieldName ok kind.keyword := by
    cases kind <;> exact fieldName_of_letters hok (by decide) (by decide)
  exact Ldif.renders_keyword hok (fieldName_changetype hok) hname.space hname.chars

/-- The lines of a record, but for the blank one, are read as its items. -/
theorem Record.renders_items {r : Record} (h : r.Readable ok) :
    ∃ physical, r.lines = physical ++ [[]] ∧ Renders ok physical r.items := by
  have hdn : Renders ok (valueLines "dn" (Text.bytes r.dn)) [.field ⟨"dn", .text r.dn⟩] := by
    have hlines := renders_valueLines hok (fieldName_dn hok) (Text.bytes r.dn)
    rwa [Value.ofBytes, Text.ofBytes?_bytes] at hlines
  have hbody := renders_bodyItems hok h
  cases hchange : r.writtenChange with
  | none =>
      refine ⟨valueLines "dn" (Text.bytes r.dn) ++ r.bodyLines, ?_, ?_⟩
      · simp [lines, hchange]
      · have hall := hdn.append hbody
        simpa [items, hchange] using hall
  | some kind =>
      refine ⟨valueLines "dn" (Text.bytes r.dn) ++
        ([("changetype: " ++ kind.keyword).toList] ++ r.bodyLines), ?_, ?_⟩
      · simp [lines, hchange]
      · have hall := hdn.append ((kind.renders_keyword hok).append hbody)
        simpa [items, hchange] using hall

theorem Record.chars_lines {r : Record} (h : r.Readable ok) : ∀ l ∈ r.lines, ∀ c ∈ l, ok c := by
  obtain ⟨physical, hlines, hrenders⟩ := r.renders_items hok h
  intro l hl
  rw [hlines] at hl
  rcases List.mem_append.1 hl with hl | hl
  · exact hrenders.chars hok l hl
  · obtain rfl := List.mem_singleton.1 hl
    simp

end

/-! ## Items and records -/

/-- Adds the values of fields to attributes one after another. -/
def Attribute.addFields (attrs : List Attribute) (fields : List Ldif.Field) : List Attribute :=
  fields.foldl (fun attrs f => update f.name (· ++ [f.value]) attrs) attrs

theorem Record.addFields_eq (r : Record) (fields : List Ldif.Field) :
    r.addFields fields = { r with attributes := Attribute.addFields r.attributes fields } := by
  induction fields generalizing r with
  | nil => rfl
  | cons f rest ih => exact ih (r.addValue f.name f.value)

namespace Attribute

/-- Further values of the last attribute are added to it. -/
theorem addFields_last {name : String} {front : List Attribute} {values : List Value}
    (hname : Text.foldCase name ∉ front.map key) (more : List Value) :
    addFields (front ++ [⟨name, values⟩]) (more.map (Ldif.Field.mk name)) =
      front ++ [⟨name, values ++ more⟩] := by
  induction more generalizing values with
  | nil => simp [addFields]
  | cons v rest ih =>
      have hstep : update name (· ++ [v]) (front ++ [⟨name, values⟩]) =
          front ++ [⟨name, values ++ [v]⟩] :=
        update_append_cons hname (isNamed_iff.2 rfl)
      rw [List.map_cons, addFields, List.foldl_cons]
      simp only [hstep]
      rw [← addFields, ih, List.append_assoc, List.singleton_append]

/-- The fields of an attribute whose name is new make the attribute as it is
read. -/
theorem addFields_fields {a : Attribute} {front : List Attribute} (hne : a.values ≠ [])
    (hname : a.key ∉ front.map key) : addFields front a.fields = front ++ [a.normal] := by
  have hfold : Text.foldCase a.key = a.key := Text.foldCase_foldCase a.name
  rw [← hfold] at hname
  obtain ⟨v, rest, hvalues⟩ := List.exists_cons_of_ne_nil hne
  have hstep : update a.key (· ++ [v.normal]) front = front ++ [⟨a.key, [v.normal]⟩] :=
    update_of_notMem hname
  have hrest := @addFields_last a.key front [v.normal] hname (rest.map Value.normal)
  rw [fields, normal, hvalues, List.map_cons, List.map_cons, addFields, List.foldl_cons]
  simp only [hstep]
  rw [← addFields]
  simpa [Function.comp_def] using hrest

/-- The fields of attributes with distinct names make the attributes as they are
read. The induction is on the attributes that are still to come; none of them has
the name of one that is already there. -/
theorem addFields_flatMap {attrs front : List Attribute} (hne : ∀ a ∈ attrs, a.values ≠ [])
    (hnames : (front.map key ++ attrs.map key).Nodup) :
    addFields front (attrs.flatMap fields) = front ++ attrs.map normal := by
  induction attrs generalizing front with
  | nil => simp [addFields]
  | cons a rest ih =>
      obtain ⟨ha, hrest⟩ := List.forall_mem_cons.1 hne
      have hkey : a.normal.key = a.key := Text.foldCase_foldCase a.name
      have hnew : a.key ∉ front.map key := by
        intro hmem
        exact (List.nodup_append.1 hnames).2.2 _ hmem _ (by simp) rfl
      have happend : addFields front (a.fields ++ rest.flatMap fields) =
          addFields (addFields front a.fields) (rest.flatMap fields) := by
        simp [addFields]
      rw [List.flatMap_cons, happend, addFields_fields ha hnew, ih hrest]
      · simp
      · simpa [hkey] using hnames

end Attribute

namespace Record

theorem supplied_values {r : Record} : ∀ a ∈ r.supplied, a.values ≠ [] := by
  intro a ha
  simpa using (List.mem_filter.1 ha).2

/-- What the fields of a record make of a record without attributes. -/
theorem addFields_supplied {r : Record} (h : r.NamesDistinct) (start : Record)
    (hstart : start.attributes = []) :
    start.addFields (r.supplied.flatMap Attribute.fields) =
      { start with attributes := r.supplied.map Attribute.normal } := by
  have hnames : (r.supplied.map Attribute.key).Nodup :=
    List.Nodup.sublist (List.filter_sublist.map Attribute.key) h
  rw [addFields_eq, hstart, Attribute.addFields_flatMap supplied_values (by simpa using hnames)]
  rfl

theorem edits_items (edits : List Edit) :
    Edits (edits.flatMap Edit.items) (edits.map Edit.normal) := by
  induction edits with
  | nil => exact .nil
  | cons e rest ih =>
      have hnames : ∀ f ∈ e.values.map fun v => Ldif.Field.mk (Text.foldCase e.name) v.normal,
          Text.sameName e.name f.name = true := by
        intro f hf
        obtain ⟨v, -, rfl⟩ := List.mem_map.1 hf
        exact Text.sameName_iff.2 (Text.foldCase_foldCase e.name).symm
      have hedit := Edits.cons e.kind e.name hnames ih
      simpa [Edit.items, Edit.normal, Function.comp_def] using hedit

theorem exists_of_head?_fields {r : Record} {f : Ldif.Field}
    (h : f ∈ (r.supplied.flatMap Attribute.fields).head?) :
    ∃ a ∈ r.supplied.head?, f.name = a.key := by
  cases hsupplied : r.supplied with
  | nil =>
      rw [hsupplied] at h
      cases h
  | cons a rest =>
      have hne : a.values ≠ [] := supplied_values (r := r) a (by simp [hsupplied])
      obtain ⟨v, values, hvalues⟩ := List.exists_cons_of_ne_nil hne
      rw [hsupplied, List.flatMap_cons, Attribute.fields, hvalues] at h
      cases h
      exact ⟨a, rfl, rfl⟩

/-- The items of a record describe what is left of it. -/
theorem describes_items {ok : Char → Prop} {r : Record} (h : r.Readable ok)
    (hnames : r.NamesDistinct) (seen : Bool) : Describes seen r.items r.normal seen := by
  refine .unversioned ?_
  cases hchange : r.writtenChange with
  | none =>
      have hfirst : ∀ f ∈ (r.supplied.flatMap Attribute.fields).head?,
          f.name ≠ "control" ∧ f.name ≠ "changetype" := by
        intro f hf
        obtain ⟨a, ha, hname⟩ := exists_of_head?_fields hf
        obtain ⟨hchangetype, hcontrol⟩ := h.first hchange a ha
        rw [hname]
        constructor
        · intro heq
          have hsame : Text.sameName a.name "control" = true := Text.sameName_iff.2 heq
          rw [hcontrol] at hsame
          cases hsame
        · intro heq
          have hsame : Text.sameName a.name "changetype" = true := Text.sameName_iff.2 heq
          rw [hchangetype] at hsame
          cases hsame
      have hbody := @Body.content r.dn _ hfirst
      rw [addFields_supplied hnames _ rfl] at hbody
      simpa [bodyItems, normal, hchange, new] using hbody
  | some kind =>
      simp only [bodyItems, hchange]
      cases kind with
      | add =>
          have hbody := @Body.add r.dn "add" (r.supplied.flatMap Attribute.fields) (by decide)
          rw [addFields_supplied hnames _ rfl] at hbody
          simpa [normal, hchange, changeOf, new, ChangeKind.keyword] using hbody
      | modify =>
          have hbody := @Body.modify r.dn "modify" _ _ (by decide) (edits_items r.edits)
          simpa [normal, hchange, changeOf, new, ChangeKind.keyword] using hbody
      | delete =>
          have hbody := @Body.delete r.dn "delete" (by decide)
          simpa [normal, hchange, changeOf, new, ChangeKind.keyword] using hbody
      | rename =>
          have hbody := @Body.rename r.dn "moddn" (by decide)
          simpa [normal, hchange, changeOf, new, ChangeKind.keyword] using hbody

end Record

/-! ## Texts -/

namespace Ldif

/-- A record that was written is the first record of its text, and the rest of the
text is what is left. -/
theorem readBlocks_readable {ok : Char → Prop} (hok : AllowsPrintable ok) {records : List Record}
    (h : ∀ r ∈ records, r.Readable ok) (hnames : ∀ r ∈ records, r.NamesDistinct) (n : Nat)
    (seen : Bool) :
    readBlocks seen (blocks (joined (numbered n (records.flatMap Record.lines)))) =
      ⟨records.map Record.normal, none⟩ := by
  induction records generalizing n with
  | nil =>
      simp [numbered, joined, blocks, readBlocks]
  | cons r rest ih =>
      obtain ⟨hr, hrest⟩ := List.forall_mem_cons.1 h
      obtain ⟨hnamesr, hnamesrest⟩ := List.forall_mem_cons.1 hnames
      obtain ⟨physical, hlines, logical, hfolded, hitems, -⟩ := r.renders_items hok hr
      have hsplit : numbered n ((r :: rest).flatMap Record.lines) =
          numbered n physical ++ ⟨n + physical.length, []⟩ ::
            numbered (n + physical.length + 1) (rest.flatMap Record.lines) := by
        rw [List.flatMap_cons, hlines, List.append_assoc, numbered_append]
        rfl
      have hstop : ∀ l ∈ (⟨n + physical.length, []⟩ ::
          numbered (n + physical.length + 1) (rest.flatMap Record.lines)).head?,
          l.continues = false := by
        intro l hl
        cases hl
        rfl
      obtain ⟨block, hjoined, htexts, hblank, hcontinues⟩ := hfolded.joined_eq n hstop
      have hread : (Block.mk block (some (n + physical.length))).read seen =
          .ok (some r.normal, seen) := by
        rw [Block.read_eq_some_iff hcontinues, htexts]
        exact ⟨r.items, hitems, r.describes_items hr hnamesr seen⟩
      rw [hsplit, hjoined, joined_blank rfl, blocks_append_blank hblank rfl, readBlocks]
      simp only [hread]
      rw [ih hrest hnamesrest, List.map_cons]

end Ldif

end DirectoryClient
