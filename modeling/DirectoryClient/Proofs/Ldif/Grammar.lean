import DirectoryClient.Ldif.Writer
import DirectoryClient.Proofs.Ldif.Drafts

/-!
# The grammar of records

What a block of lines has to look like to be a record, and which record it then
is, said without the phases that a draft goes through. A line that is not a
comment is a separator or a field (`Splits`), and a block is an optional
version, a name and a body (`Describes`): attributes, or a kind of change with
what belongs to it.

That drafts follow the grammar is shown phase by phase, from the last backwards.
For every phase the fields and separators are named that may still come, so that
one line makes no more than one step in the statement for the phase it leads to.
-/

namespace DirectoryClient

/-- Adds the values of fields one after another. -/
def Record.addFields (r : Record) (fields : List Ldif.Field) : Record :=
  fields.foldl (fun r f => r.addValue f.name f.value) r

namespace Ldif

/-! ## Lines -/

/-- What follows the first colon of a line, and the value that it stands for: a
text without the spaces in front, or base64 between blanks. -/
inductive Denotes : List Char → Value → Prop
  | plain {text : List Char} : text.head? ≠ some ':' → text.head? ≠ some '<' →
      Denotes text (.text (String.ofList (text.dropWhile (· = ' '))))
  | base64 {encoded : List Char} {b : Bytes} : Text.trim encoded = Base64.encode b →
      Denotes (':' :: encoded) (Value.ofBytes b)

/-- A line splits at its first colon into a name, which loses its case, and a
value. -/
inductive Splits : List Char → Field → Prop
  | mk {name rest : List Char} {value : Value} : name ≠ [] → ':' ∉ name → Denotes rest value →
      Splits (name ++ ':' :: rest) ⟨String.ofList (name.map Char.toLower), value⟩

/-- A line of a block that is not a comment. -/
inductive Item
  | separator
  | field (f : Field)

/-- The lines of a block are these items, with comments in between. -/
inductive Items : List (List Char) → List Item → Prop
  | nil : Items [] []
  | comment {line : List Char} {lines : List (List Char)} {items : List Item} :
      line.head? = some '#' → Items lines items → Items (line :: lines) items
  | separator {lines : List (List Char)} {items : List Item} :
      Items lines items → Items (['-'] :: lines) (.separator :: items)
  | field {line : List Char} {f : Field} {lines : List (List Char)} {items : List Item} :
      line.head? ≠ some '#' → line ≠ ['-'] → Splits line f → Items lines items →
        Items (line :: lines) (.field f :: items)

/-! ## Records -/

/-- The items of a modification are these edits: each names its attribute, goes
on with values under that name, and ends with a separator. -/
inductive Edits : List Item → List Edit → Prop
  | nil : Edits [] []
  | cons (kind : EditKind) (name : String) {values : List Field} {items : List Item}
      {edits : List Edit} : (∀ f ∈ values, Text.sameName name f.name = true) → Edits items edits →
        Edits (.field ⟨kind.keyword, .text name⟩ :: (values.map .field ++ .separator :: items))
          (⟨kind, name, values.map (·.value)⟩ :: edits)

/-- The change of a kind to the entry called `dn`, before anything else is known. -/
def changeOf (dn : String) (kind : ChangeKind) : Record :=
  { Record.new dn with isContent := false, change := some kind }

/-- The items after the name `dn` make a record. A kind of change is known by its
keyword in either case. -/
inductive Body (dn : String) : List Item → Record → Prop
  | content {fields : List Field}
      (h : ∀ f ∈ fields.head?, f.name ≠ "control" ∧ f.name ≠ "changetype") :
      Body dn (fields.map .field) ((Record.new dn).addFields fields)
  | add {keyword : String} {fields : List Field} (h : Text.foldCase keyword = "add") :
      Body dn (.field ⟨"changetype", .text keyword⟩ :: fields.map .field)
        ((changeOf dn .add).addFields fields)
  | delete {keyword : String} (h : Text.foldCase keyword = "delete") :
      Body dn [.field ⟨"changetype", .text keyword⟩] (changeOf dn .delete)
  | rename {keyword : String}
      (h : Text.foldCase keyword = "modrdn" ∨ Text.foldCase keyword = "moddn") :
      Body dn [.field ⟨"changetype", .text keyword⟩] (changeOf dn .rename)
  | modify {keyword : String} {items : List Item} {edits : List Edit}
      (h : Text.foldCase keyword = "modify") (hitems : Edits items edits) :
      Body dn (.field ⟨"changetype", .text keyword⟩ :: items)
        { changeOf dn .modify with edits := edits }

/-- The items make a record, in a stream that has had a version or not; after
them it has had one or not. There may be a version 1 first, but only once in a
stream. -/
inductive Describes : Bool → List Item → Record → Bool → Prop
  | unversioned {seen : Bool} {dn : String} {items : List Item} {record : Record} :
      Body dn items record → Describes seen (.field ⟨"dn", .text dn⟩ :: items) record seen
  | versioned {value : Value} {dn : String} {items : List Item} {record : Record} :
      value.text? = some "1" → Body dn items record →
        Describes false (.field ⟨"version", value⟩ :: .field ⟨"dn", .text dn⟩ :: items) record true

/-! ## Drafts over items -/

/-- Takes in an item. -/
def Draft.acceptItem (seen : Bool) (d : Draft) : Item → Except Complaint (Draft × Bool)
  | .separator => d.separate.map fun d => (d, seen)
  | .field f =>
      if f.name = "version" ∧ d.phase = .start then
        (checkVersion seen f.value).map fun _ => (d, true)
      else
        (acceptField d.record f d.phase).map fun next => (⟨next.1, next.2, true⟩, seen)

/-- A draft goes on with some items to the end of its block, and makes a record. -/
inductive Draft.Makes : Bool → Draft → List Item → Record → Bool → Prop
  | nil {seen : Bool} {d : Draft} {record : Record} :
      d.finish = .ok (some record) → Makes seen d [] record seen
  | cons {seen seen₁ seen' : Bool} {d d₁ : Draft} {item : Item} {items : List Item}
      {record : Record} : d.acceptItem seen item = .ok (d₁, seen₁) →
        Makes seen₁ d₁ items record seen' → Makes seen d (item :: items) record seen'

theorem Draft.makes_nil_iff {seen seen' : Bool} {d : Draft} {record : Record} :
    Makes seen d [] record seen' ↔ seen' = seen ∧ d.finish = .ok (some record) := by
  constructor
  · rintro (h | _)
    exact ⟨rfl, h⟩
  · rintro ⟨rfl, h⟩
    exact .nil h

theorem Draft.makes_cons_iff {seen seen' : Bool} {d : Draft} {item : Item} {items : List Item}
    {record : Record} :
    Makes seen d (item :: items) record seen' ↔
      ∃ d₁ seen₁, d.acceptItem seen item = .ok (d₁, seen₁) ∧
        Makes seen₁ d₁ items record seen' := by
  constructor
  · intro h
    cases h with
    | cons hacc hrest => exact ⟨_, _, hacc, hrest⟩
  · rintro ⟨d₁, seen₁, hacc, hrest⟩
    exact .cons hacc hrest

/-! ## Phase by phase

`Draft.makes_cons_iff` takes off one item, and the statement for the phase that
it leads to says what the rest is. -/

theorem makes_content_iff {seen seen' : Bool} {r record : Record} {items : List Item} :
    Draft.Makes seen ⟨r, .content, true⟩ items record seen' ↔
      seen' = seen ∧
        ∃ fields : List Field, items = fields.map .field ∧ record = r.addFields fields := by
  induction items generalizing r with
  | nil => simp [Draft.makes_nil_iff, Draft.finish, Record.addFields, eq_comm]
  | cons item rest ih =>
      rw [Draft.makes_cons_iff]
      cases item with
      | separator =>
          simp only [Draft.acceptItem, Draft.separate, Except.map]
          constructor
          · rintro ⟨d₁, seen₁, h, -⟩
            cases h
          · rintro ⟨-, fields, h, -⟩
            cases fields <;> cases h
      | field f =>
          have hacc : Draft.acceptItem seen ⟨r, .content, true⟩ (.field f) =
              .ok (⟨r.addValue f.name f.value, .content, true⟩, seen) := by
            simp [Draft.acceptItem, Draft.acceptField, Except.map]
          rw [hacc]
          constructor
          · rintro ⟨d₁, seen₁, h, hrest⟩
            cases h
            obtain ⟨hseen, fields, rfl, rfl⟩ := ih.1 hrest
            exact ⟨hseen, f :: fields, rfl, rfl⟩
          · rintro ⟨hseen, fields, hitems, rfl⟩
            cases fields with
            | nil => cases hitems
            | cons g fields =>
                cases hitems
                exact ⟨_, _, rfl, ih.2 ⟨hseen, fields, rfl, rfl⟩⟩

/-- Nothing may come any more after a deletion or a renaming. -/
theorem makes_closed_iff {seen seen' : Bool} {r record : Record} {phase : Phase}
    {items : List Item} (h : phase = .deletion ∨ phase = .renaming) :
    Draft.Makes seen ⟨r, phase, true⟩ items record seen' ↔
      seen' = seen ∧ items = [] ∧ record = r := by
  cases items with
  | nil => rcases h with rfl | rfl <;> simp [Draft.makes_nil_iff, Draft.finish, eq_comm]
  | cons item rest =>
      rw [Draft.makes_cons_iff]
      constructor
      · rintro ⟨d₁, seen₁, hacc, -⟩
        cases item <;> rcases h with rfl | rfl <;>
          simp [Draft.acceptItem, Draft.separate, Draft.acceptField, Except.map] at hacc
      · rintro ⟨-, hitems, -⟩
        cases hitems

theorem openEdit_eq_ok_iff {f : Field} {e : Edit} :
    Draft.openEdit f = .ok e ↔
      ∃ kind name, f = ⟨EditKind.keyword kind, .text name⟩ ∧ e = ⟨kind, name, []⟩ := by
  obtain ⟨fname, value⟩ := f
  cases value with
  | binary b => simp [Draft.openEdit]
  | text name =>
      constructor
      · intro h
        simp only [Draft.openEdit] at h
        split at h
        · next hf =>
            cases h
            exact ⟨.add, name, by rw [hf]; rfl, rfl⟩
        · split at h
          · next hf =>
              cases h
              exact ⟨.replace, name, by rw [hf]; rfl, rfl⟩
          · split at h
            · next hf =>
                cases h
                exact ⟨.remove, name, by rw [hf]; rfl, rfl⟩
            · cases h
      · rintro ⟨kind, name', hf, rfl⟩
        cases hf
        cases kind <;> simp [Draft.openEdit, EditKind.keyword]

/-- The items are edits, which make `record` of `r`. -/
def EditsTo (r record : Record) (items : List Item) : Prop :=
  ∃ edits, Edits items edits ∧ record = { r with edits := r.edits ++ edits }

/-- The items go on with the edit `e`, end it, and are edits from there on, which
make `record` of `r`. -/
def GoesOnTo (e : Edit) (r record : Record) (items : List Item) : Prop :=
  ∃ (values : List Field) (rest : List Item),
    items = values.map .field ++ .separator :: rest ∧
      (∀ f ∈ values, Text.sameName e.name f.name = true) ∧
      EditsTo { r with edits := r.edits ++ [{ e with values := e.values ++ values.map (·.value) }] }
        record rest

theorem editsTo_nil_iff {r record : Record} : EditsTo r record [] ↔ record = r := by
  constructor
  · rintro ⟨edits, hedits, rfl⟩
    cases hedits
    simp
  · rintro rfl
    exact ⟨[], .nil, by simp⟩

theorem not_editsTo_separator {r record : Record} {items : List Item} :
    ¬ EditsTo r record (.separator :: items) := by
  rintro ⟨edits, hedits, -⟩
  cases hedits

theorem editsTo_field_iff {r record : Record} {f : Field} {items : List Item} :
    EditsTo r record (.field f :: items) ↔
      ∃ kind name, f = ⟨EditKind.keyword kind, .text name⟩ ∧
        GoesOnTo ⟨kind, name, []⟩ r record items := by
  constructor
  · rintro ⟨edits, hedits, rfl⟩
    cases hedits with
    | cons kind name hnames hmore =>
        exact ⟨kind, name, rfl, _, _, rfl, hnames, _, hmore, by simp⟩
  · rintro ⟨kind, name, rfl, values, rest, rfl, hnames, edits, hedits, rfl⟩
    exact ⟨_, .cons kind name hnames hedits, by simp⟩

theorem not_goesOnTo_nil {e : Edit} {r record : Record} : ¬ GoesOnTo e r record [] := by
  rintro ⟨values, rest, hitems, -⟩
  cases values <;> cases hitems

theorem goesOnTo_separator_iff {e : Edit} {r record : Record} {items : List Item} :
    GoesOnTo e r record (.separator :: items) ↔
      EditsTo { r with edits := r.edits ++ [e] } record items := by
  constructor
  · rintro ⟨values, rest, hitems, -, hedits⟩
    cases values with
    | nil =>
        cases hitems
        simpa using hedits
    | cons f values => cases hitems
  · intro hedits
    exact ⟨[], items, rfl, by simp, by simpa using hedits⟩

theorem goesOnTo_field_iff {e : Edit} {r record : Record} {f : Field} {items : List Item} :
    GoesOnTo e r record (.field f :: items) ↔
      Text.sameName e.name f.name = true ∧
        GoesOnTo { e with values := e.values ++ [f.value] } r record items := by
  constructor
  · rintro ⟨values, rest, hitems, hnames, hedits⟩
    cases values with
    | nil => cases hitems
    | cons g values =>
        cases hitems
        obtain ⟨hname, hnames⟩ := List.forall_mem_cons.1 hnames
        exact ⟨hname, values, rest, rfl, hnames, by simpa using hedits⟩
  · rintro ⟨hname, values, rest, rfl, hnames, hedits⟩
    exact ⟨f :: values, rest, rfl, List.forall_mem_cons.2 ⟨hname, hnames⟩, by simpa using hedits⟩

theorem makes_modification_field_iff {seen seen' : Bool} {r record : Record} {f : Field}
    {items : List Item} :
    Draft.Makes seen ⟨r, .modification, true⟩ (.field f :: items) record seen' ↔
      ∃ kind name, f = ⟨EditKind.keyword kind, .text name⟩ ∧
        Draft.Makes seen ⟨r, .edit ⟨kind, name, []⟩, true⟩ items record seen' := by
  rw [Draft.makes_cons_iff]
  constructor
  · rintro ⟨d₁, seen₁, hacc, hrest⟩
    rw [Draft.acceptItem, if_neg (by simp)] at hacc
    obtain ⟨next, hnext, heq⟩ := Except.map_eq_ok_iff.1 hacc
    cases heq
    obtain ⟨e, hopen, rfl⟩ := Except.map_eq_ok_iff.1 hnext
    obtain ⟨kind, name, rfl, rfl⟩ := openEdit_eq_ok_iff.1 hopen
    exact ⟨kind, name, rfl, hrest⟩
  · rintro ⟨kind, name, rfl, hrest⟩
    have hopen := openEdit_eq_ok_iff.2 ⟨kind, name, rfl, rfl⟩
    refine ⟨_, seen, ?_, hrest⟩
    simp [Draft.acceptItem, Draft.acceptField, hopen, Except.map]

theorem makes_edit_separator_iff {seen seen' : Bool} {r record : Record} {e : Edit}
    {items : List Item} :
    Draft.Makes seen ⟨r, .edit e, true⟩ (.separator :: items) record seen' ↔
      Draft.Makes seen ⟨{ r with edits := r.edits ++ [e] }, .modification, true⟩ items record
        seen' := by
  rw [Draft.makes_cons_iff]
  constructor
  · rintro ⟨d₁, seen₁, hacc, hrest⟩
    cases hacc
    exact hrest
  · intro hrest
    exact ⟨_, _, rfl, hrest⟩

theorem makes_edit_field_iff {seen seen' : Bool} {r record : Record} {e : Edit} {f : Field}
    {items : List Item} :
    Draft.Makes seen ⟨r, .edit e, true⟩ (.field f :: items) record seen' ↔
      Text.sameName e.name f.name = true ∧
        Draft.Makes seen ⟨r, .edit { e with values := e.values ++ [f.value] }, true⟩ items record
          seen' := by
  rw [Draft.makes_cons_iff]
  by_cases hname : Text.sameName e.name f.name = true
  · have hacc : Draft.acceptItem seen ⟨r, .edit e, true⟩ (.field f) =
        .ok (⟨r, .edit { e with values := e.values ++ [f.value] }, true⟩, seen) := by
      simp [Draft.acceptItem, Draft.acceptField, hname, Except.map]
    rw [hacc]
    constructor
    · rintro ⟨d₁, seen₁, heq, hrest⟩
      cases heq
      exact ⟨hname, hrest⟩
    · rintro ⟨-, hrest⟩
      exact ⟨_, _, rfl, hrest⟩
  · constructor
    · rintro ⟨d₁, seen₁, hacc, -⟩
      simp [Draft.acceptItem, Draft.acceptField, hname, Except.map] at hacc
    · rintro ⟨hsame, -⟩
      exact absurd hsame hname

/-- What may come between two edits, and what may come within one. Both at once,
because a field leads from the first to the second and a separator back. -/
theorem makes_modification_edit_iff {seen seen' : Bool} {record : Record} {items : List Item} :
    (∀ r : Record, Draft.Makes seen ⟨r, .modification, true⟩ items record seen' ↔
      seen' = seen ∧ EditsTo r record items) ∧
    (∀ (r : Record) (e : Edit), Draft.Makes seen ⟨r, .edit e, true⟩ items record seen' ↔
      seen' = seen ∧ GoesOnTo e r record items) := by
  induction items with
  | nil =>
      refine ⟨fun r => ?_, fun r e => ?_⟩
      · simp [Draft.makes_nil_iff, Draft.finish, editsTo_nil_iff, eq_comm]
      · simp [Draft.makes_nil_iff, Draft.finish, not_goesOnTo_nil]
  | cons item rest ih =>
      obtain ⟨ihmodification, ihedit⟩ := ih
      refine ⟨fun r => ?_, fun r e => ?_⟩
      · cases item with
        | separator =>
            simp [Draft.makes_cons_iff, Draft.acceptItem, Draft.separate, Except.map,
              not_editsTo_separator]
        | field f =>
            simp only [makes_modification_field_iff, editsTo_field_iff, ihedit]
            constructor
            · rintro ⟨kind, name, hf, hseen, hgoes⟩
              exact ⟨hseen, kind, name, hf, hgoes⟩
            · rintro ⟨hseen, kind, name, hf, hgoes⟩
              exact ⟨kind, name, hf, hseen, hgoes⟩
      · cases item with
        | separator => rw [makes_edit_separator_iff, goesOnTo_separator_iff, ihmodification]
        | field f =>
            rw [makes_edit_field_iff, goesOnTo_field_iff, ihedit]
            exact and_left_comm

theorem makes_modification_iff {seen seen' : Bool} {r record : Record} {items : List Item} :
    Draft.Makes seen ⟨r, .modification, true⟩ items record seen' ↔
      seen' = seen ∧ ∃ edits, Edits items edits ∧
        record = { r with edits := r.edits ++ edits } :=
  makes_modification_edit_iff.1 r

/-- What may come after a kind of change, by its keyword. -/
theorem makes_changing_iff {seen seen' : Bool} {dn keyword : String} {record : Record}
    {items : List Item} :
    (∃ r phase, Draft.changing (Record.new dn) keyword = .ok (r, phase) ∧
      Draft.Makes seen ⟨r, phase, true⟩ items record seen') ↔
    seen' = seen ∧ Body dn (.field ⟨"changetype", .text keyword⟩ :: items) record := by
  constructor
  · rintro ⟨r, phase, hchange, hmakes⟩
    simp only [Draft.changing] at hchange
    split at hchange
    · next hk =>
        cases hchange
        obtain ⟨hseen, fields, rfl, rfl⟩ := makes_content_iff.1 hmakes
        exact ⟨hseen, .add hk⟩
    · split at hchange
      · next hk =>
          cases hchange
          obtain ⟨hseen, rfl, rfl⟩ := (makes_closed_iff (Or.inl rfl)).1 hmakes
          exact ⟨hseen, .delete hk⟩
      · split at hchange
        · next hk =>
            cases hchange
            obtain ⟨hseen, edits, hedits, rfl⟩ := makes_modification_iff.1 hmakes
            exact ⟨hseen, .modify hk hedits⟩
        · split at hchange
          · next hk =>
              cases hchange
              obtain ⟨hseen, rfl, rfl⟩ := (makes_closed_iff (Or.inr rfl)).1 hmakes
              exact ⟨hseen, .rename hk⟩
          · cases hchange
  · rintro ⟨rfl, hbody⟩
    generalize hitems : Item.field ⟨"changetype", .text keyword⟩ :: items = all at hbody
    cases hbody with
    | content h =>
        -- the first field of an entry is no kind of change
        rename_i fields
        cases fields with
        | nil => cases hitems
        | cons f fields =>
            cases hitems
            exact absurd rfl (h _ rfl).2
    | add h =>
        cases hitems
        exact ⟨changeOf dn .add, .content, by simp [Draft.changing, h, changeOf],
          makes_content_iff.2 ⟨rfl, _, rfl, rfl⟩⟩
    | delete h =>
        cases hitems
        exact ⟨changeOf dn .delete, .deletion, by simp [Draft.changing, h, changeOf],
          (makes_closed_iff (Or.inl rfl)).2 ⟨rfl, rfl, rfl⟩⟩
    | rename h =>
        cases hitems
        refine ⟨changeOf dn .rename, .renaming, ?_,
          (makes_closed_iff (Or.inr rfl)).2 ⟨rfl, rfl, rfl⟩⟩
        rcases h with h | h <;> simp [Draft.changing, h, changeOf]
    | modify h hedits =>
        cases hitems
        exact ⟨changeOf dn .modify, .modification, by simp [Draft.changing, h, changeOf],
          makes_modification_iff.2 ⟨rfl, _, hedits, rfl⟩⟩

theorem body_nil_iff {dn : String} {record : Record} :
    Body dn [] record ↔ record = Record.new dn := by
  constructor
  · intro h
    generalize hitems : ([] : List Item) = all at h
    cases h with
    | @content fields h =>
        cases fields with
        | nil => rfl
        | cons f fields => cases hitems
    | add | delete | rename | modify => cases hitems
  · rintro rfl
    exact @Body.content dn [] (by simp)

theorem not_body_separator {dn : String} {record : Record} {items : List Item} :
    ¬ Body dn (.separator :: items) record := by
  intro h
  generalize hitems : Item.separator :: items = all at h
  cases h with
  | @content fields h => cases fields <;> cases hitems
  | add | delete | rename | modify => cases hitems

/-- A body that begins with any field but a kind of change is an entry. -/
theorem body_field_iff {dn : String} {record : Record} {f : Field} {items : List Item}
    (hf : f.name ≠ "changetype") :
    Body dn (.field f :: items) record ↔
      f.name ≠ "control" ∧ ∃ fields : List Field, items = fields.map .field ∧
        record = ((Record.new dn).addValue f.name f.value).addFields fields := by
  constructor
  · intro h
    generalize hitems : Item.field f :: items = all at h
    cases h with
    | @content fields h =>
        cases fields with
        | nil => cases hitems
        | cons g fields =>
            cases hitems
            exact ⟨(h f rfl).1, fields, rfl, rfl⟩
    | add | delete | rename | modify =>
        cases hitems
        exact absurd rfl hf
  · rintro ⟨hcontrol, fields, rfl, rfl⟩
    exact @Body.content dn (f :: fields) (by simpa using ⟨hcontrol, hf⟩)

/-- A kind of change is told in a text. -/
theorem exists_text_of_body {dn : String} {record : Record} {value : Value} {items : List Item}
    (h : Body dn (.field ⟨"changetype", value⟩ :: items) record) :
    ∃ keyword, value = .text keyword := by
  generalize hitems : Item.field ⟨"changetype", value⟩ :: items = all at h
  cases h with
  | @content fields h =>
      cases fields with
      | nil => cases hitems
      | cons f fields =>
          cases hitems
          exact absurd rfl (h _ rfl).2
  | add | delete | rename | modify =>
      cases hitems
      exact ⟨_, rfl⟩

theorem makes_named_changetype_iff {seen seen' : Bool} {dn : String} {record : Record}
    {value : Value} {items : List Item} :
    Draft.Makes seen ⟨Record.new dn, .named, true⟩ (.field ⟨"changetype", value⟩ :: items) record
        seen' ↔
      seen' = seen ∧ Body dn (.field ⟨"changetype", value⟩ :: items) record := by
  have hacc : Draft.acceptItem seen ⟨Record.new dn, .named, true⟩ (.field ⟨"changetype", value⟩) =
      ((Field.text ⟨"changetype", value⟩).bind (Draft.changing (Record.new dn))).map
        fun next => (⟨next.1, next.2, true⟩, seen) := by
    simp [Draft.acceptItem, Draft.acceptField]
  rw [Draft.makes_cons_iff, hacc]
  cases value with
  | binary b =>
      constructor
      · rintro ⟨d₁, seen₁, h, -⟩
        cases h
      · rintro ⟨-, hbody⟩
        obtain ⟨keyword, htext⟩ := exists_text_of_body hbody
        cases htext
  | text keyword =>
      rw [← makes_changing_iff]
      constructor
      · rintro ⟨d₁, seen₁, h, hrest⟩
        obtain ⟨⟨r, phase⟩, hchange, heq⟩ := Except.map_eq_ok_iff.1 h
        cases heq
        exact ⟨r, phase, hchange, hrest⟩
      · rintro ⟨r, phase, hchange, hrest⟩
        exact ⟨_, _, Except.map_eq_ok_iff.2 ⟨_, hchange, rfl⟩, hrest⟩

theorem makes_named_iff {seen seen' : Bool} {dn : String} {record : Record}
    {items : List Item} :
    Draft.Makes seen ⟨Record.new dn, .named, true⟩ items record seen' ↔
      seen' = seen ∧ Body dn items record := by
  cases items with
  | nil => simp [Draft.makes_nil_iff, Draft.finish, body_nil_iff, eq_comm]
  | cons item rest =>
      cases item with
      | separator =>
          rw [Draft.makes_cons_iff]
          constructor
          · rintro ⟨d₁, seen₁, hacc, -⟩
            cases hacc
          · rintro ⟨-, hbody⟩
            exact absurd hbody not_body_separator
      | field f =>
          obtain ⟨name, value⟩ := f
          by_cases hchange : name = "changetype"
          · subst hchange
            exact makes_named_changetype_iff
          · rw [Draft.makes_cons_iff, body_field_iff hchange]
            by_cases hcontrol : name = "control"
            · constructor
              · rintro ⟨d₁, seen₁, hacc, -⟩
                simp [Draft.acceptItem, Draft.acceptField, hcontrol, Except.map] at hacc
              · rintro ⟨-, hne, -⟩
                exact absurd hcontrol hne
            · have hacc : Draft.acceptItem seen ⟨Record.new dn, .named, true⟩
                    (.field ⟨name, value⟩) =
                  .ok (⟨(Record.new dn).addValue name value, .content, true⟩, seen) := by
                simp [Draft.acceptItem, Draft.acceptField, hchange, hcontrol, Except.map]
              rw [hacc]
              constructor
              · rintro ⟨d₁, seen₁, h, hrest⟩
                cases h
                obtain ⟨hseen, fields, rfl, rfl⟩ := makes_content_iff.1 hrest
                exact ⟨hseen, hcontrol, fields, rfl, rfl⟩
              · rintro ⟨hseen, -, fields, rfl, rfl⟩
                exact ⟨_, _, rfl, makes_content_iff.2 ⟨hseen, fields, rfl, rfl⟩⟩

theorem checkVersion_eq_ok_iff {seen : Bool} {value : Value} :
    Draft.checkVersion seen value = .ok () ↔ seen = false ∧ value.text? = some "1" := by
  cases seen <;> simp [Draft.checkVersion]

theorem acceptItem_version {seen : Bool} {d : Draft} {value : Value} (h : d.phase = .start) :
    d.acceptItem seen (.field ⟨"version", value⟩) =
      (Draft.checkVersion seen value).map fun _ => (d, true) := by
  simp [Draft.acceptItem, h]

theorem makes_dn_iff {seen seen' : Bool} {record : Record} {f : Field} {items : List Item}
    (hf : f.name ≠ "version") :
    Draft.Makes seen Draft.empty (.field f :: items) record seen' ↔
      seen' = seen ∧ ∃ dn, f = ⟨"dn", .text dn⟩ ∧ Body dn items record := by
  obtain ⟨name, value⟩ := f
  have hacc : Draft.acceptItem seen Draft.empty (.field ⟨name, value⟩) =
      (Draft.acceptField (Record.new "") ⟨name, value⟩ .start).map
        fun next => (⟨next.1, next.2, true⟩, seen) := by
    rw [Draft.acceptItem, if_neg fun h => hf h.1]
    rfl
  rw [Draft.makes_cons_iff, hacc]
  constructor
  · rintro ⟨d₁, seen₁, h, hrest⟩
    rw [Draft.acceptField] at h
    split at h
    · next hname =>
        obtain rfl : name = "dn" := hname
        cases value with
        | binary b => cases h
        | text dn =>
            cases h
            obtain ⟨hseen, hbody⟩ := makes_named_iff.1 hrest
            exact ⟨hseen, dn, rfl, hbody⟩
    · cases h
  · rintro ⟨hseen, dn, h, hbody⟩
    cases h
    exact ⟨⟨Record.new dn, .named, true⟩, seen, rfl, makes_named_iff.2 ⟨hseen, hbody⟩⟩

theorem exists_field_of_makes_empty {seen seen' : Bool} {record : Record} {items : List Item}
    (h : Draft.Makes seen Draft.empty items record seen') :
    ∃ f rest, items = .field f :: rest := by
  cases items with
  | nil => cases (Draft.makes_nil_iff.1 h).2
  | cons item rest =>
      cases item with
      | separator =>
          obtain ⟨d₁, seen₁, hacc, -⟩ := Draft.makes_cons_iff.1 h
          cases hacc
      | field f => exact ⟨f, rest, rfl⟩

theorem makes_version {seen seen' : Bool} {record : Record} {value : Value} {items : List Item}
    (h : Draft.Makes seen Draft.empty (.field ⟨"version", value⟩ :: items) record seen') :
    seen = false ∧ value.text? = some "1" ∧ Draft.Makes true Draft.empty items record seen' := by
  obtain ⟨d₁, seen₁, hacc, hrest⟩ := Draft.makes_cons_iff.1 h
  rw [acceptItem_version rfl] at hacc
  obtain ⟨u, hcheck, heq⟩ := Except.map_eq_ok_iff.1 hacc
  cases heq
  obtain ⟨hseen, hvalue⟩ := checkVersion_eq_ok_iff.1 hcheck
  exact ⟨hseen, hvalue, hrest⟩

/-- A draft of which nothing has been read makes the records that the items
describe. -/
theorem makes_empty_iff {seen seen' : Bool} {record : Record} {items : List Item} :
    Draft.Makes seen Draft.empty items record seen' ↔ Describes seen items record seen' := by
  constructor
  · intro h
    obtain ⟨f, rest, rfl⟩ := exists_field_of_makes_empty h
    by_cases hf : f.name = "version"
    · obtain ⟨name, value⟩ := f
      subst hf
      obtain ⟨rfl, hvalue, hrest⟩ := makes_version h
      obtain ⟨g, rest, rfl⟩ := exists_field_of_makes_empty hrest
      by_cases hg : g.name = "version"
      · -- a second version is refused
        obtain ⟨name, value'⟩ := g
        subst hg
        cases (makes_version hrest).1
      · obtain ⟨rfl, dn, rfl, hbody⟩ := (makes_dn_iff hg).1 hrest
        exact .versioned hvalue hbody
    · obtain ⟨rfl, dn, rfl, hbody⟩ := (makes_dn_iff hf).1 h
      exact .unversioned hbody
  · intro h
    cases h with
    | unversioned hbody => exact (makes_dn_iff (by simp)).2 ⟨rfl, _, rfl, hbody⟩
    | versioned hvalue hbody =>
        rw [Draft.makes_cons_iff, acceptItem_version rfl, checkVersion_eq_ok_iff.2 ⟨rfl, hvalue⟩]
        exact ⟨_, _, rfl, (makes_dn_iff (by simp)).2 ⟨rfl, _, rfl, hbody⟩⟩

end Ldif

end DirectoryClient
