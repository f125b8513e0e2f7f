import DirectoryClient.Proofs.Ldif.RoundTrip

/-!
# Writing what was read

A record that a reader hands out can be written, and if its lines survive as
lines, reading them gives the record back as it was: all that is lost in writing
records in general, the case of names, the form of values, attributes without
values, a record that was read does not have.

What its lines look like follows from what a reader can hand out. Names of fields
are what stands before the first colon of a logical line, so they hold neither a
colon nor a line feed, and begin neither a continuation nor a comment. Two things
are not ruled out. A carriage return may be anywhere in a name, and where a line
happens to be cut behind it, it is taken for a part of the line end. And the name
of an edit is read like a value, but written as it is: given in base64 it may
hold line feeds, which break its line, or begin with spaces, which are lost.
-/

namespace DirectoryClient

open Ldif

/-! ## Characters of lines -/

theorem Text.notMem_of_mem_split {separator : Char} {cs part : List Char}
    (h : part ∈ split separator cs) : separator ∉ part := by
  induction cs generalizing part with
  | nil =>
      obtain rfl := List.mem_singleton.1 h
      simp
  | cons c rest ih =>
      obtain ⟨first, more, hsplit⟩ := List.exists_cons_of_ne_nil (split_ne_nil separator rest)
      rw [split, hsplit] at h
      rw [hsplit] at ih
      dsimp only at h
      split at h
      · rcases List.mem_cons.1 h with rfl | h
        · simp
        · exact ih h
      · next hc =>
          rcases List.mem_cons.1 h with rfl | h
          · rw [List.mem_cons, not_or]
            exact ⟨Ne.symm hc, ih List.mem_cons_self⟩
          · exact ih (List.mem_cons_of_mem _ h)

namespace Ldif

theorem Source.dropReturn_subset (text : List Char) : dropReturn text ⊆ text := by
  unfold dropReturn
  split
  · exact (List.dropLast_sublist text).subset
  · exact List.Subset.refl text

theorem newline_notMem_of_mem_physicalLines {text l : List Char} (h : l ∈ physicalLines text) :
    '\n' ∉ l := by
  simp only [physicalLines] at h
  rcases List.mem_append.1 h with h | h
  · obtain ⟨part, hpart, rfl⟩ := List.mem_map.1 h
    intro hc
    have hmem := Source.dropReturn_subset _ (Source.dropReturn_subset _ hc)
    exact Text.notMem_of_mem_split ((List.dropLast_sublist _).subset hpart) hmem
  · split at h
    · cases h
    · next hlast =>
        obtain rfl := List.mem_singleton.1 h
        intro hc
        have hmem := Source.dropReturn_subset _ hc
        cases hparts : (Text.split '\n' text).getLast? with
        | none => simp [hparts] at hmem
        | some part =>
            rw [hparts] at hmem
            exact Text.notMem_of_mem_split (List.mem_of_getLast? hparts) hmem

theorem text_mem_of_mem_numbered {n : Nat} {texts : List (List Char)} {l : Line}
    (h : l ∈ numbered n texts) : l.text ∈ texts := by
  induction texts generalizing n with
  | nil => cases h
  | cons text rest ih =>
      rcases List.mem_cons.1 h with rfl | h
      · exact List.mem_cons_self
      · exact List.mem_cons_of_mem _ (ih h)

/-- Joining adds no characters. -/
theorem forall_mem_joined {ok : Char → Prop} {ls : List Line}
    (h : ∀ l ∈ ls, ∀ c ∈ l.text, ok c) : ∀ l ∈ joined ls, ∀ c ∈ l.text, ok c := by
  fun_induction joined ls with
  | case1 => exact h
  | case2 l rest _ ih =>
      obtain ⟨hl, hrest⟩ := List.forall_mem_cons.1 h
      exact List.forall_mem_cons.2 ⟨hl, ih hrest⟩
  | case3 l rest _ ih =>
      obtain ⟨hl, hrest⟩ := List.forall_mem_cons.1 h
      refine List.forall_mem_cons.2 ⟨?_, ih fun x hx => hrest x (List.dropWhile_subset _ hx)⟩
      refine List.forall_mem_append.2 ⟨hl, fun c hc => ?_⟩
      obtain ⟨x, hx, hmem⟩ := List.mem_flatMap.1 hc
      exact hrest x (List.takeWhile_subset _ hx) c (List.mem_of_mem_tail hmem)

theorem joined_eq_self {ls : List Line} (h : ∀ l ∈ ls, l.continues = false) : joined ls = ls := by
  induction ls with
  | nil => simp [joined]
  | cons l rest ih =>
      obtain ⟨-, hrest⟩ := List.forall_mem_cons.1 h
      cases hl : l.isBlank with
      | true => rw [joined_blank hl, ih hrest]
      | false =>
          have hhead : ∀ x ∈ rest.head?, x.continues = false := fun x hx =>
            hrest x (List.mem_of_mem_head? hx)
          obtain ⟨htake, hdrop⟩ := @takeWhile_continues [] rest (by simp) hhead
          rw [List.nil_append] at htake hdrop
          rw [joined_cons hl, htake, hdrop, ih hrest, List.flatMap_nil, List.append_nil]

theorem mem_of_mem_blocks {ls : List Line} {b : Block} (h : b ∈ blocks ls) {l : Line}
    (hl : l ∈ b.lines) : l ∈ ls := by
  generalize hbs : blocks ls = bs at h
  induction bs generalizing ls with
  | nil => cases h
  | cons first more ih =>
      obtain ⟨-, hcase⟩ := blocks_eq_cons hbs
      rcases hcase with ⟨rfl, -, -, rfl⟩ | ⟨x, rest, -, rfl, -, hmore⟩
      · obtain rfl := List.mem_singleton.1 h
        exact hl
      · rcases List.mem_cons.1 h with rfl | h
        · exact List.mem_append_left _ hl
        · exact List.mem_append_right _ (List.mem_cons_of_mem _ (ih hmore h))

/-! ## Blocks that were read -/

theorem Draft.continues_of_acceptLines {ls : List Line} {seen seen' : Bool} {d d' : Draft}
    (h : d.acceptLines seen ls = .ok (d', seen')) : ∀ l ∈ ls, l.continues = false := by
  induction ls generalizing d seen with
  | nil => simp
  | cons l rest ih =>
      rw [acceptLines] at h
      split at h
      · cases h
      · next hl =>
          split at h
          · cases h
          · exact List.forall_mem_cons.2 ⟨by simpa using hl, ih h⟩

theorem Block.continues_of_read {b : Block} {seen seen' : Bool} {r : Option Record}
    (h : b.read seen = .ok (r, seen')) : ∀ l ∈ b.lines, l.continues = false := by
  rw [read] at h
  split at h
  · cases h
  · next hacc => exact Draft.continues_of_acceptLines hacc

theorem exists_read_of_mem_records {bs : List Block} {seen : Bool} {r : Record}
    (h : r ∈ (readBlocks seen bs).records) :
    ∃ b ∈ bs, ∃ seen seen', b.read seen = .ok (some r, seen') := by
  induction bs generalizing seen with
  | nil => cases h
  | cons b more ih =>
      rw [readBlocks] at h
      split at h
      · cases h
      · obtain ⟨b', hb', hread⟩ := ih h
        exact ⟨b', List.mem_cons_of_mem _ hb', hread⟩
      · next hread =>
          rcases List.mem_cons.1 h with rfl | h
          · exact ⟨b, List.mem_cons_self, _, _, hread⟩
          · obtain ⟨b', hb', hread⟩ := ih h
            exact ⟨b', List.mem_cons_of_mem _ hb', hread⟩

theorem Reading.mem_records_of_answer {x : Reading} {n : Nat} {r : Record}
    (h : x.answer n = .ok (some r)) : r ∈ x.records := by
  unfold answer at h
  split at h
  · next hr =>
      cases h
      exact List.mem_of_getElem? hr
  · split at h <;> cases h
  · cases h

/-! ## Names and values that were read -/

/-- A character that is no line feed. -/
def NoNewline (c : Char) : Prop := c ≠ '\n'

theorem allowsPrintable_noNewline : AllowsPrintable NoNewline := by
  rintro c hc rfl
  exact absurd hc (by decide)

/-- Whether a line can begin with a name does not depend on its case. -/
theorem fieldName_foldCase_iff {name : String} :
    FieldName NoNewline (Text.foldCase name) ↔ FieldName NoNewline name := by
  have hmem : ∀ d : Char, d.toNat < 65 → (d ∈ (Text.foldCase name).toList ↔ d ∈ name.toList) := by
    intro d hd
    simp [Text.foldCase, Text.toLower_eq_iff hd]
  have hhead : ∀ d : Char, d.toNat < 65 →
      ((Text.foldCase name).toList.head? = some d ↔ name.toList.head? = some d) := by
    intro d hd
    simp [Text.foldCase, List.head?_map, Text.toLower_eq_iff hd]
  have hnil : (Text.foldCase name).toList ≠ [] ↔ name.toList ≠ [] := by
    simp [Text.foldCase]
  have hchars : ∀ name : String, (∀ c ∈ name.toList, NoNewline c) ↔ '\n' ∉ name.toList := by
    intro name
    constructor
    · exact fun h hc => h _ hc rfl
    · rintro h c hc rfl
      exact h hc
  constructor
  · intro h
    exact ⟨hnil.1 h.ne_nil, fun hc => h.colon ((hmem _ (by decide)).2 hc),
      fun hs => h.space ((hhead _ (by decide)).2 hs), fun hs => h.hash ((hhead _ (by decide)).2 hs),
      (hchars _).2 fun hc => (hchars _).1 h.chars ((hmem _ (by decide)).2 hc)⟩
  · intro h
    exact ⟨hnil.2 h.ne_nil, fun hc => h.colon ((hmem _ (by decide)).1 hc),
      fun hs => h.space ((hhead _ (by decide)).1 hs), fun hs => h.hash ((hhead _ (by decide)).1 hs),
      (hchars _).2 fun hc => (hchars _).1 h.chars ((hmem _ (by decide)).1 hc)⟩

/-- What a field is like that a line was read as: nothing of it would be read
differently. -/
structure Field.Decoded (f : Field) : Prop where
  name : FieldName NoNewline f.name
  folded : Text.foldCase f.name = f.name
  value : f.value.normal = f.value

theorem Denotes.normal {text : List Char} {value : Value} (h : Denotes text value) :
    value.normal = value := by
  cases h with
  | plain => rw [Value.normal, Value.bytes, Value.ofBytes, Text.ofBytes?_bytes]
  | base64 => rw [Value.normal, Value.bytes_ofBytes]

theorem Splits.decoded {line : List Char} {f : Field} (h : Splits line f)
    (hspace : line.head? ≠ some ' ') (hhash : line.head? ≠ some '#') (hn : '\n' ∉ line) :
    f.Decoded := by
  cases h with
  | @mk name rest value hne hcolon hvalue =>
      obtain ⟨c, cs, rfl⟩ := List.exists_cons_of_ne_nil hne
      have hname : FieldName NoNewline (String.ofList (c :: cs)) := by
        refine ⟨by simp, by simpa using hcolon, by simpa using hspace, by simpa using hhash, ?_⟩
        rw [String.toList_ofList]
        rintro d hd rfl
        exact hn (List.mem_append_left _ hd)
      have hfold : String.ofList ((c :: cs).map Char.toLower) =
          Text.foldCase (String.ofList (c :: cs)) := by
        rw [Text.foldCase, String.toList_ofList]
      exact ⟨hfold ▸ fieldName_foldCase_iff.2 hname, by rw [hfold, Text.foldCase_foldCase],
        hvalue.normal⟩

/-- Whatever lines of a block are read as is decoded. -/
theorem Items.decoded {lines : List (List Char)} {items : List Item} (h : Items lines items)
    (hlines : ∀ l ∈ lines, l.head? ≠ some ' ' ∧ '\n' ∉ l) :
    ∀ f, Item.field f ∈ items → f.Decoded := by
  induction h with
  | nil => nofun
  | comment _ _ ih => exact ih (List.forall_mem_cons.1 hlines).2
  | separator _ ih =>
      intro f hf
      exact ih (List.forall_mem_cons.1 hlines).2 f (by simpa using hf)
  | field hcomment _ hsplits _ ih =>
      obtain ⟨⟨hspace, hn⟩, hrest⟩ := List.forall_mem_cons.1 hlines
      intro f hf
      rcases List.mem_cons.1 hf with heq | hf
      · cases heq
        exact hsplits.decoded hspace hcomment hn
      · exact ih hrest f hf

end Ldif

/-! ## Records that were read -/

/-- An attribute of which nothing would be read differently. -/
structure Attribute.Decoded (a : Attribute) : Prop where
  name : FieldName NoNewline a.name
  folded : Text.foldCase a.name = a.name
  nonempty : a.values ≠ []
  values : ∀ v ∈ a.values, v.normal = v

namespace Attribute

theorem Decoded.normal {a : Attribute} (h : a.Decoded) : a.normal = a := by
  rw [Attribute.normal, key, h.folded, List.map_congr_left h.values, List.map_id']

theorem forall_mem_update {P : Attribute → Prop} {name : String} {f : List Value → List Value}
    {attrs : List Attribute} (h : ∀ a ∈ attrs, P a) (hnew : P ⟨name, f []⟩)
    (hold : ∀ a, P a → P { a with values := f a.values }) : ∀ a ∈ update name f attrs, P a := by
  induction attrs with
  | nil => simpa [update] using hnew
  | cons a rest ih =>
      obtain ⟨ha, hrest⟩ := List.forall_mem_cons.1 h
      rw [update]
      split
      · exact List.forall_mem_cons.2 ⟨hold a ha, hrest⟩
      · exact List.forall_mem_cons.2 ⟨ha, ih hrest⟩

theorem decoded_addFields {attrs : List Attribute} {fields : List Ldif.Field}
    (h : ∀ a ∈ attrs, a.Decoded) (hfields : ∀ f ∈ fields, f.Decoded) :
    ∀ a ∈ addFields attrs fields, a.Decoded := by
  induction fields generalizing attrs with
  | nil => exact h
  | cons f rest ih =>
      obtain ⟨hf, hrest⟩ := List.forall_mem_cons.1 hfields
      refine ih (forall_mem_update h ?_ fun a ha => ?_) hrest
      · exact ⟨hf.name, hf.folded, by simp, by simpa using hf.value⟩
      · refine ⟨ha.name, ha.folded, by simp, List.forall_mem_append.2 ⟨ha.values, ?_⟩⟩
        simpa using hf.value

/-- The first attribute is the one that the first field began. -/
theorem name_head?_addFields {a : Attribute} {attrs : List Attribute} {fields : List Ldif.Field} :
    (addFields (a :: attrs) fields).head?.map name = some a.name := by
  induction fields generalizing a attrs with
  | nil => rfl
  | cons f rest ih =>
      rw [addFields, List.foldl_cons, update]
      split
      · exact ih
      · exact ih

end Attribute

theorem Ldif.Edits.decoded {items : List Item} {edits : List Edit} (h : Edits items edits)
    (hfields : ∀ f, Item.field f ∈ items → f.Decoded) :
    ∀ e ∈ edits, e.normal = e ∧ (e.values ≠ [] → FieldName NoNewline e.name) := by
  induction h with
  | nil => nofun
  | @cons kind name values items edits hnames _ ih =>
      have hvalues : ∀ f ∈ values, f.Decoded := fun f hf => hfields f (by simp [hf])
      refine List.forall_mem_cons.2 ⟨⟨?_, fun hne => ?_⟩, ih fun f hf => hfields f (by simp [hf])⟩
      · have hmap : (values.map (·.value)).map Value.normal = values.map (·.value) := by
          rw [List.map_map]
          exact List.map_congr_left fun f hf => (hvalues f hf).value
        rw [Edit.normal, hmap]
      · -- a value was given under the name of the edit
        have hvne : values ≠ [] := by simpa using hne
        obtain ⟨f, rest, rfl⟩ := List.exists_cons_of_ne_nil hvne
        have hf := hvalues f List.mem_cons_self
        have hname : Text.foldCase name = f.name :=
          (Text.sameName_iff.1 (hnames f List.mem_cons_self)).trans hf.folded
        exact fieldName_foldCase_iff.1 (hname ▸ hf.name)

namespace Record

/-- A record of which nothing would be read differently, the names of edits
without values aside. -/
structure Decoded (r : Record) : Prop where
  normal : r.normal = r
  distinct : r.NamesDistinct
  attributes : ∀ a ∈ r.attributes, a.Decoded
  edits : ∀ e ∈ r.edits, e.values ≠ [] → FieldName NoNewline e.name
  first : r.writtenChange = none → ∀ a ∈ r.attributes.head?,
    a.name ≠ "changetype" ∧ a.name ≠ "control"

theorem supplied_of_decoded {r : Record} (h : ∀ a ∈ r.attributes, a.Decoded) :
    r.supplied = r.attributes :=
  List.filter_eq_self.2 fun a ha => by simpa using (h a ha).nonempty

theorem map_normal_of_decoded {r : Record} (h : ∀ a ∈ r.attributes, a.Decoded) :
    r.attributes.map Attribute.normal = r.attributes := by
  rw [List.map_congr_left fun a ha => (h a ha).normal, List.map_id']

theorem NamesDistinct.addFields {r : Record} (h : r.NamesDistinct) (fields : List Ldif.Field) :
    (r.addFields fields).NamesDistinct := by
  induction fields generalizing r with
  | nil => exact h
  | cons f rest ih => exact ih (h.addValue f.name f.value)

end Record

/-- The attributes that fields make of a record without any. -/
theorem Record.addFields_decoded {start : Record} {fields : List Ldif.Field}
    (hstart : start.attributes = []) (hfields : ∀ f ∈ fields, f.Decoded) :
    (∀ a ∈ (start.addFields fields).attributes, a.Decoded) ∧
      ∀ a ∈ (start.addFields fields).attributes.head?, ∃ f ∈ fields.head?, a.name = f.name := by
  rw [addFields_eq, hstart]
  refine ⟨Attribute.decoded_addFields nofun hfields, fun a ha => ?_⟩
  cases fields with
  | nil => cases ha
  | cons f rest =>
      have hhead := @Attribute.name_head?_addFields ⟨f.name, [f.value]⟩ [] rest
      rw [show Attribute.addFields [] (f :: rest) =
        Attribute.addFields [⟨f.name, [f.value]⟩] rest from rfl] at ha
      rw [Option.mem_def.1 ha] at hhead
      exact ⟨f, rfl, Option.some.inj hhead⟩

/-- Nothing is lost of a record whose parts are as they are read, and which has
only those that its kind of change calls for. -/
theorem Record.normal_eq_self {r : Record} (hname : r.relativeName = none)
    (hcontent : r.isContent = r.change.isNone)
    (hattributes : r.change = none ∨ r.change = some .add ∨ r.attributes = [])
    (hedits : r.change = some .modify ∨ r.edits = []) (ha : ∀ a ∈ r.attributes, a.Decoded)
    (he : ∀ e ∈ r.edits, e.normal = e) : r.normal = r := by
  have hwritten : r.writtenChange = r.change := by
    rw [writtenChange, hcontent]
    cases r.change <;> rfl
  have hattrs : (if r.change = none ∨ r.change = some .add then
      r.supplied.map Attribute.normal else []) = r.attributes := by
    split
    · rw [supplied_of_decoded ha, map_normal_of_decoded ha]
    · next hne =>
        rw [not_or] at hne
        exact ((hattributes.resolve_left hne.1).resolve_left hne.2).symm
  have heds : (if r.change = some .modify then r.edits.map Edit.normal else []) = r.edits := by
    split
    · rw [List.map_congr_left he, List.map_id']
    · next hne => exact (hedits.resolve_left hne).symm
  rw [normal, hwritten, hattrs, heds, ← hcontent, ← hname]

/-- The records that the grammar describes, of fields that were read. -/
theorem Ldif.Body.decoded {dn : String} {items : List Item} {r : Record} (h : Body dn items r)
    (hfields : ∀ f, Item.field f ∈ items → f.Decoded) : r.Decoded := by
  cases h with
  | @content fields hfirst =>
      obtain ⟨ha, hhead⟩ := @Record.addFields_decoded (Record.new dn) _ rfl
        fun f hf => hfields f (List.mem_map_of_mem hf)
      have hdistinct := (Record.namesDistinct_new dn).addFields fields
      rw [Record.addFields_eq] at ha hhead hdistinct ⊢
      refine ⟨Record.normal_eq_self rfl rfl (.inl rfl) (.inr rfl) ha nofun, hdistinct, ha, nofun,
        fun _ a hmem => ?_⟩
      obtain ⟨f, hf, hname⟩ := hhead a hmem
      rw [hname]
      exact ⟨(hfirst f hf).2, (hfirst f hf).1⟩
  | @add keyword fields hk =>
      obtain ⟨ha, -⟩ := @Record.addFields_decoded (changeOf dn .add) _ rfl
        fun f hf => hfields f (List.mem_cons_of_mem _ (List.mem_map_of_mem hf))
      have hdistinct := (show (changeOf dn .add).NamesDistinct from .nil).addFields fields
      rw [Record.addFields_eq] at ha hdistinct ⊢
      exact ⟨Record.normal_eq_self rfl rfl (.inr (.inl rfl)) (.inr rfl) ha nofun, hdistinct, ha,
        nofun, nofun⟩
  | delete hk | rename hk =>
      exact ⟨rfl, .nil, nofun, nofun, nofun⟩
  | modify hk hedits =>
      have he := hedits.decoded fun f hf => hfields f (List.mem_cons_of_mem _ hf)
      exact ⟨Record.normal_eq_self rfl rfl (.inr (.inr rfl)) (.inl rfl) nofun
        fun e hmem => (he e hmem).1, .nil, nofun, fun e hmem => (he e hmem).2, nofun⟩

/-- A record that was read can be read as it was written, provided that its edits
are named by texts that a line can hold and that do not begin with a space. -/
theorem Record.Decoded.readable {r : Record} (h : r.Decoded)
    (hedits : ∀ e ∈ r.edits, '\n' ∉ e.name.toList ∧ e.name.toList.head? ≠ some ' ') :
    r.Readable NoNewline where
  names := by
    rw [supplied_of_decoded h.attributes]
    exact fun a ha => (h.attributes a ha).name
  edits _ e he := by
    refine ⟨(hedits e he).2, ?_, h.edits e he⟩
    rintro c hc rfl
    exact (hedits e he).1 hc
  first hchange a ha := by
    rw [supplied_of_decoded h.attributes] at ha
    have hfold := (h.attributes a (List.mem_of_mem_head? ha)).folded
    obtain ⟨hchangetype, hcontrol⟩ := h.first hchange a ha
    constructor
    · rw [Bool.eq_false_iff, ne_eq, Text.sameName_iff, hfold]
      exact hchangetype
    · rw [Bool.eq_false_iff, ne_eq, Text.sameName_iff, hfold]
      exact hcontrol

namespace Ldif.Reader

/-- All records that are read of a text are decoded. -/
theorem decoded_of_answer {text : String} {n : Nat} {r : Record}
    (h : (new ⟨Text.bytes text, none⟩).answer n = .ok (some r)) : r.Decoded := by
  rw [answer_eq_readBlocks (congrArg blocks (logicalLines_new text)) (failure_new text)] at h
  obtain ⟨b, hb, seen, seen', hread⟩ := exists_read_of_mem_records
    (Reading.mem_records_of_answer h)
  have hcontinues := Block.continues_of_read hread
  obtain ⟨items, hitems, hdescribes⟩ := (Block.read_eq_some_iff hcontinues).1 hread
  have hlines : ∀ l ∈ b.lines.map Line.text, l.head? ≠ some ' ' ∧ '\n' ∉ l := by
    refine List.forall_mem_map.2 fun l hl => ⟨?_, fun hc => ?_⟩
    · simpa [Line.continues] using hcontinues l hl
    · have hphysical : ∀ l ∈ numbered 1 (physicalLines text.toList), ∀ c ∈ l.text, NoNewline c := by
        rintro l hl c hc rfl
        exact newline_notMem_of_mem_physicalLines (text_mem_of_mem_numbered hl) hc
      exact forall_mem_joined hphysical l (mem_of_mem_blocks hb hl) _ hc rfl
  have hfields := hitems.decoded hlines
  cases hdescribes with
  | unversioned hbody => exact hbody.decoded fun f hf => hfields f (by simp [hf])
  | versioned _ hbody => exact hbody.decoded fun f hf => hfields f (by simp [hf])

/-- A record that was read of a text and has a name can be written. If no line of
it ends with a carriage return, and its edits are named by texts without line
feeds that do not begin with a space, then reading what was written gives the very
same record and nothing else. -/
theorem answer_toLdif {text : String} {n : Nat} {r : Record}
    (h : (new ⟨Text.bytes text, none⟩).answer n = .ok (some r)) (hdn : r.dn ≠ "") :
    ∃ written, r.toLdif = .ok written ∧
      ((∀ l ∈ r.lines, l.getLast? ≠ some '\r') →
        (∀ e ∈ r.edits, '\n' ∉ e.name.toList ∧ e.name.toList.head? ≠ some ' ') →
          ∀ m, (new ⟨Text.bytes written, none⟩).answer m = .ok [r][m]?) := by
  refine ⟨String.ofList (r.lines.flatMap (· ++ ['\n'])), ?_, fun hlines hedits m => ?_⟩
  · rw [Record.toLdif, if_neg (by simpa using hdn)]
  · have hr := decoded_of_answer h
    have hreadable := hr.readable hedits
    have hphysical := physicalLines_terminated_of_getLast?
      (fun l hl hc => Record.chars_lines allowsPrintable_noNewline hreadable l hl _ hc rfl) hlines
    have hblocks := readBlocks_readable allowsPrintable_noNewline (List.forall_mem_singleton.2
      hreadable) (List.forall_mem_singleton.2 hr.distinct) 1 false
    rw [List.flatMap_singleton, List.map_singleton, hr.normal] at hblocks
    have hlogical := logicalLines_new (String.ofList (r.lines.flatMap (· ++ ['\n'])))
    rw [String.toList_ofList, hphysical] at hlogical
    rw [answer_eq_readBlocks (congrArg blocks hlogical) (failure_new _), new, hblocks]
    cases m <;> rfl

/-- What is read of a text without folded lines. -/
theorem answer_of_physicalLines {text : String} {lines : List (List Char)}
    (hlines : physicalLines text.toList = lines)
    (hcontinues : ∀ l ∈ lines, l.head? ≠ some ' ') (n : Nat) :
    (new ⟨Text.bytes text, none⟩).answer n =
      (readBlocks false (blocks (numbered 1 lines))).answer n := by
  have hlogical := logicalLines_new text
  rw [hlines, joined_eq_self fun l hl => by
    simpa [Line.continues] using hcontinues _ (text_mem_of_mem_numbered hl)] at hlogical
  exact answer_eq_readBlocks (congrArg blocks hlogical) (failure_new text) n

/-- A modification in which a name is given in base64, though it need not be. -/
theorem answer_toLdif_modify :
    let r : Record := { changeOf "cn=a" .modify with edits := [⟨.add, "cn", [.text "b"]⟩] }
    (new ⟨Text.bytes "dn: cn=a\nchangetype: modify\nadd:: Y24=\nCN: b\n-\n", none⟩).answer 0 =
        .ok (some r) ∧
      ∃ written, r.toLdif = .ok written ∧
        ∀ m, (new ⟨Text.bytes written, none⟩).answer m = .ok [r][m]? := by
  intro r
  have hread : (new ⟨Text.bytes "dn: cn=a\nchangetype: modify\nadd:: Y24=\nCN: b\n-\n",
      none⟩).answer 0 = .ok (some r) := by
    rw [@answer_of_physicalLines _ ["dn: cn=a".toList, "changetype: modify".toList,
      "add:: Y24=".toList, "CN: b".toList, "-".toList] (by decide +kernel) (by decide)]
    rfl
  obtain ⟨written, hwritten, hreread⟩ := answer_toLdif hread (by decide)
  exact ⟨hread, written, hwritten, hreread (by decide +kernel) (by decide)⟩

/-- The name of an edit may hold a line feed if it is given in base64. Written as
it is, it ends its line, and the blank line after it the record. -/
theorem answer_toLdif_lineFeed :
    let r : Record := { changeOf "cn=a" .modify with edits := [⟨.remove, "cn\n", []⟩] }
    (new ⟨Text.bytes "dn: cn=a\nchangetype: modify\ndelete:: Y24K\n-\n\n", none⟩).answer 0 =
        .ok (some r) ∧
      r.toLdif = .ok "dn: cn=a\nchangetype: modify\ndelete: cn\n\n-\n\n" ∧
      (new ⟨Text.bytes "dn: cn=a\nchangetype: modify\ndelete: cn\n\n-\n\n", none⟩).answer 0 =
        .error (.ldif 4 .unfinishedEdit) := by
  intro r
  refine ⟨?_, ?_, ?_⟩
  · rw [@answer_of_physicalLines _ ["dn: cn=a".toList, "changetype: modify".toList,
      "delete:: Y24K".toList, "-".toList, []] (by decide +kernel) (by decide)]
    rfl
  · rw [Record.toLdif, if_neg (by decide)]
    exact congrArg Except.ok (by decide +kernel)
  · rw [@answer_of_physicalLines _ ["dn: cn=a".toList, "changetype: modify".toList,
      "delete: cn".toList, [], "-".toList, []] (by decide +kernel) (by decide)]
    rfl

end Ldif.Reader

end DirectoryClient
