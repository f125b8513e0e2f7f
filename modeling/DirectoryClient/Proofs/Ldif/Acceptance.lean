import DirectoryClient.Proofs.Base64
import DirectoryClient.Proofs.Ldif.Grammar
import DirectoryClient.Proofs.Ldif.Refinement

/-!
# The reader accepts what the grammar describes

A reader hands out a record of the block in front of it if and only if the
grammar describes this record by the lines of the block: `Reader.next_eq_iff`.
Lines are read as the grammar's items (`Field.parse_eq_ok_iff`), a draft takes in
lines as it takes in their items, and items were dealt with in the grammar.

A block of nothing but comments and a version makes no record. The reader passes
over it, so the statement tells where the reader stands behind the record.
-/

namespace DirectoryClient.Ldif

/-! ## Fields -/

theorem Field.parseValue_eq_ok_iff {text : List Char} {value : Value} :
    parseValue text = .ok value ↔ Denotes text value := by
  constructor
  · intro h
    unfold parseValue at h
    split at h
    · next encoded =>
        split at h
        · next b hb =>
            cases h
            refine .base64 ?_
            have hbytes := Base64.decode_eq_ok_iff.1 hb
            have hs := congrArg Text.ofBytes? hbytes
            rw [Text.ofBytes?_bytes, Text.ofBytes?_bytes, Option.some.injEq] at hs
            exact String.ofList_injective hs
        · cases h
    · cases h
    · next hcolon hless =>
        cases h
        refine .plain ?_ ?_
        · intro hhead
          cases text with
          | nil => cases hhead
          | cons c rest =>
              cases hhead
              exact hcolon rest rfl
        · intro hhead
          cases text with
          | nil => cases hhead
          | cons c rest =>
              cases hhead
              exact hless rest rfl
  · intro h
    cases h with
    | plain hcolon hless =>
        unfold parseValue
        split
        · exact absurd rfl hcolon
        · exact absurd rfl hless
        · rfl
    | base64 h => rw [parseValue, h, Base64.decode_encode]

theorem Field.parse_append {name rest : List Char} (hne : name ≠ []) (hcolon : ':' ∉ name) :
    parse (name ++ ':' :: rest) =
      (parseValue rest).map (⟨String.ofList (name.map Char.toLower), ·⟩) := by
  have hname : ∀ c ∈ name, decide (c ≠ ':') = true := by
    intro c hc
    have hne : c ≠ ':' := by
      rintro rfl
      exact hcolon hc
    simpa using hne
  unfold parse
  simp only [List.takeWhile_append_of_pos hname, List.dropWhile_append_of_pos hname]
  obtain ⟨c, cs, rfl⟩ := List.exists_cons_of_ne_nil hne
  simp

/-- A line is read as a field if and only if it splits into its name and value. -/
theorem Field.parse_eq_ok_iff {line : List Char} {f : Field} :
    parse line = .ok f ↔ Splits line f := by
  constructor
  · intro h
    have hline := List.takeWhile_append_dropWhile (p := fun c => decide (c ≠ ':')) (l := line)
    have hname := List.all_takeWhile (p := fun c => decide (c ≠ ':')) (l := line)
    have hrest := List.head?_dropWhile_not (fun c => decide (c ≠ ':')) line
    unfold parse at h
    dsimp only at h
    split at h
    · next c cs d rest htake hdrop =>
        rw [htake, hdrop] at hline
        rw [htake] at hname h
        rw [hdrop] at hrest
        obtain rfl : d = ':' := by simpa using hrest
        obtain ⟨value, hvalue, rfl⟩ := Except.map_eq_ok_iff.1 h
        rw [← hline]
        refine .mk (by simp) ?_ (parseValue_eq_ok_iff.1 hvalue)
        intro hcolon
        simpa using List.all_eq_true.1 hname _ hcolon
    · cases h
  · intro h
    cases h with
    | mk hne hcolon hvalue =>
        rw [parse_append hne hcolon, parseValue_eq_ok_iff.2 hvalue]
        rfl

/-! ## Lines of a block -/

theorem Draft.accept_comment {seen : Bool} {d : Draft} {line : List Char}
    (h : line.head? = some '#') : d.accept seen line = .ok (d, seen) := by
  rw [accept, if_pos h]

theorem Draft.accept_separator (seen : Bool) (d : Draft) :
    d.accept seen ['-'] = d.acceptItem seen .separator := rfl

theorem Draft.accept_field {seen : Bool} {d : Draft} {line : List Char}
    (hcomment : line.head? ≠ some '#') (hseparator : line ≠ ['-']) :
    d.accept seen line = (Field.parse line).bind fun f => d.acceptItem seen (.field f) := by
  rw [accept, if_neg hcomment, if_neg hseparator]
  cases Field.parse line with
  | error complaint => rfl
  | ok f =>
      simp only [bind, Except.bind, acceptItem]
      split
      · cases checkVersion seen f.value <;> rfl
      · cases acceptField d.record f d.phase <;> rfl

/-- A draft takes in a line if and only if the line is a comment, or an item that
the draft takes in. -/
theorem Draft.accept_eq_ok_iff {seen seen' : Bool} {d d' : Draft} {line : List Char} :
    d.accept seen line = .ok (d', seen') ↔
      (line.head? = some '#' ∧ d' = d ∧ seen' = seen) ∨
      (line = ['-'] ∧ d.acceptItem seen .separator = .ok (d', seen')) ∨
      (line.head? ≠ some '#' ∧ line ≠ ['-'] ∧
        ∃ f, Splits line f ∧ d.acceptItem seen (.field f) = .ok (d', seen')) := by
  by_cases hcomment : line.head? = some '#'
  · have hne : line ≠ ['-'] := by
      rintro rfl
      cases hcomment
    simp [accept_comment hcomment, hcomment, hne, eq_comm]
  · by_cases hseparator : line = ['-']
    · subst hseparator
      simp [accept_separator]
    · rw [accept_field hcomment hseparator]
      rw [Except.bind_eq_ok_iff]
      constructor
      · rintro ⟨f, hf, h⟩
        exact Or.inr (Or.inr ⟨hcomment, hseparator, f, Field.parse_eq_ok_iff.1 hf, h⟩)
      · rintro (⟨h, -⟩ | ⟨h, -⟩ | ⟨-, -, f, hf, h⟩)
        · exact absurd h hcomment
        · exact absurd h hseparator
        · exact ⟨f, Field.parse_eq_ok_iff.2 hf, h⟩

theorem Draft.acceptLines_cons_eq_ok_iff {seen seen' : Bool} {d d' : Draft} {l : Line}
    {ls : List Line} (h : l.continues = false) :
    d.acceptLines seen (l :: ls) = .ok (d', seen') ↔
      ∃ d₁ seen₁, d.accept seen l.text = .ok (d₁, seen₁) ∧
        d₁.acceptLines seen₁ ls = .ok (d', seen') := by
  rw [acceptLines, if_neg (by simp [h])]
  cases hacc : d.accept seen l.text with
  | error complaint => simp
  | ok next =>
      constructor
      · intro hrest
        exact ⟨next.1, next.2, rfl, hrest⟩
      · rintro ⟨d₁, seen₁, heq, hrest⟩
        cases heq
        exact hrest

/-- A draft that takes in lines and is then finished takes in their items, and
makes the same record. -/
theorem Draft.acceptLines_iff_makes {ls : List Line} {seen seen' : Bool} {d : Draft}
    {record : Record} (h : ∀ l ∈ ls, l.continues = false) :
    (∃ d', d.acceptLines seen ls = .ok (d', seen') ∧ d'.finish = .ok (some record)) ↔
      ∃ items, Items (ls.map Line.text) items ∧ Makes seen d items record seen' := by
  induction ls generalizing seen d with
  | nil =>
      constructor
      · rintro ⟨d', hacc, hfin⟩
        cases hacc
        exact ⟨[], .nil, .nil hfin⟩
      · rintro ⟨items, hitems, hmakes⟩
        cases hitems
        obtain ⟨rfl, hfin⟩ := makes_nil_iff.1 hmakes
        exact ⟨d, rfl, hfin⟩
  | cons l rest ih =>
      obtain ⟨number, text⟩ := l
      obtain ⟨hl, hrest⟩ := List.forall_mem_cons.1 h
      rw [List.map_cons]
      constructor
      · rintro ⟨d', hacc, hfin⟩
        obtain ⟨d₁, seen₁, hline, hmore⟩ := (acceptLines_cons_eq_ok_iff hl).1 hacc
        obtain ⟨items, hitems, hmakes⟩ := (ih hrest).1 ⟨d', hmore, hfin⟩
        rcases accept_eq_ok_iff.1 hline with
          ⟨hcomment, rfl, rfl⟩ | ⟨rfl, hitem⟩ | ⟨hcomment, hseparator, f, hf, hitem⟩
        · exact ⟨items, .comment hcomment hitems, hmakes⟩
        · exact ⟨_, .separator hitems, .cons hitem hmakes⟩
        · exact ⟨_, .field hcomment hseparator hf hitems, .cons hitem hmakes⟩
      · -- the first line leads to a draft that takes in the others
        suffices hfirst : (∃ items, Items (text :: rest.map Line.text) items ∧
            Makes seen d items record seen') →
            ∃ d₁ seen₁ items, d.accept seen text = .ok (d₁, seen₁) ∧
              Items (rest.map Line.text) items ∧ Makes seen₁ d₁ items record seen' by
          intro hmakes
          obtain ⟨d₁, seen₁, items, hline, hitems, hmore⟩ := hfirst hmakes
          obtain ⟨d', hacc, hfin⟩ := (ih hrest).2 ⟨items, hitems, hmore⟩
          exact ⟨d', (acceptLines_cons_eq_ok_iff hl).2 ⟨d₁, seen₁, hline, hacc⟩, hfin⟩
        rintro ⟨items, hitems, hmakes⟩
        cases hitems with
        | comment hcomment hitems =>
            exact ⟨d, seen, items, accept_comment hcomment, hitems, hmakes⟩
        | separator hitems =>
            obtain ⟨d₁, seen₁, hitem, hmore⟩ := makes_cons_iff.1 hmakes
            exact ⟨d₁, seen₁, _, hitem, hitems, hmore⟩
        | field hcomment hseparator hf hitems =>
            obtain ⟨d₁, seen₁, hitem, hmore⟩ := makes_cons_iff.1 hmakes
            exact ⟨d₁, seen₁, _, accept_eq_ok_iff.2
              (Or.inr (Or.inr ⟨hcomment, hseparator, _, hf, hitem⟩)), hitems, hmore⟩

/-! ## Blocks -/

theorem Block.read_eq_some_iff {seen seen' : Bool} {b : Block} {record : Record}
    (h : ∀ l ∈ b.lines, l.continues = false) :
    b.read seen = .ok (some record, seen') ↔
      ∃ items, Items (b.lines.map Line.text) items ∧ Describes seen items record seen' := by
  simp only [← makes_empty_iff]
  rw [← Draft.acceptLines_iff_makes h, read]
  constructor
  · intro hread
    split at hread
    · cases hread
    · next d seen hacc =>
        split at hread
        · next hfin =>
            cases hread
            exact ⟨d, hacc, hfin⟩
        · cases hread
  · rintro ⟨d, hacc, hfin⟩
    rw [hacc]
    simp only [hfin]

/-- The items make no record and are passed over: there is nothing but, perhaps,
the version. -/
inductive Idle : Bool → List Item → Bool → Prop
  | nil {seen : Bool} : Idle seen [] seen
  | version {value : Value} : value.text? = some "1" → Idle false [.field ⟨"version", value⟩] true

theorem Draft.acceptLines_begun {ls : List Line} {seen seen' : Bool} {d d' : Draft}
    (hls : ∀ l ∈ ls, l.continues = false) (hd : d.begun = true)
    (h : d.acceptLines seen ls = .ok (d', seen')) : d'.begun = true := by
  induction ls generalizing seen d with
  | nil =>
      cases h
      exact hd
  | cons l rest ih =>
      obtain ⟨hl, hrest⟩ := List.forall_mem_cons.1 hls
      obtain ⟨d₁, seen₁, hline, hmore⟩ := (acceptLines_cons_eq_ok_iff hl).1 h
      exact ih hrest (accept_begun hd hline) hmore

theorem Draft.exists_idle_of_acceptLines {ls : List Line} {seen seen' : Bool} {d : Draft}
    (hls : ∀ l ∈ ls, l.continues = false) (hd : d.begun = false)
    (h : Draft.empty.acceptLines seen ls = .ok (d, seen')) :
    ∃ items, Items (ls.map Line.text) items ∧ Idle seen items seen' := by
  induction ls generalizing seen with
  | nil =>
      cases h
      exact ⟨[], .nil, .nil⟩
  | cons l rest ih =>
      obtain ⟨hl, hrest⟩ := List.forall_mem_cons.1 hls
      obtain ⟨d₁, seen₁, hline, hmore⟩ := (acceptLines_cons_eq_ok_iff hl).1 h
      rcases accept_eq_ok_iff.1 hline with
        ⟨hcomment, rfl, rfl⟩ | ⟨-, hitem⟩ | ⟨hcomment, hseparator, f, hf, hitem⟩
      · obtain ⟨items, hitems, hidle⟩ := ih hrest hmore
        exact ⟨items, .comment hcomment hitems, hidle⟩
      · cases hitem
      · obtain ⟨name, value⟩ := f
        rw [acceptItem] at hitem
        split at hitem
        · next hversion =>
            obtain ⟨rfl, -⟩ : name = "version" ∧ _ := hversion
            obtain ⟨u, hcheck, heq⟩ := Except.map_eq_ok_iff.1 hitem
            cases heq
            obtain ⟨rfl, hvalue⟩ := checkVersion_eq_ok_iff.1 hcheck
            obtain ⟨items, hitems, hidle⟩ := ih hrest hmore
            cases hidle
            exact ⟨_, .field hcomment hseparator hf hitems, .version hvalue⟩
        · -- any other field begins a record
          obtain ⟨next, -, heq⟩ := Except.map_eq_ok_iff.1 hitem
          cases heq
          rw [acceptLines_begun hrest rfl hmore] at hd
          cases hd

theorem Block.exists_idle_of_read {seen seen' : Bool} {b : Block}
    (hls : ∀ l ∈ b.lines, l.continues = false) (h : b.read seen = .ok (none, seen')) :
    ∃ items, Items (b.lines.map Line.text) items ∧ Idle seen items seen' := by
  rw [read] at h
  split at h
  · cases h
  · next d seen₁ hacc =>
      split at h
      · next record hfin =>
          cases h
          refine Draft.exists_idle_of_acceptLines hls ?_ hacc
          unfold Draft.finish at hfin
          split at hfin <;> simp at hfin
          exact hfin
      · cases h

/-! ## The reader

Behind a block that makes no record the reader goes on with the next, so it has
to be known that a record always uses up lines. -/

namespace Reader

theorem eq_of_finish_ok {r r' : Reader} {d : Draft} {record : Option Record}
    (h : r.finish d = (.ok record, r')) : r = r' := by
  unfold finish at h
  split at h
  · cases h
    rfl
  · cases h

/-- Going on with a draft to a record takes no line back. -/
theorem length_complete_le {r r' : Reader} {d : Draft} {record : Record}
    (h : r.complete d = (.ok (some record), r')) :
    r'.logicalLines.length ≤ r.logicalLines.length := by
  fun_induction complete r d with
  | case1 r d e r₁ hnext => cases h
  | case2 r d r₁ hnext =>
      obtain rfl := eq_of_finish_ok h
      simp [logicalLines_of_nextLine_none hnext]
  | case3 r d text r₁ hnext =>
      obtain rfl := eq_of_finish_ok h
      obtain ⟨number, hlog⟩ := logicalLines_of_nextLine hnext
      simp [hlog]
  | case4 r d text r₁ hnext _ _ _ ih =>
      obtain ⟨number, hlog⟩ := logicalLines_of_nextLine hnext
      have := ih h
      simp only [hlog, List.length_cons]
      omega
  | case5 => cases h
  | case6 r d text r₁ hnext _ _ d₁ seen _ ih =>
      obtain ⟨number, hlog⟩ := logicalLines_of_nextLine hnext
      have hle : r'.logicalLines.length ≤ r₁.logicalLines.length := ih h
      simp only [hlog, List.length_cons]
      omega

theorem length_next_lt {r r' : Reader} {record : Record}
    (h : r.next = (.ok (some record), r')) :
    r'.logicalLines.length < r.logicalLines.length := by
  rw [next, complete] at h
  split at h
  · cases h
  · cases h
  · next text r₁ hnext =>
      obtain ⟨number, hlog⟩ := logicalLines_of_nextLine hnext
      have hle : r'.logicalLines.length ≤ r₁.logicalLines.length := by
        split at h
        · exact length_complete_le h
        · split at h
          · cases h
          · next d₁ seen _ => exact length_complete_le (r := { r₁ with versionSeen := seen }) h
      simp only [hlog, List.length_cons]
      omega

/-- What the next record is depends on the block that the reader has in front of
it, `block`, from where `rest` is to come. Exactly the record that the grammar
describes comes out of the block, whereupon the reader stands behind the blank
line. A block without one is passed over if it is idle, and refused if it is
not. -/
theorem next_eq_some_iff {r : Reader} {block rest : List Line}
    (h : r.logicalLines = block ++ rest) (hne : block ≠ [])
    (hblank : ∀ l ∈ block, l.isBlank = false) (hcont : ∀ l ∈ block, l.continues = false)
    (hrest : ∀ l ∈ rest.head?, l.isBlank = true) (hf : rest.tail = [] → r.failure? = none) :
    (∀ record seen,
      (∃ r' : Reader, r.next = (.ok (some record), r') ∧ r'.logicalLines = rest.tail ∧
        r'.versionSeen = seen) ↔
      ∃ items, Items (block.map Line.text) items ∧ Describes r.versionSeen items record seen) ∧
    ((∃ record seen items, Items (block.map Line.text) items ∧
        Describes r.versionSeen items record seen) ∨
      (∃ seen items, Items (block.map Line.text) items ∧ Idle r.versionSeen items seen) ∨
      ∃ line complaint, r.next.1 = .error (.ldif line complaint)) := by
  obtain ⟨b, hb, hlines⟩ : ∃ b, blocks r.logicalLines = b :: blocks rest.tail ∧
      b.lines = block := by
    cases rest with
    | nil =>
        rw [h, List.append_nil, blocks_of_notBlank hblank hne]
        exact ⟨_, rfl, rfl⟩
    | cons l more =>
        rw [h, blocks_append_blank hblank (hrest l rfl)]
        exact ⟨_, rfl, rfl⟩
  subst hlines
  have hnext := next_of_read hb fun hnil => hf (blocks_eq_nil_iff.1 hnil)
  simp only [← Block.read_eq_some_iff hcont]
  cases hread : b.read r.versionSeen with
  | error refusal =>
      rw [hread] at hnext
      obtain ⟨r', hr', -⟩ := hnext
      refine ⟨fun record seen => ?_, Or.inr (Or.inr ⟨_, _, by rw [hr']⟩)⟩
      simp [hr']
  | ok res =>
      obtain ⟨found, seen'⟩ := res
      rw [hread] at hnext
      obtain ⟨r', hnone, hsome, hmore, hseen, -⟩ := hnext
      have hlog : r'.logicalLines = rest.tail := blocks_injective hmore
      cases found with
      | none =>
          refine ⟨fun record seen => ?_,
            Or.inr (Or.inl ⟨seen', Block.exists_idle_of_read hcont hread⟩)⟩
          constructor
          · rintro ⟨r₁, hr₁, hlog₁, -⟩
            -- a record from further on would use up more lines
            rw [hnone rfl] at hr₁
            have := length_next_lt hr₁
            rw [hlog, hlog₁] at this
            omega
          · intro heq
            cases heq
      | some found =>
          have hr' := hsome (by simp)
          refine ⟨fun record seen => ?_, Or.inl ⟨found, seen', rfl⟩⟩
          constructor
          · rintro ⟨r₁, hr₁, -, hseen₁⟩
            rw [hr'] at hr₁
            cases hr₁
            rw [← hseen, hseen₁]
          · intro heq
            cases heq
            exact ⟨r', hr', hlog, hseen⟩

theorem next_eq_some_delete :
    ∃ r' : Reader,
      next ⟨["DN: a".toList, "changetype: delete".toList, []].map .line, none, 0, 0, false, false⟩ =
        (.ok (some (changeOf "a" .delete)), r') ∧
      r'.logicalLines = [] ∧ r'.versionSeen = false := by
  have h : logicalLines ⟨["DN: a".toList, "changetype: delete".toList, []].map .line, none, 0, 0,
      false, false⟩ = [⟨1, "DN: a".toList⟩, ⟨2, "changetype: delete".toList⟩] ++ [⟨3, []⟩] := by
    simp [logicalLines, upcoming, arriving, joined, Line.isBlank, Line.continues]
  have hdn : Splits "DN: a".toList ⟨"dn", .text "a"⟩ := Field.parse_eq_ok_iff.1 rfl
  have hchange : Splits "changetype: delete".toList ⟨"changetype", .text "delete"⟩ :=
    Field.parse_eq_ok_iff.1 rfl
  have hitems : Items ["DN: a".toList, "changetype: delete".toList]
      [.field ⟨"dn", .text "a"⟩, .field ⟨"changetype", .text "delete"⟩] :=
    .field (by decide) (by decide) hdn (.field (by decide) (by decide) hchange .nil)
  exact ((next_eq_some_iff h (by simp) (by decide) (by decide) (by decide) (fun _ => rfl)).1 _ _).2
    ⟨_, hitems, .unversioned (.delete (by decide))⟩

end Reader

end DirectoryClient.Ldif
