import DirectoryClient.Proofs.Ldif.Rereading
import Mathlib.Data.List.Chain

/-!
# The layout of a text does not matter

The same lines can be written down in many ways. They may be folded anywhere, comments
may stand between them, lines may end with or without a carriage return, and the last
may lack its end. `LaidOut` says that a text is one of the ways to write down some
lines, and `Reader.answer_laidOut` that no two of them are told apart by reading, but
for the numbers of lines in errors.

Two steps lead from a text to what is read of it. Joining its physical lines gives
the lines that were laid out, and further comments: `Arranged.content_joined`. Reading
takes no notice of comments and of the numbers of lines: `readBlocks_content`. A comment
may stand behind the last blank line, so the blocks of two layouts need not correspond,
and the induction follows the lines and not the blocks.
-/

namespace DirectoryClient

/-- The error, whichever line it is about. -/
def Error.withoutLine : Error → Error
  | .ldif _ complaint => .ldif 0 complaint
  | e => e

namespace Ldif

/-! ## Layouts -/

/-- The text holds these physical lines. Each ends with a line feed, with or without a
carriage return in front of it, and only the last, if something is on it, may go
without. -/
inductive Terminated : List (List Char) → List Char → Prop
  | nil : Terminated [] []
  | unended {line : List Char} :
      line ≠ [] → '\n' ∉ line → '\r' ∉ line → Terminated [line] line
  | lineFeed {line text : List Char} {lines : List (List Char)} :
      '\n' ∉ line → '\r' ∉ line → Terminated lines text →
        Terminated (line :: lines) (line ++ '\n' :: text)
  | returnLineFeed {line text : List Char} {lines : List (List Char)} :
      '\n' ∉ line → '\r' ∉ line → Terminated lines text →
        Terminated (line :: lines) (line ++ '\r' :: '\n' :: text)

/-- The physical lines, first of the two, are a way to write the logical ones: those
that are not blank may be folded, and comments, which may be folded too, may stand
before, between and behind them. -/
inductive Arranged : List (List Char) → List (List Char) → Prop
  | nil : Arranged [] []
  | blank {physical logical : List (List Char)} :
      Arranged physical logical → Arranged ([] :: physical) ([] :: logical)
  | line {lines physical logical : List (List Char)} {text : List Char} :
      Folded lines [text] → Arranged physical logical →
        Arranged (lines ++ physical) (text :: logical)
  | comment {lines physical logical : List (List Char)} {text : List Char} :
      Folded lines [text] → text.head? = some '#' → Arranged physical logical →
        Arranged (lines ++ physical) logical

/-- The text is one of the ways to write the logical lines. -/
def LaidOut (text : List Char) (logical : List (List Char)) : Prop :=
  ∃ physical, Terminated physical text ∧ Arranged physical logical

/-- A text that reads as lines in one way only: carriage returns stand in line ends, and
no line that begins with a space begins the text or follows a blank line. -/
structure Tidy (text : List Char) : Prop where
  returns : List.IsChain (fun c next => c = '\r' → next = '\n') text
  last : text.getLast? ≠ some '\r'
  folds : List.IsChain (fun line next => line = [] → next.head? ≠ some ' ')
    ([] :: physicalLines text)

/-! ## Physical lines -/

theorem physicalLines_append_newline {line : List Char} (h : '\n' ∉ line) (text : List Char) :
    physicalLines (line ++ '\n' :: text) =
      (Source.dropReturn ∘ Source.dropReturn) line :: physicalLines text := by
  obtain ⟨part, more, hsplit⟩ := List.exists_cons_of_ne_nil (Text.split_ne_nil '\n' text)
  simp only [physicalLines, Text.split_append_separator text h, hsplit]
  simp [List.getLast?_cons]

theorem dropReturn_of_notMem {line : List Char} (h : '\r' ∉ line) :
    Source.dropReturn line = line :=
  if_neg fun hlast => h (List.mem_of_getLast? hlast)

theorem dropReturn_append_return (line : List Char) :
    Source.dropReturn (line ++ ['\r']) = line := by
  simp [Source.dropReturn]

/-- The physical lines of a text are found again, whatever ends them. -/
theorem Terminated.physicalLines_eq {lines : List (List Char)} {text : List Char}
    (h : Terminated lines text) : physicalLines text = lines := by
  induction h with
  | nil => rfl
  | @unended line hne hn hr =>
      have hsplit : Text.split '\n' (line ++ []) = [line ++ []] := Text.split_append hn rfl
      rw [List.append_nil] at hsplit
      simp [physicalLines, hsplit, hne, dropReturn_of_notMem hr]
  | lineFeed hn hr _ ih =>
      rw [physicalLines_append_newline hn, ih, Function.comp_apply, dropReturn_of_notMem hr,
        dropReturn_of_notMem hr]
  | @returnLineFeed line text lines hn hr _ ih =>
      have hn' : '\n' ∉ line ++ ['\r'] := by simp [hn]
      have hassoc : line ++ '\r' :: '\n' :: text = (line ++ ['\r']) ++ '\n' :: text := by simp
      rw [hassoc, physicalLines_append_newline hn', ih, Function.comp_apply,
        dropReturn_append_return, dropReturn_of_notMem hr]

/-- If carriage returns stand in line ends only, every one is followed by a line feed. -/
theorem exists_eq_newline_cons {text front back : List Char}
    (hreturns : List.IsChain (fun c next => c = '\r' → next = '\n') text)
    (hlast : text.getLast? ≠ some '\r') (htext : text = front ++ '\r' :: back) :
    ∃ rest, back = '\n' :: rest := by
  cases back with
  | nil => exact absurd (by simp [htext]) hlast
  | cons next rest =>
      rw [htext] at hreturns
      obtain ⟨hnext, -⟩ := List.isChain_cons_cons.1 hreturns.right_of_append
      exact ⟨rest, by rw [hnext rfl]⟩

/-- The text is cut at its line ends, one after the other. -/
theorem exists_terminated {text : List Char}
    (hreturns : List.IsChain (fun c next => c = '\r' → next = '\n') text)
    (hlast : text.getLast? ≠ some '\r') : ∃ lines, Terminated lines text := by
  by_cases hn : '\n' ∈ text
  · obtain ⟨line, rest, htext, hline⟩ := List.eq_append_cons_of_mem hn
    have hlength : rest.length < text.length := by
      rw [htext, List.length_append, List.length_cons]
      omega
    have hrest : rest.getLast? ≠ some '\r' := by
      intro hrest
      simp [htext, List.getLast?_cons, hrest] at hlast
    obtain ⟨lines, hlines⟩ :=
      exists_terminated (htext ▸ hreturns).right_of_append.tail hrest
    by_cases hr : '\r' ∈ line
    · obtain ⟨front, back, rfl, hfront⟩ := List.eq_append_cons_of_mem hr
      rw [List.append_assoc, List.cons_append] at htext
      obtain ⟨more, hmore⟩ := exists_eq_newline_cons hreturns hlast htext
      cases back with
      | nil =>
          rw [htext]
          exact ⟨_, .returnLineFeed (by simpa using hline) hfront hlines⟩
      | cons c back =>
          -- what follows the carriage return is a line feed, yet not the first one
          cases hmore
          simp at hline
    · rw [htext]
      exact ⟨_, .lineFeed hline hr hlines⟩
  · by_cases hempty : text = []
    · exact ⟨[], hempty ▸ .nil⟩
    · refine ⟨[text], .unended hempty hn fun hr => ?_⟩
      obtain ⟨front, back, htext⟩ := List.append_of_mem hr
      obtain ⟨rest, rfl⟩ := exists_eq_newline_cons hreturns hlast htext
      simp [htext] at hn
termination_by text.length

theorem Tidy.terminated {text : List Char} (h : Tidy text) :
    Terminated (physicalLines text) text := by
  obtain ⟨lines, hlines⟩ := exists_terminated h.returns h.last
  rwa [hlines.physicalLines_eq]

/-! ## Logical lines -/

/-- The lines up to the first that does not begin with a space, as pieces of the line
before them. -/
theorem exists_pieces (lines : List (List Char)) :
    ∃ pieces more : List (List Char), lines = pieces.map (' ' :: ·) ++ more ∧
      ∀ l ∈ more.head?, l.head? ≠ some ' ' := by
  induction lines with
  | nil => exact ⟨[], [], rfl, nofun⟩
  | cons line rest ih =>
      by_cases hspace : line.head? = some ' '
      · obtain ⟨piece, rfl⟩ := List.head?_eq_some_iff.1 hspace
        obtain ⟨pieces, more, rfl, hmore⟩ := ih
        exact ⟨piece :: pieces, more, rfl, hmore⟩
      · exact ⟨[], line :: rest, rfl, fun l hl => Option.some.inj hl ▸ hspace⟩

/-- A line that begins with a space follows one that it continues, so there are
logical lines to be made of the physical ones. -/
theorem exists_arranged {physical : List (List Char)}
    (h : List.IsChain (fun line next => line = [] → next.head? ≠ some ' ') ([] :: physical)) :
    ∃ logical, Arranged physical logical := by
  match physical with
  | [] => exact ⟨[], .nil⟩
  | [] :: rest =>
      obtain ⟨logical, hrest⟩ := exists_arranged h.tail
      exact ⟨_, .blank hrest⟩
  | (c :: cs) :: rest =>
      obtain ⟨hspace, hchain⟩ := List.isChain_cons_cons.1 h
      obtain ⟨pieces, more, rfl, hmore⟩ := exists_pieces rest
      obtain ⟨logical, hlogical⟩ :=
        exists_arranged (hchain.tail.right_of_append.cons fun l hl _ => hmore l hl)
      have hfolded : Folded ((c :: cs) :: pieces.map (' ' :: ·)) [(c :: cs) ++ pieces.flatten] := by
        have hcons := @Folded.cons _ pieces [] [] (List.cons_ne_nil c cs) (hspace rfl) .nil
        rwa [List.append_nil] at hcons
      exact ⟨_, .line hfolded hlogical⟩
termination_by physical.length

/-- What is on the lines that are no comments. -/
def content (ls : List Line) : List (List Char) :=
  (ls.map Line.text).filter (·.head? != some '#')

theorem content_append (ls more : List Line) : content (ls ++ more) = content ls ++ content more := by
  simp [content]

theorem Arranged.continues_head? {physical logical : List (List Char)}
    (h : Arranged physical logical) (n : Nat) :
    ∀ l ∈ (numbered n physical).head?, l.continues = false := by
  induction h generalizing n with
  | nil => nofun
  | blank =>
      intro l hl
      cases hl
      rfl
  | @line lines physical _ _ hfolded _ ih | @comment lines physical _ _ hfolded _ _ ih =>
      rw [numbered_append]
      exact hfolded.continues_head? n (ih (n + lines.length))

/-- Joining the physical lines gives the logical lines, apart from comments. -/
theorem Arranged.content_joined {physical logical : List (List Char)}
    (h : Arranged physical logical) (n : Nat) :
    content (joined (numbered n physical)) = logical.filter (·.head? != some '#') := by
  induction h generalizing n with
  | nil => simp [numbered, joined, content]
  | @blank physical logical _ ih =>
      have hblank : joined (numbered n ([] :: physical)) =
          ⟨n, []⟩ :: joined (numbered (n + 1) physical) := joined_blank rfl
      rw [hblank, ← List.singleton_append, content_append, ih]
      rfl
  | @line lines physical logical text hfolded hmore ih =>
      obtain ⟨block, hjoined, htexts, -, -⟩ :=
        hfolded.joined_eq n (hmore.continues_head? (n + lines.length))
      rw [numbered_append, hjoined, content_append, ih, content, htexts, ← List.filter_append]
      rfl
  | @comment lines physical logical text hfolded hcomment hmore ih =>
      obtain ⟨block, hjoined, htexts, -, -⟩ :=
        hfolded.joined_eq n (hmore.continues_head? (n + lines.length))
      rw [numbered_append, hjoined, content_append, ih, content, htexts]
      simp [hcomment]

/-! ## Reading -/

/-- Lines that have nothing but what is on them. -/
def unnumbered (texts : List (List Char)) : List Line := texts.map (Line.mk 0)

/-- What was read, and why no more, wherever that was. -/
def Reading.withoutLine (x : Reading) : List Record × Option Complaint :=
  (x.records, x.refusal.map Refusal.complaint)

theorem Draft.acceptLines_content (ls : List Line) (seen : Bool) (d : Draft) :
    (d.acceptLines seen ls).mapError Refusal.complaint =
      (d.acceptLines seen (unnumbered (content ls))).mapError Refusal.complaint := by
  induction ls generalizing seen d with
  | nil => rfl
  | cons l rest ih =>
      by_cases hcomment : l.text.head? = some '#'
      · have hcontent : content (l :: rest) = content rest := by simp [content, hcomment]
        have hcontinues : ¬ l.continues = true := by simp [Line.continues, hcomment]
        rw [hcontent, acceptLines, if_neg hcontinues, accept_comment hcomment]
        exact ih seen d
      · have hcontent : unnumbered (content (l :: rest)) =
            ⟨0, l.text⟩ :: unnumbered (content rest) := by
          simp [content, unnumbered, hcomment]
        have hcontinues : (Line.mk 0 l.text).continues = l.continues := rfl
        rw [hcontent, acceptLines, acceptLines, hcontinues]
        split
        · rfl
        · cases d.accept seen l.text with
          | error complaint => rfl
          | ok res => exact ih res.2 res.1

theorem Block.read_content (ls : List Line) (stop stop' : Option Nat) (seen : Bool) :
    ((Block.mk ls stop).read seen).mapError Refusal.complaint =
      ((Block.mk (unnumbered (content ls)) stop').read seen).mapError Refusal.complaint := by
  unfold read
  dsimp only
  rcases Except.mapError_eq_mapError_iff.1 (Draft.acceptLines_content ls seen Draft.empty) with
    ⟨res, hls, htexts⟩ | ⟨refusal, refusal', hls, htexts, heq⟩
  · rw [hls, htexts]
    dsimp only
    cases res.1.finish <;> rfl
  · rw [hls, htexts]
    exact congrArg Except.error heq

theorem readBlocks_congr {b b' : Block} {more more' : List Block} {seen : Bool}
    (hread : (b.read seen).mapError Refusal.complaint = (b'.read seen).mapError Refusal.complaint)
    (hmore : ∀ seen, (readBlocks seen more).withoutLine = (readBlocks seen more').withoutLine) :
    (readBlocks seen (b :: more)).withoutLine = (readBlocks seen (b' :: more')).withoutLine := by
  rw [readBlocks, readBlocks]
  rcases Except.mapError_eq_mapError_iff.1 hread with
    ⟨⟨record, seen'⟩, hb, hb'⟩ | ⟨refusal, refusal', hb, hb', heq⟩
  · rw [hb, hb']
    cases record with
    | none => exact hmore seen'
    | some record =>
        obtain ⟨hrecords, hrefusal⟩ := Prod.mk.inj (hmore seen')
        simp [Reading.withoutLine, hrecords, hrefusal]
  · rw [hb, hb']
    simp [Reading.withoutLine, heq]

/-- What is read depends on what is on the lines, and not on comments. -/
theorem readBlocks_content (ls : List Line) (seen : Bool) :
    (readBlocks seen (blocks ls)).withoutLine =
      (readBlocks seen (blocks (unnumbered (content ls)))).withoutLine := by
  generalize hbs : blocks ls = bs
  induction bs generalizing ls seen with
  | nil =>
      rw [blocks_eq_nil_iff.1 hbs]
      rfl
  | cons b more ih =>
      obtain ⟨hblank, hcase⟩ := blocks_eq_cons hbs
      have hread := fun stop => Block.read_content b.lines b.stop stop seen
      have hblank' : ∀ l ∈ unnumbered (content b.lines), l.isBlank = false := by
        intro l hl
        obtain ⟨text, htext, rfl⟩ := List.mem_map.1 hl
        obtain ⟨x, hx, rfl⟩ := List.mem_map.1 (List.mem_filter.1 htext).1
        exact hblank x hx
      rcases hcase with ⟨rfl, -, -, rfl⟩ | ⟨⟨number, text⟩, rest, hl, rfl, -, rfl⟩
      · have hlast := @readBlocks_congr _ _ [] [] seen (hread none) fun _ => rfl
        cases hcontent : unnumbered (content b.lines) with
        | nil =>
            -- nothing but comments: as good as nothing at all
            rw [hcontent] at hlast
            exact hlast
        | cons x xs =>
            rw [hcontent] at hlast hblank'
            rw [blocks_of_notBlank hblank' (List.cons_ne_nil _ _)]
            exact hlast
      · obtain rfl : text = [] := List.isEmpty_iff.1 hl
        have hcontent : unnumbered (content (b.lines ++ ⟨number, []⟩ :: rest)) =
            unnumbered (content b.lines) ++ ⟨0, []⟩ :: unnumbered (content rest) := by
          rw [content_append, unnumbered, List.map_append]
          rfl
        rw [hcontent, blocks_append_blank hblank' rfl]
        exact readBlocks_congr (hread (some 0)) fun seen => ih rest seen rfl

theorem Reading.answer_congr {x y : Reading} (h : x.withoutLine = y.withoutLine) (n : Nat) :
    (x.answer n).mapError Error.withoutLine = (y.answer n).mapError Error.withoutLine := by
  obtain ⟨records, refusal⟩ := x
  obtain ⟨records', refusal'⟩ := y
  obtain ⟨rfl, hrefusal⟩ := Prod.mk.inj h
  unfold answer
  cases records[n]? with
  | some record => rfl
  | none =>
      cases refusal with
      | none =>
          obtain rfl := Option.map_eq_none_iff.1 hrefusal.symm
          rfl
      | some r =>
          obtain ⟨r', rfl, hr'⟩ := Option.map_eq_some_iff.1 hrefusal.symm
          dsimp only
          split
          · simp [Error.withoutLine, hr']
          · rfl

/-! ## Layouts of the same lines -/

theorem readText_laidOut {text : List Char} {logical : List (List Char)}
    (h : LaidOut text logical) :
    (readText text).withoutLine =
      (readBlocks false
        (blocks (unnumbered (logical.filter (·.head? != some '#'))))).withoutLine := by
  obtain ⟨physical, hterminated, harranged⟩ := h
  rw [readText, hterminated.physicalLines_eq, readBlocks_content, harranged.content_joined]

/-- Nothing but tidiness is needed of a text for it to be a way to write some lines. -/
theorem Tidy.laidOut {text : List Char} (h : Tidy text) : ∃ logical, LaidOut text logical := by
  obtain ⟨logical, harranged⟩ := exists_arranged h.folds
  exact ⟨logical, physicalLines text, h.terminated, harranged⟩

namespace Reader

/-- Every tidy text is a way to write some lines, and two ways to write the same lines,
asked again and again, give the same records and errors, each at the same call, but for
the numbers of lines in errors. -/
theorem answer_laidOut :
    (∀ text : List Char, Tidy text → ∃ logical, LaidOut text logical) ∧
      ∀ (text text' : String) (logical : List (List Char)),
        LaidOut text.toList logical → LaidOut text'.toList logical → ∀ n,
          ((new ⟨Text.bytes text, none⟩).answer n).mapError Error.withoutLine =
            ((new ⟨Text.bytes text', none⟩).answer n).mapError Error.withoutLine := by
  refine ⟨fun _ => Tidy.laidOut, fun text text' logical h h' n => ?_⟩
  have hanswer : ∀ text : String, (new ⟨Text.bytes text, none⟩).answer n =
      (readText text.toList).answer n := fun text =>
    answer_eq_readBlocks (congrArg blocks (logicalLines_new text)) (failure_new text) n
  rw [hanswer, hanswer]
  exact Reading.answer_congr ((readText_laidOut h).trans (readText_laidOut h').symm) n

/-- A record and a line that begins no record, once with a fold, comments and carriage
returns, and once without, the end of the last line included. -/
theorem answer_laidOut_folded :
    let folded := "# a\r\n  b\r\ndn: cn=a\r\nc\r\n n: a\r\n\r\n#\r\ncn: b\r\n"
    let plain := "dn: cn=a\ncn: a\n\ncn: b"
    (Tidy folded.toList ∧ ∃ logical, LaidOut folded.toList logical ∧ LaidOut plain.toList logical) ∧
      (new ⟨Text.bytes folded, none⟩).answer 1 ≠ (new ⟨Text.bytes plain, none⟩).answer 1 ∧
      ∀ n, ((new ⟨Text.bytes folded, none⟩).answer n).mapError Error.withoutLine =
        ((new ⟨Text.bytes plain, none⟩).answer n).mapError Error.withoutLine := by
  intro folded plain
  have htidy : Tidy folded.toList := ⟨by decide +kernel, by decide +kernel, by decide +kernel⟩
  have htidy' : Tidy plain.toList := ⟨by decide +kernel, by decide +kernel, by decide +kernel⟩
  have hlines : physicalLines folded.toList = ["# a".toList, "  b".toList, "dn: cn=a".toList,
      "c".toList, " n: a".toList, [], "#".toList, "cn: b".toList] := by decide +kernel
  have hlines' : physicalLines plain.toList =
      ["dn: cn=a".toList, "cn: a".toList, [], "cn: b".toList] := by decide +kernel
  have harranged : Arranged (physicalLines folded.toList)
      ["dn: cn=a".toList, "cn: a".toList, [], "cn: b".toList] := by
    rw [hlines]
    refine .comment (@Folded.cons "# a".toList [" b".toList] [] [] nofun (by decide) .nil) rfl ?_
    refine .line (.single (by decide) (by decide)) ?_
    refine .line (@Folded.cons "c".toList ["n: a".toList] [] [] nofun (by decide) .nil) ?_
    refine .blank (.comment (.single (by decide) (by decide)) rfl ?_)
    exact .line (.single (by decide) (by decide)) .nil
  have harranged' : Arranged (physicalLines plain.toList)
      ["dn: cn=a".toList, "cn: a".toList, [], "cn: b".toList] := by
    rw [hlines']
    refine .line (.single (by decide) (by decide)) ?_
    refine .line (.single (by decide) (by decide)) ?_
    exact .blank (.line (.single (by decide) (by decide)) .nil)
  have hlaidOut : LaidOut folded.toList _ := ⟨_, htidy.terminated, harranged⟩
  have hlaidOut' : LaidOut plain.toList _ := ⟨_, htidy'.terminated, harranged'⟩
  exact ⟨⟨htidy, _, hlaidOut, hlaidOut'⟩, by decide +kernel,
    answer_laidOut.2 folded plain _ hlaidOut hlaidOut'⟩

end Reader

end Ldif

end DirectoryClient
