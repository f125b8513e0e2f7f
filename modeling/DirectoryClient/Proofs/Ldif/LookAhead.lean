import DirectoryClient.Proofs.Ldif.Batch

/-!
# A reader one line ahead

A reader holds a line that it has looked at and not yet used, and counts lines
as they arrive. None of this is visible from outside: `Reader.logicalLines` says
which logical lines are still to come, and taking one with `Reader.nextLine` is
taking the head of that list. The number that the reader then shows is the one
with which the list labels the line.

A failure of the source cuts the list off. The lines in front of it can be
taken as long as the line that has to be looked at beyond them is there, so each
statement asks for a line behind the one that is taken, or for a source that
does not fail.
-/

namespace DirectoryClient.Ldif

/-- The lines that arrive before anything fails, with their numbers. -/
def arriving (first : Nat) : List Arrival → List Line
  | .line text :: rest => ⟨first, text⟩ :: arriving (first + 1) rest
  | _ => []

/-- The first failure that arrives. -/
def failing : List Arrival → Option IoKind
  | [] => none
  | .line _ :: rest => failing rest
  | .failure kind :: _ => some kind

@[simp] theorem arriving_map_line (first : Nat) (texts : List (List Char)) :
    arriving first (texts.map .line) = numbered first texts := by
  induction texts generalizing first with
  | nil => rfl
  | cons text rest ih => simp [arriving, numbered, ih]

@[simp] theorem failing_map_line (texts : List (List Char)) :
    failing (texts.map .line) = none := by
  induction texts with
  | nil => rfl
  | cons text rest ih => simpa [failing] using ih

namespace Reader

/-- The physical lines that a reader has not used. -/
def upcoming (r : Reader) : List Line :=
  (r.ahead.map fun a => Line.mk a.1 a.2).toList ++ arriving (r.read + 1) r.arrivals

/-- The logical lines that a reader has still to hand out. -/
def logicalLines (r : Reader) : List Line := joined r.upcoming

/-- The failure that is in the reader's way. -/
def failure? (r : Reader) : Option IoKind := failing r.arrivals

/-- Whether a reader has nothing left at all. -/
def IsDrained (r : Reader) : Prop := r.arrivals = [] ∧ r.ahead = none

/-- A reader got from `r` to `r'` by taking lines and no more than that: `rest`
is to come, and `line` is the number of the line that was taken last. -/
structure Advanced (r r' : Reader) (line : Nat) (rest : List Line) : Prop where
  logicalLines_eq : r'.logicalLines = rest
  line_eq : r'.line = line
  versionSeen_eq : r'.versionSeen = r.versionSeen
  failure_eq : r'.failure? = r.failure?

theorem isDrained_skip (r : Reader) : r.skip.IsDrained := ⟨rfl, rfl⟩

theorem upcoming_eq_nil_iff {r : Reader} :
    r.upcoming = [] ↔ r.ahead = none ∧ arriving (r.read + 1) r.arrivals = [] := by
  simp [upcoming]

theorem isDrained_of_logicalLines_eq_nil {r : Reader} (h : r.logicalLines = [])
    (hf : r.failure? = none) : r.IsDrained := by
  obtain ⟨hahead, harriving⟩ := upcoming_eq_nil_iff.1 (joined_eq_nil_iff.1 h)
  refine ⟨?_, hahead⟩
  cases hr : r.arrivals with
  | nil => rfl
  | cons a rest =>
      cases a with
      | line text => simp [hr, arriving] at harriving
      | failure kind => simp [failure?, hr, failing] at hf

theorem IsDrained.logicalLines_eq {r : Reader} (h : r.IsDrained) : r.logicalLines = [] := by
  simp [logicalLines, upcoming, h.1, h.2, arriving]

theorem IsDrained.failure_eq {r : Reader} (h : r.IsDrained) : r.failure? = none := by
  simp [failure?, h.1, failing]

/-! ## Gathering continuations

The induction is on what arrives; the text gathered so far is never blank, so it
takes on every line that begins with a space. -/

theorem gather_blank (r : Reader) (arrivals : List Arrival)
    (hf : arriving (r.read + 1) arrivals = [] → failing arrivals = none) :
    ∃ r', gather r [] arrivals = (.ok [], r') ∧
      r'.upcoming = arriving (r.read + 1) arrivals ∧ r'.line = r.line ∧
      r'.versionSeen = r.versionSeen ∧ r'.failure? = failing arrivals := by
  cases arrivals with
  | nil => exact ⟨_, rfl, rfl, rfl, rfl, rfl⟩
  | cons a rest =>
      cases a with
      | failure kind => exact absurd (hf rfl) (by simp [failing])
      | line next => exact ⟨_, rfl, rfl, rfl, rfl, rfl⟩

theorem gather_text {r : Reader} {text : List Char} {arrivals : List Arrival}
    (ht : text ≠ [])
    (hf : (arriving (r.read + 1) arrivals).dropWhile Line.continues = [] →
      failing arrivals = none) :
    ∃ r', gather r text arrivals =
        (.ok (text ++ ((arriving (r.read + 1) arrivals).takeWhile Line.continues).flatMap
          (·.text.tail)), r') ∧
      r'.upcoming = (arriving (r.read + 1) arrivals).dropWhile Line.continues ∧
      r'.line = r.line ∧ r'.versionSeen = r.versionSeen ∧
      r'.failure? = failing arrivals := by
  induction arrivals generalizing r text with
  | nil =>
      refine ⟨{ r with arrivals := [], ahead := none, ended := true }, ?_, rfl, rfl, rfl, rfl⟩
      simp [gather, arriving]
  | cons a rest ih =>
      cases a with
      | failure kind => exact absurd (hf rfl) (by simp [failing])
      | line next =>
          obtain ⟨c, cs, rfl⟩ := List.exists_cons_of_ne_nil ht
          by_cases hcont : (Line.mk (r.read + 1) next).continues = true
          · obtain ⟨more, rfl⟩ := Line.exists_of_continues hcont
            simp only [arriving, List.dropWhile_cons_of_pos hcont] at hf
            obtain ⟨r', hr', hup, hline, hseen, hfail⟩ :=
              @ih { r with read := r.read + 1 } (c :: cs ++ more) (by simp) hf
            refine ⟨r', ?_, ?_, hline, hseen, hfail⟩
            · rw [gather, hr']
              simp [arriving, List.takeWhile_cons_of_pos hcont]
            · simpa only [arriving, List.dropWhile_cons_of_pos hcont] using hup
          · have hnext : ¬ next.head? = some ' ' := by
              simpa [Line.continues] using hcont
            refine ⟨{ r with
                read := r.read + 1
                arrivals := rest
                ahead := some (r.read + 1, next) }, ?_, ?_, rfl, rfl, rfl⟩
            · rw [arriving, List.takeWhile_cons_of_neg hcont]
              unfold gather
              split
              · simp at hnext
              · simp
            · rw [arriving, List.dropWhile_cons_of_neg hcont]
              rfl

/-! ## Logical lines

Where the first physical line comes from, the look-ahead or the source, makes no
difference to what is made of it. -/

/-- What a logical line that begins with the physical line `l` amounts to. -/
theorem logical_of_continues {r : Reader} {number : Nat} {text : List Char}
    {arrivals : List Arrival} (h : text.head? = some ' ') :
    ∃ r', r.logical number text arrivals = (.error (.ldif number .looseContinuation), r') ∧
      r'.IsDrained := by
  refine ⟨_, ?_, isDrained_skip { r with line := number }⟩
  simp [logical, h]

theorem logical_ok {r : Reader} {l : Line} {arrivals : List Arrival}
    (hc : l.continues = false)
    (hf : (joined (l :: arriving (r.read + 1) arrivals)).tail = [] → failing arrivals = none) :
    ∃ r' text, r.logical l.number l.text arrivals = (.ok text, r') ∧
      joined (l :: arriving (r.read + 1) arrivals) = ⟨l.number, text⟩ :: r'.logicalLines ∧
      r'.line = l.number ∧ r'.versionSeen = r.versionSeen ∧ r'.failure? = failing arrivals := by
  have hhead : ¬ l.text.head? = some ' ' := by simpa [Line.continues] using hc
  simp only [logical, if_neg hhead]
  cases hblank : l.isBlank with
  | true =>
      rw [joined_blank hblank, List.tail_cons, joined_eq_nil_iff] at hf
      have htext : l.text = [] := by simpa [Line.isBlank] using hblank
      obtain ⟨r', hr', hup, hline, hseen, hfail⟩ :=
        gather_blank { r with line := l.number } arrivals hf
      refine ⟨r', [], by rw [htext, hr'], ?_, hline, hseen, hfail⟩
      rw [joined_blank hblank, logicalLines, hup, ← htext]
  | false =>
      rw [joined_cons hblank, List.tail_cons, joined_eq_nil_iff] at hf
      have htext : l.text ≠ [] := by simpa [Line.isBlank] using hblank
      obtain ⟨r', hr', hup, hline, hseen, hfail⟩ :=
        gather_text (r := { r with line := l.number }) htext hf
      exact ⟨r', _, hr', by rw [joined_cons hblank, logicalLines, hup], hline, hseen, hfail⟩

theorem continues_head_joined {l x : Line} {rest ls : List Line}
    (h : joined (l :: rest) = x :: ls) :
    x.number = l.number ∧ x.continues = l.continues := by
  cases hblank : l.isBlank with
  | true =>
      rw [joined_blank hblank] at h
      cases h
      exact ⟨rfl, rfl⟩
  | false =>
      rw [joined_cons hblank] at h
      cases h
      exact ⟨rfl, continues_append (by simpa [Line.isBlank] using hblank)⟩

theorem nextLine_of_ahead {r : Reader} {number : Nat} {text : List Char}
    (h : r.ahead = some (number, text)) :
    r.nextLine = ((logical r number text r.arrivals).1.map some,
      (logical r number text r.arrivals).2) := by
  simp only [nextLine, h]

theorem nextLine_of_line {r : Reader} {text : List Char} {rest : List Arrival}
    (h : r.ahead = none) (harr : r.arrivals = .line text :: rest) :
    r.nextLine = ((logical { r with read := r.read + 1 } (r.read + 1) text rest).1.map some,
      (logical { r with read := r.read + 1 } (r.read + 1) text rest).2) := by
  simp only [nextLine, h, harr]

theorem nextLine_eq_logical {r : Reader} {l : Line} {rest : List Line}
    (h : r.upcoming = l :: rest) :
    ∃ s arrivals, r.nextLine = ((logical s l.number l.text arrivals).1.map some,
        (logical s l.number l.text arrivals).2) ∧
      arriving (s.read + 1) arrivals = rest ∧ s.versionSeen = r.versionSeen ∧
      failing arrivals = r.failure? := by
  cases hahead : r.ahead with
  | some a =>
      simp only [upcoming, hahead, Option.map_some, Option.toList_some, List.cons_append,
        List.nil_append, List.cons.injEq] at h
      obtain ⟨rfl, hrest⟩ := h
      exact ⟨r, r.arrivals, nextLine_of_ahead hahead, hrest, rfl, rfl⟩
  | none =>
      cases harr : r.arrivals with
      | nil => simp [upcoming, hahead, harr, arriving] at h
      | cons a arrivals =>
          cases a with
          | failure kind => simp [upcoming, hahead, harr, arriving] at h
          | line text =>
              simp only [upcoming, hahead, harr, arriving, Option.map_none, Option.toList_none,
                List.nil_append, List.cons.injEq] at h
              obtain ⟨rfl, hrest⟩ := h
              exact ⟨{ r with read := r.read + 1 }, arrivals, nextLine_of_line hahead harr, hrest, rfl,
                by simp only [failure?, harr, failing]⟩

/-- Taking a line takes the head of the logical lines. -/
theorem nextLine_of_cons {r : Reader} {l : Line} {rest : List Line}
    (h : r.logicalLines = l :: rest) (hc : l.continues = false)
    (hf : rest = [] → r.failure? = none) :
    ∃ r', r.nextLine = (.ok (some l.text), r') ∧ r.Advanced r' l.number rest := by
  cases hup : r.upcoming with
  | nil => simp [logicalLines, hup, joined] at h
  | cons x xs =>
      rw [logicalLines, hup] at h
      obtain ⟨s, arrivals, hnext, hxs, hseen, hfail⟩ := nextLine_eq_logical hup
      have hx := continues_head_joined h
      obtain ⟨r', text, hr', hjoined, hline, hseen', hfail'⟩ :=
        @logical_ok s x arrivals (by rw [← hx.2, hc])
          (by rw [hxs, h, hfail]; exact hf)
      rw [hxs, h] at hjoined
      obtain ⟨hl, hrest⟩ := List.cons.inj hjoined
      refine ⟨r', ?_, hrest.symm, by rw [hline, hx.1], by rw [hseen', hseen], by rw [hfail', hfail]⟩
      rw [hnext, hr', hl]
      rfl

/-- A line that continues nothing is refused, and the rest is given up. -/
theorem nextLine_of_continues {r : Reader} {l : Line} {rest : List Line}
    (h : r.logicalLines = l :: rest) (hc : l.continues = true) :
    ∃ r', r.nextLine = (.error (.ldif l.number .looseContinuation), r') ∧ r'.IsDrained := by
  cases hup : r.upcoming with
  | nil => simp [logicalLines, hup, joined] at h
  | cons x xs =>
      rw [logicalLines, hup] at h
      obtain ⟨s, arrivals, hnext, -, -, -⟩ := nextLine_eq_logical hup
      have hx := continues_head_joined h
      have hhead : x.text.head? = some ' ' := by
        simpa [Line.continues] using hx.2.symm.trans hc
      obtain ⟨r', hr', hdrained⟩ := @logical_of_continues s x.number x.text arrivals hhead
      exact ⟨r', by rw [hnext, hr', hx.1]; rfl, hdrained⟩

/-! ## Failures

A logical line whose end has not been seen is lost when the source fails. -/

theorem gather_of_failing {r : Reader} {text : List Char} {arrivals : List Arrival}
    {kind : IoKind} (ht : text ≠ [])
    (hall : (arriving (r.read + 1) arrivals).dropWhile Line.continues = [])
    (hf : failing arrivals = some kind) : (gather r text arrivals).1 = .error (.io kind) := by
  induction arrivals generalizing r text with
  | nil => cases hf
  | cons a rest ih =>
      cases a with
      | failure kind' =>
          cases hf
          rfl
      | line next =>
          obtain ⟨c, cs, rfl⟩ := List.exists_cons_of_ne_nil ht
          have hcont : (Line.mk (r.read + 1) next).continues = true := by
            rw [arriving] at hall
            refine Decidable.byContradiction fun hcont => ?_
            rw [List.dropWhile_cons_of_neg hcont] at hall
            cases hall
          obtain ⟨more, rfl⟩ := Line.exists_of_continues hcont
          simp only [arriving, List.dropWhile_cons_of_pos hcont] at hall
          rw [gather]
          exact ih (r := { r with read := r.read + 1 }) (by simp) hall hf

theorem nextLine_of_failing {r : Reader} {l : Line} {kind : IoKind}
    (h : r.logicalLines = [l]) (hc : l.continues = false) (hf : r.failure? = some kind) :
    r.nextLine.1 = .error (.io kind) := by
  cases hup : r.upcoming with
  | nil => simp [logicalLines, hup, joined] at h
  | cons x xs =>
      rw [logicalLines, hup] at h
      obtain ⟨s, arrivals, hnext, hxs, -, hfail⟩ := nextLine_eq_logical hup
      have hhead : ¬ x.text.head? = some ' ' := by
        simpa [Line.continues] using (continues_head_joined h).2.symm.trans hc
      rw [hf] at hfail
      have hgather : (gather { s with line := x.number } x.text arrivals).1 =
          .error (.io kind) := by
        cases hblank : x.isBlank with
        | true =>
            rw [joined_blank hblank] at h
            obtain rfl : xs = [] := joined_eq_nil_iff.1 (List.cons.inj h).2
            cases arrivals with
            | nil => cases hfail
            | cons a rest =>
                cases a with
                | line next => cases hxs
                | failure kind' =>
                    cases hfail
                    rfl
        | false =>
            rw [joined_cons hblank] at h
            have hall := joined_eq_nil_iff.1 (List.cons.inj h).2
            rw [← hxs] at hall
            exact gather_of_failing (by simpa [Line.isBlank] using hblank) hall hfail
      rw [hnext]
      simp only [logical, if_neg hhead, hgather]
      rfl

/-- A line that was taken was the head of the logical lines. -/
theorem logicalLines_of_nextLine {r r' : Reader} {text : List Char}
    (h : r.nextLine = (.ok (some text), r')) :
    ∃ number, r.logicalLines = ⟨number, text⟩ :: r'.logicalLines := by
  cases hlog : r.logicalLines with
  | nil =>
      obtain ⟨hahead, harriving⟩ := upcoming_eq_nil_iff.1 (joined_eq_nil_iff.1 hlog)
      cases harr : r.arrivals with
      | nil => simp [nextLine, hahead, harr] at h
      | cons a rest =>
          cases a with
          | line next => simp [harr, arriving] at harriving
          | failure kind => simp [nextLine, hahead, harr] at h
  | cons l rest =>
      cases hc : l.continues with
      | true =>
          obtain ⟨s, hnext, -⟩ := nextLine_of_continues hlog hc
          rw [h] at hnext
          cases hnext
      | false =>
          by_cases hf : rest = [] → r.failure? = none
          · obtain ⟨s, hnext, hadv⟩ := nextLine_of_cons hlog hc hf
            rw [h] at hnext
            cases hnext
            exact ⟨l.number, by rw [hadv.logicalLines_eq]⟩
          · obtain ⟨hrest, hfail⟩ := Classical.not_imp.1 hf
            obtain ⟨kind, hkind⟩ := Option.ne_none_iff_exists'.1 hfail
            rw [hrest] at hlog
            have hnext := nextLine_of_failing hlog hc hkind
            rw [h] at hnext
            cases hnext

theorem logicalLines_of_nextLine_none {r r' : Reader} (h : r.nextLine = (.ok none, r')) :
    r'.logicalLines = [] := by
  cases hup : r.upcoming with
  | nil =>
      obtain ⟨hahead, -⟩ := upcoming_eq_nil_iff.1 hup
      cases harr : r.arrivals with
      | nil =>
          simp only [nextLine, hahead, harr] at h
          cases h
          simp [logicalLines, upcoming, arriving]
      | cons a rest =>
          cases a with
          | line text => simp [upcoming, hahead, harr, arriving] at hup
          | failure kind => simp [nextLine, hahead, harr] at h
  | cons l rest =>
      obtain ⟨s, arrivals, hnext, -⟩ := nextLine_eq_logical hup
      rw [h] at hnext
      cases hres : (logical s l.number l.text arrivals).1 with
      | error e => simp [hres, Except.map] at hnext
      | ok text => simp [hres, Except.map] at hnext

theorem nextLine_of_isDrained {r : Reader} (h : r.IsDrained) :
    r.nextLine = (.ok none, { r with ended := true }) := by
  simp only [nextLine, h.1, h.2]

end Reader

end DirectoryClient.Ldif
