import DirectoryClient.Proofs.Ldif.Cursor
import DirectoryClient.Proofs.Ldif.Refinement

/-!
# A reader gets on, and comes to an end

Whatever a source holds, a reader uses up its physical lines from the front and
never goes back: `Reader.answer_progress`. Each record takes at least one line that
was not used before, so there are no more records than lines, and what comes after
the last of them, an end or an error, leaves the reader at its end for good.

The invariant is `Reader.Placed`. It says where a reader stands among the lines of
its source: the look-ahead, if there is one, is the line that arrived last, and the
lines that are still to arrive are those after it, unless the rest was given up. The
line that a reader shows is one that it has used, and a logical line begins with the
first line that was not used before it, `r.used + 1`. Both loops of the reader are
chains of such steps.
-/

namespace DirectoryClient.Ldif.Reader

/-- How many physical lines were used: all that have arrived, but for the look-ahead. -/
def used (r : Reader) : Nat := r.read - r.ahead.toList.length

/-- Where a reader can stand in a source of which these lines arrive. -/
structure Placed (lines : List Line) (r : Reader) : Prop where
  ahead_eq : ∀ a ∈ r.ahead, a.1 = r.read
  ahead_lt : r.ahead.isSome → 0 < r.read
  line_le : r.line ≤ r.used
  read_le : r.read ≤ lines.length
  arriving_eq : r.arrivals = [] ∨ arriving (r.read + 1) r.arrivals = lines.drop r.read
  ended : r.ended = true → r.arrivals = []

/-- A reader got from `r` to `r'`. -/
structure Onward (r r' : Reader) : Prop where
  line_le : r.line ≤ r'.line
  used_le : r.used ≤ r'.used

/-- What is left of a reader after an error: nothing, and if the error is about a
line, it is about the one that the reader shows. -/
structure Stopped (e : Error) (r : Reader) : Prop where
  isAtEnd : r.isAtEnd = true
  line_eq : ∀ line complaint, e = .ldif line complaint → line = r.line ∧ 1 ≤ line

theorem Onward.refl (r : Reader) : r.Onward r := ⟨Nat.le_refl _, Nat.le_refl _⟩

theorem Onward.trans {r r' r'' : Reader} (h : r.Onward r') (h' : r'.Onward r'') : r.Onward r'' :=
  ⟨Nat.le_trans h.line_le h'.line_le, Nat.le_trans h.used_le h'.used_le⟩

theorem used_le_read (r : Reader) : r.used ≤ r.read := Nat.sub_le _ _

theorem used_of_ahead_none {r : Reader} (h : r.ahead = none) : r.used = r.read := by
  simp [used, h]

theorem isAtEnd_iff {r : Reader} : r.isAtEnd = true ↔ r.ended = true ∧ r.ahead = none := by
  simp [isAtEnd]

theorem stopped_skip_io (kind : IoKind) (r : Reader) : Stopped (.io kind) r.skip :=
  ⟨rfl, nofun⟩

theorem stopped_skip_ldif {r : Reader} (h : 1 ≤ r.line) (complaint : Complaint) :
    Stopped (.ldif r.line complaint) r.skip := by
  refine ⟨rfl, fun line complaint' heq => ?_⟩
  cases heq
  exact ⟨rfl, h⟩

namespace Placed

variable {lines : List Line} {r : Reader}

theorem new (s : Source) : Placed (arriving 1 s.arrivals) (new s) where
  ahead_eq := nofun
  ahead_lt := nofun
  line_le := Nat.le_refl _
  read_le := Nat.zero_le _
  arriving_eq := Or.inr rfl
  ended := nofun

theorem skip (h : Placed lines r) : Placed lines r.skip where
  ahead_eq := nofun
  ahead_lt := nofun
  line_le := Nat.le_trans h.line_le r.used_le_read
  read_le := h.read_le
  arriving_eq := Or.inl rfl
  ended _ := rfl

theorem withVersion (h : Placed lines r) (seen : Bool) :
    Placed lines { r with versionSeen := seen } :=
  ⟨h.ahead_eq, h.ahead_lt, h.line_le, h.read_le, h.arriving_eq, h.ended⟩

theorem isDrained (h : Placed lines r) (hend : r.isAtEnd = true) : r.IsDrained :=
  have hend' := isAtEnd_iff.1 hend
  ⟨h.ended hend'.1, hend'.2⟩

end Placed

theorem onward_skip (r : Reader) : r.Onward r.skip := ⟨Nat.le_refl _, r.used_le_read⟩

/-! ## Lines

The reader of the next two lemmas is one whose look-ahead was taken out, to become
the line that is being read. -/

theorem arriving_line {lines : List Line} {n : Nat} {text : List Char} {rest : List Arrival}
    (h : arriving (n + 1) (.line text :: rest) = lines.drop n) :
    n + 1 ≤ lines.length ∧ arriving (n + 1 + 1) rest = lines.drop (n + 1) := by
  rw [arriving] at h
  have hlt : n < lines.length := by
    rw [← Nat.not_le, ← List.drop_eq_nil_iff, ← h]
    exact List.cons_ne_nil _ _
  rw [List.drop_eq_getElem_cons hlt] at h
  exact ⟨hlt, (List.cons.inj h).2⟩

theorem placed_gather {lines : List Line} {r : Reader} (text : List Char)
    {arrivals : List Arrival} (hline : r.line ≤ r.read) (hread : r.read ≤ lines.length)
    (harr : arrivals = [] ∨ arriving (r.read + 1) arrivals = lines.drop r.read)
    (hended : r.ended = true → arrivals = []) :
    Placed lines (gather r text arrivals).2 ∧
      (gather r text arrivals).2.line = r.line ∧ r.read ≤ (gather r text arrivals).2.used ∧
      ∀ e, (gather r text arrivals).1 = .error e → Stopped e (gather r text arrivals).2 := by
  induction arrivals generalizing r text with
  | nil => exact ⟨⟨nofun, nofun, hline, hread, Or.inl rfl, fun _ => rfl⟩, rfl, Nat.le_refl _, nofun⟩
  | cons a rest ih =>
      cases a with
      | failure kind =>
          refine ⟨⟨nofun, nofun, hline, hread, Or.inl rfl, fun _ => rfl⟩, rfl, Nat.le_refl _, ?_⟩
          intro e he
          cases he
          exact stopped_skip_io kind r
      | line next =>
          have hnotEnded : ¬ r.ended = true := fun h => List.cons_ne_nil _ _ (hended h)
          obtain ⟨hread', harr'⟩ := arriving_line (harr.resolve_left (List.cons_ne_nil _ _))
          unfold gather
          split
          · next c cs more =>
              obtain ⟨hplaced, hline', hused, hstopped⟩ :=
                ih (r := { r with read := r.read + 1 }) (c :: cs ++ more) (Nat.le_succ_of_le hline)
                  hread' (Or.inr harr') fun h => absurd h hnotEnded
              exact ⟨hplaced, hline', Nat.le_of_succ_le hused, hstopped⟩
          · refine ⟨⟨?_, fun _ => Nat.succ_pos _, hline, hread', Or.inr harr', ?_⟩, rfl,
              Nat.le_refl _, nofun⟩
            · intro a ha
              cases ha
              rfl
            · exact fun h => absurd h hnotEnded

theorem placed_logical {lines : List Line} {r : Reader} {number : Nat} (text : List Char)
    {arrivals : List Arrival} (hpos : 1 ≤ number) (hnumber : number ≤ r.read)
    (hread : r.read ≤ lines.length)
    (harr : arrivals = [] ∨ arriving (r.read + 1) arrivals = lines.drop r.read)
    (hended : r.ended = true → arrivals = []) :
    Placed lines (logical r number text arrivals).2 ∧
      (logical r number text arrivals).2.line = number ∧
      number ≤ (logical r number text arrivals).2.used ∧
      ∀ e, (logical r number text arrivals).1 = .error e →
        Stopped e (logical r number text arrivals).2 := by
  unfold logical
  split
  · refine ⟨⟨nofun, nofun, hnumber, hread, Or.inl rfl, fun _ => rfl⟩, rfl, hnumber, ?_⟩
    intro e he
    cases he
    exact stopped_skip_ldif (r := { r with line := number }) hpos _
  · obtain ⟨hplaced, hline, hle, hstopped⟩ :=
      placed_gather (r := { r with line := number }) text hnumber hread harr hended
    exact ⟨hplaced, hline, Nat.le_trans hnumber hle, hstopped⟩

/-- What an answer says about the reader `r'` that is left by it: with nothing to
hand out, or with an error, it is at its end. -/
structure Answered {α : Type} (lines : List Line) (r : Reader) (result : Except Error (Option α))
    (r' : Reader) : Prop where
  placed : Placed lines r'
  onward : r.Onward r'
  isAtEnd : result = .ok none → r'.isAtEnd = true
  stopped : ∀ e, result = .error e → Stopped e r'

namespace Answered

variable {α : Type} {lines : List Line} {r r' : Reader}

theorem ofError {e : Error} (h : Placed lines r') (honward : r.Onward r') (hstopped : Stopped e r') :
    Answered lines r (.error e : Except Error (Option α)) r' where
  placed := h
  onward := honward
  isAtEnd := nofun
  stopped e' he := by
    cases he
    exact hstopped

theorem ofNone (h : Placed lines r') (honward : r.Onward r') (hend : r'.isAtEnd = true) :
    Answered lines r (.ok none : Except Error (Option α)) r' where
  placed := h
  onward := honward
  isAtEnd _ := hend
  stopped := nofun

theorem since {r'' : Reader} {result : Except Error (Option α)} (h : r.Onward r')
    (h' : Answered lines r' result r'') : Answered lines r result r'' :=
  ⟨h'.placed, h.trans h'.onward, h'.isAtEnd, h'.stopped⟩

end Answered

/-- A line that was made out of the first physical line that was not used. -/
theorem answered_logical {lines : List Line} {r s : Reader} (text : List Char)
    {arrivals : List Arrival} (h : Placed lines r) (hs : s.read = r.used + 1)
    (hread : s.read ≤ lines.length)
    (harr : arrivals = [] ∨ arriving (s.read + 1) arrivals = lines.drop s.read)
    (hended : s.ended = true → arrivals = []) :
    Answered lines r ((logical s s.read text arrivals).1.map some)
        (logical s s.read text arrivals).2 ∧
      (logical s s.read text arrivals).2.line = r.used + 1 := by
  obtain ⟨hplaced, hline, hused, hstopped⟩ :=
    placed_logical text (by omega) (Nat.le_refl s.read) hread harr hended
  have hle := h.line_le
  refine ⟨⟨hplaced, ⟨by omega, by omega⟩, fun hnone => ?_, fun e he => hstopped e ?_⟩,
    hline.trans hs⟩
  · obtain ⟨line, -, hsome⟩ := Except.map_eq_ok_iff.1 hnone
    cases hsome
  · cases hresult : (logical s s.read text arrivals).1 with
    | error e' =>
        rw [hresult] at he
        cases he
        rfl
    | ok line =>
        rw [hresult] at he
        cases he

/-- A line that is taken is numbered by the first physical line that was not used. -/
theorem answered_nextLine {lines : List Line} {r : Reader} (h : Placed lines r) :
    Answered lines r r.nextLine.1 r.nextLine.2 ∧
      ∀ text, r.nextLine.1 = .ok (some text) → r.nextLine.2.line = r.used + 1 := by
  cases hahead : r.ahead with
  | some a =>
      obtain ⟨number, text⟩ := a
      obtain rfl : number = r.read := h.ahead_eq (number, text) hahead
      have hpos : 0 < r.read := h.ahead_lt (by simp [hahead])
      have hused : r.read = r.used + 1 := by
        simp only [used, hahead, Option.toList_some, List.length_singleton]
        omega
      obtain ⟨hanswered, hline⟩ :=
        answered_logical text h hused h.read_le h.arriving_eq h.ended
      rw [nextLine_of_ahead hahead]
      exact ⟨hanswered, fun _ _ => hline⟩
  | none =>
      have hused : r.used = r.read := used_of_ahead_none hahead
      cases harr : r.arrivals with
      | nil =>
          have hnext : r.nextLine = (.ok none, { r with ended := true }) := by
            simp only [nextLine, hahead, harr]
          have hplaced : Placed lines { r with ended := true } :=
            ⟨h.ahead_eq, h.ahead_lt, h.line_le, h.read_le, h.arriving_eq, fun _ => harr⟩
          rw [hnext]
          refine ⟨.ofNone hplaced ⟨Nat.le_refl _, Nat.le_refl _⟩ (isAtEnd_iff.2 ⟨rfl, hahead⟩), ?_⟩
          intro text htext
          cases htext
      | cons a rest =>
          have hplace := h.arriving_eq.resolve_left (by simp [harr])
          rw [harr] at hplace
          cases a with
          | failure kind =>
              simp only [nextLine, hahead, harr]
              refine ⟨.ofError h.skip (onward_skip r) (stopped_skip_io kind r), fun text htext => ?_⟩
              cases htext
          | line text =>
              obtain ⟨hread, hrest⟩ := arriving_line hplace
              have hended : r.ended = true → rest = [] := by
                intro hend
                simp [h.ended hend] at harr
              obtain ⟨hanswered, hline⟩ := answered_logical text
                (s := { r with read := r.read + 1 }) h (by simp [hused]) hread (Or.inr hrest) hended
              rw [nextLine_of_line hahead harr]
              exact ⟨hanswered, fun _ _ => hline⟩

theorem placed_of_nextLine {lines : List Line} {r r' : Reader} {text : List Char}
    (h : Placed lines r) (hnext : r.nextLine = (.ok (some text), r')) :
    Placed lines r' ∧ r.Onward r' ∧ 1 ≤ r'.line ∧ r.used < r'.used := by
  obtain ⟨hanswered, hline⟩ := answered_nextLine h
  rw [hnext] at hanswered hline
  have hline' : r'.line = r.used + 1 := hline text rfl
  have hle : r'.line ≤ r'.used := hanswered.placed.line_le
  exact ⟨hanswered.placed, hanswered.onward, by omega, by omega⟩

/-! ## Records -/

theorem begun_of_finish {r : Reader} {d : Draft} {record : Record}
    (h : (r.finish d).1 = .ok (some record)) : d.begun = true := by
  unfold finish at h
  split at h
  · next found hfin =>
      cases h
      unfold Draft.finish at hfin
      split at hfin
      · cases hfin
      · exact (Option.ite_none_right_eq_some.1 (Except.ok.inj hfin)).1
  · cases h

/-- A draft ends without a record if nothing of one was read, and with an error only
behind some line. -/
theorem answered_finish {lines : List Line} {r : Reader} {d : Draft} (h : Placed lines r)
    (hd : 1 ≤ r.line ∨ d = Draft.empty) (hend : d.begun = true ∨ r.isAtEnd = true) :
    Answered lines r (r.finish d).1 (r.finish d).2 := by
  unfold finish
  split
  · next record hfin =>
      refine ⟨h, .refl r, fun hnone => hend.resolve_left fun hbegun => ?_, nofun⟩
      unfold Draft.finish at hfin
      split at hfin
      · cases hfin
      · cases hfin
        simp [hbegun] at hnone
  · next complaint hfin =>
      have hnotEmpty : d ≠ Draft.empty := by
        rintro rfl
        cases hfin
      exact .ofError h.skip (onward_skip r) (stopped_skip_ldif (hd.resolve_right hnotEmpty) complaint)

/-- The induction is on the lines that the reader goes through. Each of them stands
behind the beginning of the input, so whoever complains later has a line to blame. -/
theorem answered_complete {lines : List Line} {r : Reader} {d : Draft} (h : Placed lines r)
    (hd : 1 ≤ r.line ∨ d = Draft.empty) :
    Answered lines r (r.complete d).1 (r.complete d).2 ∧
      ∀ record, (r.complete d).1 = .ok (some record) →
        d.begun = true ∨ r.used < (r.complete d).2.used := by
  fun_induction complete r d with
  | case1 r d e r₁ hnext =>
      obtain ⟨hanswered, -⟩ := answered_nextLine h
      rw [hnext] at hanswered
      refine ⟨.ofError hanswered.placed hanswered.onward (hanswered.stopped e rfl), ?_⟩
      intro record hrecord
      cases hrecord
  | case2 r d r₁ hnext =>
      obtain ⟨hanswered, -⟩ := answered_nextLine h
      rw [hnext] at hanswered
      have hd' : 1 ≤ r₁.line ∨ d = Draft.empty :=
        hd.imp_left fun hle => Nat.le_trans hle hanswered.onward.line_le
      refine ⟨(answered_finish hanswered.placed hd' (Or.inr (hanswered.isAtEnd rfl))).since
        hanswered.onward, fun record hrecord => Or.inl ?_⟩
      exact begun_of_finish hrecord
  | case3 r d text r₁ hnext hlt hblank hbegun =>
      obtain ⟨hplaced, honward, hline, hused⟩ := placed_of_nextLine h hnext
      exact ⟨(answered_finish hplaced (Or.inl hline) (Or.inl hbegun)).since honward,
        fun _ _ => Or.inl hbegun⟩
  | case4 r d text r₁ hnext hlt hblank hbegun ih =>
      obtain ⟨hplaced, honward, hline, hused⟩ := placed_of_nextLine h hnext
      obtain ⟨hanswered, -⟩ := ih hplaced (Or.inl hline)
      exact ⟨hanswered.since honward,
        fun _ _ => Or.inr (Nat.lt_of_lt_of_le hused hanswered.onward.used_le)⟩
  | case5 r d text r₁ hnext hlt hblank complaint hacc =>
      obtain ⟨hplaced, honward, hline, hused⟩ := placed_of_nextLine h hnext
      refine ⟨.ofError hplaced.skip (honward.trans (onward_skip r₁))
        (stopped_skip_ldif hline complaint), ?_⟩
      intro record hrecord
      cases hrecord
  | case6 r d text r₁ hnext hlt hblank d₁ seen hacc ih =>
      obtain ⟨hplaced, honward, hline, hused⟩ := placed_of_nextLine h hnext
      obtain ⟨hanswered, -⟩ := ih (hplaced.withVersion seen) (Or.inl hline)
      have honward' : r.Onward { r₁ with versionSeen := seen } := ⟨honward.line_le, honward.used_le⟩
      exact ⟨hanswered.since honward',
        fun _ _ => Or.inr (Nat.lt_of_lt_of_le hused hanswered.onward.used_le)⟩

/-- What asking for a record does. -/
theorem answered_next {lines : List Line} {r : Reader} (h : Placed lines r) :
    Answered lines r r.next.1 r.next.2 ∧
      ∀ record, r.next.1 = .ok (some record) → r.used < r.next.2.used := by
  obtain ⟨hanswered, hused⟩ := answered_complete h (Or.inr rfl)
  exact ⟨hanswered, fun record hrecord => (hused record hrecord).resolve_left nofun⟩

/-- A reader at its end has nothing to hand out, and stays there. -/
theorem next_of_isAtEnd {lines : List Line} {r : Reader} (h : Placed lines r)
    (hend : r.isAtEnd = true) : r.next.1 = .ok none ∧ r.next.2.isAtEnd = true := by
  have hnone : r.next.1 = .ok none := by
    rw [next, complete_of_isDrained (h.isDrained hend)]
    rfl
  exact ⟨hnone, (answered_next h).1.isAtEnd hnone⟩

/-! ## Call after call -/

theorem placed_after (s : Source) (n : Nat) :
    Placed (arriving 1 s.arrivals) ((new s).after n) := by
  induction n with
  | zero => exact .new s
  | succ n ih =>
      have hplaced := (answered_next ih).1.placed
      rwa [next_after] at hplaced

/-- A reader at its end has no further record. -/
theorem answer_of_isAtEnd {s : Source} {n : Nat} (h : ((new s).after n).isAtEnd = true) :
    (new s).answer n = .ok none := by
  have hnext := (next_of_isAtEnd (placed_after s n) h).1
  rwa [next_after] at hnext

/-- Before the `n`-th record at least `n` lines were used. -/
theorem le_used_after {s : Source} {n : Nat}
    (h : ∀ k < n, ∃ record, (new s).answer k = .ok (some record)) :
    n ≤ ((new s).after n).used := by
  induction n with
  | zero => exact Nat.zero_le _
  | succ n ih =>
      obtain ⟨record, hrecord⟩ := h n (Nat.lt_succ_self n)
      have hle := ih fun k hk => h k (Nat.lt_succ_of_lt hk)
      have hlt := (answered_next (placed_after s n)).2 record (by rw [next_after, hrecord])
      rw [next_after] at hlt
      exact Nat.succ_le_of_lt (Nat.lt_of_le_of_lt hle hlt)

/-- After an answer that is no record, nothing is handed out any more. -/
theorem isAtEnd_of_answer {s : Source} {m : Nat}
    (h : ∀ record, (new s).answer m ≠ .ok (some record)) {n : Nat} (hn : m < n) :
    ((new s).after n).isAtEnd = true ∧ (new s).answer n = .ok none := by
  have hend : ((new s).after n).isAtEnd = true := by
    induction n with
    | zero => exact absurd hn (Nat.not_lt_zero m)
    | succ n ih =>
        rcases Nat.lt_or_eq_of_le (Nat.le_of_lt_succ hn) with hlt | rfl
        · have hnext := (next_of_isAtEnd (placed_after s n) (ih hlt)).2
          rwa [next_after] at hnext
        · have hanswered := (answered_next (placed_after s m)).1
          rw [next_after] at hanswered
          cases hanswer : (new s).answer m with
          | error e => exact (hanswered.stopped e hanswer).isAtEnd
          | ok found =>
              cases found with
              | none => exact hanswered.isAtEnd hanswer
              | some record => exact absurd hanswer (h record)
  exact ⟨hend, answer_of_isAtEnd hend⟩

/-- There are no more records than lines, so some answer is none. -/
theorem exists_answer_ne_some (s : Source) :
    ∃ m, m ≤ (arriving 1 s.arrivals).length ∧
      (∀ k < m, ∃ record, (new s).answer k = .ok (some record)) ∧
      ∀ record, (new s).answer m ≠ .ok (some record) := by
  have hsearch : ∀ n, (∀ k < n, ∃ record, (new s).answer k = .ok (some record)) ∨
      ∃ m < n, (∀ k < m, ∃ record, (new s).answer k = .ok (some record)) ∧
        ∀ record, (new s).answer m ≠ .ok (some record) := by
    intro n
    induction n with
    | zero => exact Or.inl nofun
    | succ n ih =>
        rcases ih with hall | ⟨m, hm, hfound⟩
        · by_cases hn : ∃ record, (new s).answer n = .ok (some record)
          · refine Or.inl fun k hk => ?_
            rcases Nat.lt_or_eq_of_le (Nat.le_of_lt_succ hk) with hlt | rfl
            · exact hall k hlt
            · exact hn
          · exact Or.inr ⟨n, Nat.lt_succ_self n, hall, not_exists.1 hn⟩
        · exact Or.inr ⟨m, Nat.lt_succ_of_lt hm, hfound⟩
  rcases hsearch ((arriving 1 s.arrivals).length + 1) with hall | ⟨m, hm, hfound⟩
  · have hused := le_used_after hall
    have hplaced := placed_after s ((arriving 1 s.arrivals).length + 1)
    have hread := Nat.le_trans (used_le_read _) hplaced.read_le
    omega
  · exact ⟨m, Nat.le_of_lt_succ hm, hfound⟩

/-- How a reader goes through a source of any octets, which may fail. Among one answer
more than there are lines, there is one that is no record. Up to this answer there are
records, each of which uses up a line or more; after it the reader is at its end for
good, and has nothing to hand out, as wherever it is at its end. What is still to come
are the lines after those read, if anything is. The line that the reader shows never
goes back, is one of those read, and is the one that an error is about, if it is about
a line at all. -/
theorem answer_progress (s : Source) :
    (∃ m, m ≤ (arriving 1 s.arrivals).length ∧
      (∀ n < m, ∃ record, (new s).answer n = .ok (some record)) ∧
      (∀ record, (new s).answer m ≠ .ok (some record)) ∧
      ∀ n, m < n → ((new s).after n).isAtEnd = true ∧ (new s).answer n = .ok none) ∧
    ∀ n,
      let r := (new s).after n
      let r' := (new s).after (n + 1)
      (∀ record, (new s).answer n = .ok (some record) → r.used < r'.used) ∧
      (r.isAtEnd = true → (new s).answer n = .ok none) ∧
      (r.arrivals = [] ∨
        arriving (r.read + 1) r.arrivals = (arriving 1 s.arrivals).drop r.read) ∧
      r.read ≤ (arriving 1 s.arrivals).length ∧ r.line ≤ r.read ∧ r.line ≤ r'.line ∧
      ∀ line complaint, (new s).answer n = .error (.ldif line complaint) →
        line = r'.line ∧ 1 ≤ line := by
  obtain ⟨m, hm, hbefore, hat⟩ := exists_answer_ne_some s
  refine ⟨⟨m, hm, hbefore, hat, fun n hn => isAtEnd_of_answer hat hn⟩, fun n => ?_⟩
  have hplaced := placed_after s n
  obtain ⟨hanswered, hused⟩ := answered_next hplaced
  rw [next_after] at hanswered hused
  refine ⟨hused, answer_of_isAtEnd, hplaced.arriving_eq, hplaced.read_le,
    Nat.le_trans hplaced.line_le (used_le_read _), hanswered.onward.line_le, ?_⟩
  intro line complaint herror
  exact (hanswered.stopped _ herror).line_eq line complaint rfl

end DirectoryClient.Ldif.Reader
