import DirectoryClient.Proofs.Ldif.Drafts
import DirectoryClient.Proofs.Ldif.LookAhead
import DirectoryClient.Proofs.Ldif.PhysicalLines

/-!
# The reader reads what the batch reads

Asking a reader for record after record gives the same answers as reading the
whole text at once: `Reader.answer_new`. The proof goes from the inside out. A
run of lines without a blank one takes a draft as far as `Draft.acceptLines`
does, the end of a block finishes the draft or, when nothing of a record has
been read, begins anew, and so every call of `Reader.next` uses up blocks from
the front of the list.

What makes the last step work is that a draft of which nothing has been read is
the empty draft, so that going on after a blank line is reading the next block
from its start.
-/

namespace DirectoryClient.Ldif

theorem Draft.acceptLines_fresh {ls : List Line} {seen seen' : Bool} {d d' : Draft}
    (hd : d.begun = true ∨ d = Draft.empty) (h : d.acceptLines seen ls = .ok (d', seen')) :
    d'.begun = true ∨ d' = Draft.empty := by
  induction ls generalizing seen d with
  | nil =>
      cases h
      exact hd
  | cons l rest ih =>
      rw [Draft.acceptLines] at h
      split at h
      · cases h
      · split at h
        · cases h
        · next d₁ seen₁ hacc => exact ih (Draft.accept_fresh hd hacc) h

namespace Reader

/-! ## Through the lines of a block -/

theorem complete_of_nextLine_error {r r' : Reader} {e : Error} (h : r.nextLine = (.error e, r'))
    (d : Draft) : r.complete d = (.error e, r') := by
  rw [complete]
  split
  · next h' => rw [h] at h'; cases h'; rfl
  · next h' => rw [h] at h'; cases h'
  · next h' => rw [h] at h'; cases h'

theorem complete_of_nextLine_none {r r' : Reader} (h : r.nextLine = (.ok none, r')) (d : Draft) :
    r.complete d = r'.finish d := by
  rw [complete]
  split
  · next h' => rw [h] at h'; cases h'
  · next h' => rw [h] at h'; cases h'; rfl
  · next h' => rw [h] at h'; cases h'

theorem complete_of_nextLine_blank {r r' : Reader} (h : r.nextLine = (.ok (some []), r'))
    (d : Draft) : r.complete d = if d.begun then r'.finish d else r'.complete d := by
  rw [complete]
  split
  · next h' => rw [h] at h'; cases h'
  · next h' => rw [h] at h'; cases h'
  · next h' => rw [h] at h'; cases h'; rfl

/-- A line of a block leads to the next, or ends the reading. -/
theorem complete_of_nextLine {r r' : Reader} {text : List Char}
    (h : r.nextLine = (.ok (some text), r')) (ht : text ≠ []) (d : Draft) :
    r.complete d =
      match d.accept r'.versionSeen text with
      | .error complaint => (.error (.ldif r'.line complaint), r'.skip)
      | .ok (d, seen) => complete { r' with versionSeen := seen } d := by
  rw [complete]
  split
  · next h' => rw [h] at h'; cases h'
  · next h' => rw [h] at h'; cases h'
  · next h' =>
      rw [h] at h'
      cases h'
      exact if_neg (by simpa using ht)

/-- A refusal among the lines of a block is the answer, and the rest is given
up. -/
theorem complete_of_acceptLines_error {ls post : List Line} {r : Reader} {d : Draft}
    {refusal : Refusal} (h : r.logicalLines = ls ++ post)
    (hls : ∀ l ∈ ls, l.isBlank = false) (hf : post = [] → r.failure? = none)
    (hacc : d.acceptLines r.versionSeen ls = .error refusal) :
    ∃ r', r.complete d = (.error (.ldif refusal.line refusal.complaint), r') ∧ r'.IsDrained := by
  induction ls generalizing r d with
  | nil => cases hacc
  | cons l rest ih =>
      obtain ⟨hl, hrest⟩ := List.forall_mem_cons.1 hls
      rw [Draft.acceptLines] at hacc
      cases hc : l.continues with
      | true =>
          rw [if_pos hc] at hacc
          cases hacc
          obtain ⟨r', hnext, hdrained⟩ := nextLine_of_continues h hc
          exact ⟨r', complete_of_nextLine_error hnext d, hdrained⟩
      | false =>
          rw [if_neg (by simp [hc])] at hacc
          obtain ⟨r', hnext, hadv⟩ := nextLine_of_cons h hc (by
            intro hnil
            exact hf (List.append_eq_nil_iff.1 hnil).2)
          have htext : l.text ≠ [] := by simpa [Line.isBlank] using hl
          cases hline : d.accept r.versionSeen l.text with
          | error complaint =>
              rw [hline] at hacc
              cases hacc
              rw [← hadv.versionSeen_eq] at hline
              refine ⟨r'.skip, ?_, isDrained_skip r'⟩
              rw [complete_of_nextLine hnext htext, hline, hadv.line_eq]
          | ok res =>
              obtain ⟨d', seen⟩ := res
              rw [hline] at hacc
              rw [← hadv.versionSeen_eq] at hline
              rw [complete_of_nextLine hnext htext, hline]
              exact ih (r := { r' with versionSeen := seen }) hadv.logicalLines_eq hrest
                (fun hnil => hadv.failure_eq.trans (hf hnil)) hacc

/-- Lines that are taken in bring the reader to what follows them. -/
theorem complete_of_acceptLines_ok {ls post : List Line} {r : Reader} {d d' : Draft}
    {seen : Bool} (h : r.logicalLines = ls ++ post)
    (hls : ∀ l ∈ ls, l.isBlank = false) (hf : post = [] → r.failure? = none)
    (hacc : d.acceptLines r.versionSeen ls = .ok (d', seen)) :
    ∃ r' : Reader, r.complete d = r'.complete d' ∧ r'.logicalLines = post ∧
      r'.line = (ls.getLast?.map Line.number).getD r.line ∧ r'.versionSeen = seen ∧
      r'.failure? = r.failure? := by
  induction ls generalizing r d with
  | nil =>
      cases hacc
      exact ⟨r, rfl, h, rfl, rfl, rfl⟩
  | cons l rest ih =>
      obtain ⟨hl, hrest⟩ := List.forall_mem_cons.1 hls
      rw [Draft.acceptLines] at hacc
      cases hc : l.continues with
      | true =>
          rw [if_pos hc] at hacc
          cases hacc
      | false =>
          rw [if_neg (by simp [hc])] at hacc
          obtain ⟨r₁, hnext, hadv⟩ := nextLine_of_cons h hc (by
            intro hnil
            exact hf (List.append_eq_nil_iff.1 hnil).2)
          have htext : l.text ≠ [] := by simpa [Line.isBlank] using hl
          cases hline : d.accept r.versionSeen l.text with
          | error complaint =>
              rw [hline] at hacc
              cases hacc
          | ok res =>
              obtain ⟨d₁, seen₁⟩ := res
              rw [hline] at hacc
              rw [← hadv.versionSeen_eq] at hline
              obtain ⟨r', hr', hlog, hnum, hseen, hfail⟩ :=
                ih (r := { r₁ with versionSeen := seen₁ }) hadv.logicalLines_eq hrest
                  (fun hnil => hadv.failure_eq.trans (hf hnil)) hacc
              refine ⟨r', ?_, hlog, ?_, hseen, hfail.trans hadv.failure_eq⟩
              · rw [complete_of_nextLine hnext htext, hline]
                exact hr'
              · rw [hnum]
                cases hlast : rest.getLast? with
                | none => simp [List.getLast?_cons, hlast, hadv.line_eq]
                | some x => simp [List.getLast?_cons, hlast]

/-! ## The end of a block -/

theorem complete_of_isDrained {r : Reader} (h : r.IsDrained) (d : Draft) :
    r.complete d = finish { r with ended := true } d :=
  complete_of_nextLine_none (nextLine_of_isDrained h) d

theorem complete_of_blank {r : Reader} {l : Line} {rest : List Line}
    (h : r.logicalLines = l :: rest) (hl : l.isBlank = true)
    (hf : rest = [] → r.failure? = none) (d : Draft) :
    ∃ r' : Reader, r.complete d = (if d.begun then r'.finish d else r'.complete d) ∧
      r.Advanced r' l.number rest := by
  have htext : l.text = [] := by simpa [Line.isBlank] using hl
  obtain ⟨r', hnext, hadv⟩ := nextLine_of_cons h (by simp [Line.continues, htext]) hf
  rw [htext] at hnext
  exact ⟨r', complete_of_nextLine_blank hnext d, hadv⟩

/-- The end of a block finishes the draft; if nothing was read of a record, the
next block is read instead. -/
theorem next_of_acceptLines_ok {r : Reader} {b : Block} {more : List Block} {d : Draft}
    {seen : Bool} (h : blocks r.logicalLines = b :: more)
    (hf : more = [] → r.failure? = none)
    (hacc : Draft.empty.acceptLines r.versionSeen b.lines = .ok (d, seen)) :
    ∃ r' : Reader, r.next = (if d.begun then r'.finish d else r'.next) ∧
      blocks r'.logicalLines = more ∧ r'.line = b.endNumber ∧ r'.versionSeen = seen ∧
      r'.failure? = r.failure? := by
  have hfresh := Draft.acceptLines_fresh (Or.inr rfl) hacc
  obtain ⟨hblank, ⟨hls, hstop, hne, rfl⟩ | ⟨l, rest, hl, hls, hstop, hmore⟩⟩ := blocks_eq_cons h
  · -- The text ends with the block.
    have hls' : r.logicalLines = b.lines ++ [] := by rw [hls, List.append_nil]
    obtain ⟨r₁, hr₁, hlog, hnum, hseen, hfail⟩ :=
      complete_of_acceptLines_ok hls' hblank (fun _ => hf rfl) hacc
    have hdrained := isDrained_of_logicalLines_eq_nil hlog (hfail.trans (hf rfl))
    refine ⟨{ r₁ with ended := true }, ?_, ?_, ?_, hseen, hfail⟩
    · rw [next, hr₁, complete_of_isDrained hdrained]
      split
      · rfl
      · next hbegun =>
          obtain rfl : d = Draft.empty := hfresh.resolve_left (by simpa using hbegun)
          rw [next, complete_of_isDrained (r := { r₁ with ended := true }) hdrained]
    · exact congrArg blocks hdrained.logicalLines_eq
    · obtain ⟨x, hx⟩ := Option.ne_none_iff_exists'.1 (mt List.getLast?_eq_none_iff.1 hne)
      simpa [Block.endNumber, hstop, hx] using hnum
  · -- A blank line follows.
    obtain ⟨r₁, hr₁, hlog, -, hseen, hfail⟩ :=
      complete_of_acceptLines_ok hls hblank (by simp) hacc
    obtain ⟨r₂, hr₂, hadv⟩ := complete_of_blank hlog hl (by
      rintro rfl
      rw [hfail]
      exact hf (by rw [← hmore]; rfl)) d
    refine ⟨r₂, ?_, by rw [hadv.logicalLines_eq, hmore], ?_, hadv.versionSeen_eq.trans hseen,
      hadv.failure_eq.trans hfail⟩
    · rw [next, hr₁, hr₂]
      split
      · rfl
      · next hbegun =>
          obtain rfl : d = Draft.empty := hfresh.resolve_left (by simpa using hbegun)
          rfl
    · rw [hadv.line_eq, Block.endNumber, hstop, Option.getD_some]

/-- What one call of `Reader.next` does with the first block that is to come. -/
theorem next_of_read {r : Reader} {b : Block} {more : List Block}
    (h : blocks r.logicalLines = b :: more) (hf : more = [] → r.failure? = none) :
    match b.read r.versionSeen with
    | .error refusal =>
        ∃ r' : Reader, r.next = (.error (.ldif refusal.line refusal.complaint), r') ∧ r'.IsDrained
    | .ok (record, seen) =>
        ∃ r' : Reader, (record = none → r.next = r'.next) ∧
          (record ≠ none → r.next = (.ok record, r')) ∧
          blocks r'.logicalLines = more ∧ r'.versionSeen = seen ∧ r'.failure? = r.failure? := by
  obtain ⟨hblank, hcases⟩ := blocks_eq_cons h
  obtain ⟨post, hls, hpost⟩ : ∃ post, r.logicalLines = b.lines ++ post ∧
      (post = [] → more = []) := by
    rcases hcases with ⟨hls, -, -, hmore⟩ | ⟨l, rest, -, hls, -, -⟩
    · exact ⟨[], by rw [hls, List.append_nil], fun _ => hmore⟩
    · exact ⟨l :: rest, hls, by simp⟩
  unfold Block.read
  cases hacc : Draft.empty.acceptLines r.versionSeen b.lines with
  | error refusal =>
      exact complete_of_acceptLines_error hls hblank (fun hnil => hf (hpost hnil)) hacc
  | ok res =>
      obtain ⟨d, seen⟩ := res
      obtain ⟨r', hnext, hmore, hline, hseen, hfail⟩ := next_of_acceptLines_ok h hf hacc
      cases hfin : d.finish with
      | error complaint =>
          -- only an edit is left unfinished, and it has begun a record
          have hbegun : d.begun = true := by
            rcases Draft.acceptLines_fresh (Or.inr rfl) hacc with hd | rfl
            · exact hd
            · simp [Draft.finish, Draft.empty] at hfin
          rw [if_pos hbegun, Reader.finish, hfin] at hnext
          simp only [hfin]
          exact ⟨r'.skip, by rw [hnext, hline], isDrained_skip r'⟩
      | ok record =>
          have hbegun : d.begun = true ↔ record ≠ none := by
            unfold Draft.finish at hfin
            split at hfin <;> cases hfin
            simp
          simp only [hfin]
          refine ⟨r', ?_, ?_, hmore, hseen, hfail⟩
          · intro hnone
            rwa [if_neg (by rw [hbegun]; simpa using hnone)] at hnext
          · intro hsome
            rw [if_pos (hbegun.2 hsome), Reader.finish, hfin] at hnext
            exact hnext

/-! ## Call after call -/

theorem answer_congr {r r' : Reader} (h : r.next = r'.next) (n : Nat) :
    r.answer n = r'.answer n := by
  cases n with
  | zero => simp only [answer, h]
  | succ n => simp only [answer, h]

theorem IsDrained.answer_eq {r : Reader} (h : r.IsDrained) (n : Nat) :
    r.answer n = .ok none := by
  have hnext : r.next = (.ok none, { r with ended := true }) := by
    rw [next, complete_of_isDrained h]
    rfl
  induction n generalizing r with
  | zero => rw [answer, hnext]
  | succ n ih =>
      rw [answer, hnext]
      have h' : IsDrained { r with ended := true } := h
      exact ih h' (by rw [next, complete_of_isDrained h']; rfl)

/-- The answers of a reader are those of a reading of the blocks that are to
come. The induction is on these: an answer uses up one block, and blocks without
a record are passed over on the way to it. -/
theorem answer_eq_readBlocks {bs : List Block} {r : Reader} (h : blocks r.logicalLines = bs)
    (hf : r.failure? = none) (n : Nat) :
    r.answer n = (readBlocks r.versionSeen bs).answer n := by
  induction bs generalizing r n with
  | nil =>
      have hdrained := isDrained_of_logicalLines_eq_nil (blocks_eq_nil_iff.1 h) hf
      rw [hdrained.answer_eq n]
      rfl
  | cons b more ih =>
      have hnext := next_of_read h fun _ => hf
      rw [readBlocks]
      split
      · next refusal hread =>
          rw [hread] at hnext
          obtain ⟨r', hr', hdrained⟩ := hnext
          cases n with
          | zero => rw [answer, hr']; rfl
          | succ n =>
              rw [answer, hr', hdrained.answer_eq n]
              simp [Reading.answer]
      · next seen hread =>
          rw [hread] at hnext
          obtain ⟨r', hr', -, hmore, hseen, hfail⟩ := hnext
          rw [answer_congr (hr' rfl) n, ← hseen]
          exact ih hmore (hfail.trans hf) n
      · next record seen hread =>
          rw [hread] at hnext
          obtain ⟨r', -, hr', hmore, hseen, hfail⟩ := hnext
          specialize hr' (by simp)
          cases n with
          | zero => rw [answer, hr']; rfl
          | succ n =>
              rw [answer, hr', ih hmore (hfail.trans hf) n, hseen]
              simp [Reading.answer]

theorem logicalLines_new (text : String) :
    (new ⟨Text.bytes text, none⟩).logicalLines =
      joined (numbered 1 (physicalLines text.toList)) := by
  simp [logicalLines, upcoming, new, Source.arrivals_bytes]

theorem failure_new (text : String) : (new ⟨Text.bytes text, none⟩).failure? = none := by
  simp [failure?, new, Source.arrivals_bytes]

/-- Asked again and again, the reader of a text gives the records of the text in
their order, then the refusal that ended the reading, if there is one, and from
there on nothing. -/
theorem answer_new (text : String) (n : Nat) :
    (new ⟨Text.bytes text, none⟩).answer n = (readText text.toList).answer n :=
  answer_eq_readBlocks (congrArg blocks (logicalLines_new text)) (failure_new text) n

end Reader

end DirectoryClient.Ldif
