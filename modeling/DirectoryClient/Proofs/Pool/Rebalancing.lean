import DirectoryClient.Proofs.Pool.Custody

/-!
# Into the band and no further

A check looks at the length of the queue and does one of three things (`Checked`). As the
upper end of a band is never below the lower one, no check leads past it: a queue that is
too short gets no longer than the lower end and one that is too long no shorter than the
upper end (`Approaches`), and a queue in between is left as it is. That relation is
transitive, so what holds of one check holds of any number of them, whichever creations
fail.

Once the queue is in the band, all further checks do nothing, which is why `checks` may
leave them out (`checks_succ`).
-/

namespace DirectoryClient

namespace Band

/-- The most objects that may be idle. -/
def upper (b : Band) : Nat := max b.maxIdle b.minIdle

theorem normalize_minIdle (b : Band) : b.normalize.minIdle = b.minIdle := rfl

theorem normalize_maxIdle (b : Band) : b.normalize.maxIdle = b.upper := rfl

theorem contains_normalize_iff {b : Band} {count : Nat} :
    b.normalize.contains count = true ↔ b.minIdle ≤ count ∧ count ≤ b.upper := by
  rw [contains, normalize_minIdle, normalize_maxIdle, Bool.and_eq_true, decide_eq_true_iff,
    decide_eq_true_iff]

theorem minIdle_le_upper (b : Band) : b.minIdle ≤ b.upper := Nat.le_max_right _ _

theorem short_or_inside_or_long (b : Band) (count : Nat) :
    count < b.minIdle ∨ (b.minIdle ≤ count ∧ count ≤ b.upper) ∨ b.upper < count := by
  omega

/-- Whether a number of idle objects is, some checks later, closer to the band or the same,
and on no other side of it. -/
structure Approaches (b : Band) (before after : Nat) : Prop where
  short : before < b.minIdle → before ≤ after ∧ after ≤ b.minIdle
  long : b.upper < before → b.upper ≤ after ∧ after ≤ before
  inside : b.minIdle ≤ before → before ≤ b.upper → after = before

theorem Approaches.refl (b : Band) (count : Nat) : b.Approaches count count where
  short h := ⟨Nat.le_refl _, Nat.le_of_lt h⟩
  long h := ⟨Nat.le_of_lt h, Nat.le_refl _⟩
  inside _ _ := rfl

theorem Approaches.trans {b : Band} {first second third : Nat} (h : b.Approaches first second)
    (h' : b.Approaches second third) : b.Approaches first third where
  short hfirst := by
    obtain ⟨hup, hbound⟩ := h.short hfirst
    rcases Nat.lt_or_eq_of_le hbound with hlt | heq
    · obtain ⟨hup', hbound'⟩ := h'.short hlt
      exact ⟨Nat.le_trans hup hup', hbound'⟩
    · -- the lower end is in the band, and there it stays
      have hstays := h'.inside (Nat.le_of_eq heq.symm) (heq ▸ b.minIdle_le_upper)
      omega
  long hfirst := by
    obtain ⟨hbound, hdown⟩ := h.long hfirst
    rcases Nat.lt_or_eq_of_le hbound with hlt | heq
    · obtain ⟨hbound', hdown'⟩ := h'.long hlt
      exact ⟨hbound', Nat.le_trans hdown' hdown⟩
    · have hstays := h'.inside (heq ▸ b.minIdle_le_upper) (Nat.le_of_eq heq.symm)
      omega
  inside hlow hhigh := by
    have hsame := h.inside hlow hhigh
    rw [h'.inside (hsame ▸ hlow) (hsame ▸ hhigh), hsame]

theorem Approaches.le_upper {b : Band} {before after : Nat} (h : b.Approaches before after)
    (hbefore : before ≤ b.upper) : after ≤ b.upper := by
  rcases Nat.lt_or_ge before b.minIdle with hshort | hlow
  · exact Nat.le_trans (h.short hshort).2 b.minIdle_le_upper
  · rw [h.inside hlow hbefore]
    exact hbefore

end Band

namespace ReusePool

variable {α ε σ : Type}

/-! ## One check -/

/-- What a check reports, what it makes of a queue, and how many attempts there were after
it: in the band it does nothing; a short queue gets what is created up to the first
failure, but no more than it lacks; of a long one the latest objects remain, and nothing is
created. -/
structure Checked (outcomes : Nat → Except ε α) (b : Band) (idle : List α) (n : Nat)
    (after : List (Event ε) × List α × Nat) : Prop where
  inside : b.minIdle ≤ idle.length → idle.length ≤ b.upper → after = ([], idle, n)
  short : idle.length < b.minIdle →
    (Succeeds outcomes n (b.minIdle - idle.length) ∧
        after = ([.toppingUp idle.length b.minIdle],
          idle ++ created outcomes n (b.minIdle - idle.length),
          n + (b.minIdle - idle.length))) ∨
      ∃ before < b.minIdle - idle.length, ∃ e, FailsAfter outcomes n before e ∧
        after = ([.toppingUp idle.length b.minIdle, .creationFailed e],
          idle ++ created outcomes n before, n + before + 1)
  long : b.upper < idle.length →
    ∃ kept, kept <:+ idle ∧ kept.length = b.upper ∧
      after = ([.trimming idle.length b.upper], kept, n)

section

variable {outcomes : Nat → Except ε α} {b : Band} {idle : List α} {n : Nat}
  {after : List (Event ε) × List α × Nat}

theorem checked_rebalance (outcomes : Nat → Except ε α) (b : Band) (idle : List α) (n : Nat) :
    Checked outcomes b idle n (rebalance (scripted outcomes) b.normalize idle n) := by
  rw [rebalance, b.normalize_minIdle, b.normalize_maxIdle]
  dsimp only
  refine ⟨fun hlow hhigh => ?_, fun hshort => ?_, fun hlong => ?_⟩
  · rw [if_neg (Nat.not_lt.2 hlow), if_neg (Nat.not_lt.2 hhigh)]
  · rw [if_pos hshort]
    rcases succeeds_or_failsAfter outcomes n (b.minIdle - idle.length) with
      hall | ⟨before, hbefore, e, hfails⟩
    · rw [fill_of_succeeds hall]
      exact .inl ⟨hall, rfl⟩
    · rw [fill_of_failsAfter hfails hbefore]
      exact .inr ⟨before, hbefore, e, hfails, rfl⟩
  · have hlow : b.minIdle ≤ idle.length := Nat.le_trans b.minIdle_le_upper (Nat.le_of_lt hlong)
    rw [if_neg (Nat.not_lt.2 hlow), if_pos hlong]
    refine ⟨_, List.drop_suffix _ _, ?_, rfl⟩
    rw [List.length_drop]
    omega

theorem Checked.approaches (h : Checked outcomes b idle n after) :
    b.Approaches idle.length after.2.1.length where
  short hshort := by
    rcases h.short hshort with ⟨hall, rfl⟩ | ⟨before, hbefore, e, hfails, rfl⟩
    · rw [List.length_append, length_created hall]
      omega
    · rw [List.length_append, length_created hfails.1]
      omega
  long hlong := by
    obtain ⟨kept, hsuffix, hkept, rfl⟩ := h.long hlong
    exact ⟨Nat.le_of_eq hkept.symm, hsuffix.length_le⟩
  inside hlow hhigh := by rw [h.inside hlow hhigh]

/-- If nothing fails, a check leads into the band by the shortest way. -/
theorem Checked.length_eq (h : Checked outcomes b idle n after)
    (hall : ∀ i, n ≤ i → i < after.2.2 → ∃ object, outcomes i = .ok object) :
    after.2.1.length = max b.minIdle (min b.upper idle.length) := by
  have hle := b.minIdle_le_upper
  rcases b.short_or_inside_or_long idle.length with hshort | ⟨hlow, hhigh⟩ | hlong
  · rcases h.short hshort with ⟨hsucceeds, rfl⟩ | ⟨before, -, e, hfails, rfl⟩
    · rw [List.length_append, length_created hsucceeds]
      omega
    · -- the failure is among the attempts
      obtain ⟨object, hobject⟩ := hall (n + before) (Nat.le_add_right _ _) (Nat.lt_succ_self _)
      rw [hfails.2] at hobject
      cases hobject
  · rw [h.inside hlow hhigh]
    show idle.length = _
    omega
  · obtain ⟨kept, -, hkept, rfl⟩ := h.long hlong
    rw [hkept]
    omega

end

/-! ## One check after another -/

theorem rebalance_of_contains (make : Factory σ ε α) {band : Band} {idle : List α} (s : σ)
    (h : band.contains idle.length = true) : rebalance make band idle s = ([], idle, s) := by
  rw [Band.contains, Bool.and_eq_true, decide_eq_true_iff, decide_eq_true_iff] at h
  rw [rebalance]
  dsimp only
  rw [if_neg (Nat.not_lt.2 h.1), if_neg (Nat.not_lt.2 h.2)]

theorem checks_of_contains (make : Factory σ ε α) {band : Band} {idle : List α} (s : σ)
    (h : band.contains idle.length = true) (count : Nat) :
    checks make band idle s count = ([], idle, s) := by
  cases count with
  | zero => rfl
  | succ count => rw [checks, if_pos h]

/-- Checks that come to nothing may be made or left out. -/
theorem checks_succ (make : Factory σ ε α) (band : Band) (idle : List α) (s : σ) (count : Nat) :
    checks make band idle s (count + 1) =
      ((rebalance make band idle s).1 ++
          (checks make band (rebalance make band idle s).2.1 (rebalance make band idle s).2.2
            count).1,
        (checks make band (rebalance make band idle s).2.1 (rebalance make band idle s).2.2
            count).2) := by
  cases h : band.contains idle.length with
  | true =>
      rw [rebalance_of_contains make s h, checks_of_contains make s h, checks_of_contains make s h]
      rfl
  | false =>
      rw [checks, h]
      rfl

theorem checks_add (make : Factory σ ε α) (band : Band) (idle : List α) (s : σ)
    (first later : Nat) :
    checks make band idle s (first + later) =
      ((checks make band idle s first).1 ++
          (checks make band (checks make band idle s first).2.1 (checks make band idle s first).2.2
            later).1,
        (checks make band (checks make band idle s first).2.1 (checks make band idle s first).2.2
            later).2) := by
  induction first generalizing idle s with
  | zero =>
      rw [Nat.zero_add]
      rfl
  | succ first ih =>
      rw [Nat.add_right_comm, checks_succ, ih, checks_succ make band idle s first]
      dsimp only
      rw [List.append_assoc]

theorem checks_one (make : Factory σ ε α) (band : Band) (idle : List α) (s : σ) :
    checks make band idle s 1 = rebalance make band idle s := by
  rw [checks_succ]
  show ((rebalance make band idle s).1 ++ [], (rebalance make band idle s).2) = _
  rw [List.append_nil]

section

variable (outcomes : Nat → Except ε α) (b : Band) (idle : List α) (n : Nat)

theorem approaches_checks (count : Nat) :
    b.Approaches idle.length (checks (scripted outcomes) b.normalize idle n count).2.1.length := by
  induction count generalizing idle n with
  | zero => exact .refl b _
  | succ count ih =>
      rw [checks_succ]
      exact (checked_rebalance outcomes b idle n).approaches.trans (ih _ _)

end

/-! ## What is reported -/

def Event.isToppingUp : Event ε → Bool
  | .toppingUp _ _ => true
  | _ => false

def Event.isTrimming : Event ε → Bool
  | .trimming _ _ => true
  | _ => false

section

variable {outcomes : Nat → Except ε α} {b : Band} {idle : List α} {n : Nat}
  {after : List (Event ε) × List α × Nat} {e : Event ε}

theorem Checked.short_of_isToppingUp (h : Checked outcomes b idle n after) (he : e ∈ after.1)
    (htop : e.isToppingUp = true) : idle.length < b.minIdle := by
  rcases b.short_or_inside_or_long idle.length with hshort | ⟨hlow, hhigh⟩ | hlong
  · exact hshort
  · rw [h.inside hlow hhigh] at he
    exact absurd he List.not_mem_nil
  · obtain ⟨kept, -, -, rfl⟩ := h.long hlong
    rw [List.mem_singleton.1 he] at htop
    cases htop

theorem Checked.long_of_isTrimming (h : Checked outcomes b idle n after) (he : e ∈ after.1)
    (htrim : e.isTrimming = true) : b.upper < idle.length := by
  rcases b.short_or_inside_or_long idle.length with hshort | ⟨hlow, hhigh⟩ | hlong
  · rcases h.short hshort with ⟨-, rfl⟩ | ⟨before, -, failure, -, rfl⟩
    · rw [List.mem_singleton.1 he] at htrim
      cases htrim
    · rcases List.mem_cons.1 he with rfl | he
      · cases htrim
      · rw [List.mem_singleton.1 he] at htrim
        cases htrim
  · rw [h.inside hlow hhigh] at he
    exact absurd he List.not_mem_nil
  · exact hlong

theorem long_of_isTrimming_checks (count : Nat)
    (he : e ∈ (checks (scripted outcomes) b.normalize idle n count).1)
    (htrim : e.isTrimming = true) : b.upper < idle.length := by
  induction count generalizing idle n with
  | zero => exact absurd he List.not_mem_nil
  | succ count ih =>
      have hchecked := checked_rebalance outcomes b idle n
      rw [checks_succ] at he
      rcases List.mem_append.1 he with hnow | hlater
      · exact hchecked.long_of_isTrimming hnow htrim
      · exact Nat.lt_of_not_le fun hhigh =>
          Nat.not_le.2 (ih hlater) (hchecked.approaches.le_upper hhigh)

/-- The queue is short when it is topped up, and so is never long after that. -/
theorem pairwise_checks (outcomes : Nat → Except ε α) (b : Band) (idle : List α) (n count : Nat) :
    (checks (scripted outcomes) b.normalize idle n count).1.Pairwise
      fun e later => e.isToppingUp = true → later.isTrimming = false := by
  induction count generalizing idle n with
  | zero => exact .nil
  | succ count ih =>
      have hchecked := checked_rebalance outcomes b idle n
      rw [checks_succ]
      refine List.pairwise_append.2 ⟨?_, ih _ _, fun e he later hlater htop => ?_⟩
      · refine List.pairwise_of_forall_mem_list fun e he later hlater htop => ?_
        exact Bool.eq_false_iff.2 fun htrim => by
          have hshort := hchecked.short_of_isToppingUp he htop
          have hlong := hchecked.long_of_isTrimming hlater htrim
          have hle := b.minIdle_le_upper
          omega
      · have hshort := hchecked.short_of_isToppingUp he htop
        have hle := hchecked.approaches.le_upper
          (Nat.le_trans (Nat.le_of_lt hshort) b.minIdle_le_upper)
        exact Bool.eq_false_iff.2 fun htrim =>
          Nat.not_le.2 (long_of_isTrimming_checks count hlater htrim) hle

end

/-! ## The band of a pool in use -/

theorem Custody.band_perform (outcomes : Nat → Except ε α) (s : Custody α) (move : Move) :
    (s.perform outcomes move).pool.rebalancing.map Rebalancing.band =
      s.pool.rebalancing.map Rebalancing.band := by
  cases move with
  | borrow =>
      show (s.borrow outcomes).pool.rebalancing.map _ = _
      unfold Custody.borrow ReusePool.borrow
      cases s.pool.idle with
      | nil =>
          dsimp only
          cases (scripted outcomes s.attempts).1 <;> rfl
      | cons object rest => rfl
  | giveBack position =>
      show (s.giveBack position).pool.rebalancing.map _ = _
      unfold Custody.giveBack
      split <;> rfl
  | check => exact congrArg _ s.rebalancing_check
  | shutdown =>
      show s.pool.shutdown.2.rebalancing.map _ = _
      unfold ReusePool.shutdown
      split
      · next task htask =>
          rw [htask]
          rfl
      · rfl

theorem Custody.band_run (outcomes : Nat → Except ε α) (s : Custody α) (moves : List Move) :
    (s.run outcomes moves).pool.rebalancing.map Rebalancing.band =
      s.pool.rebalancing.map Rebalancing.band := by
  induction moves generalizing s with
  | nil => rfl
  | cons move rest ih => exact (ih (s.perform outcomes move)).trans (band_perform outcomes s move)

/-- Letting time pass comes to some number of checks, with the band of the task. -/
theorem advance_eq_checks (make : Factory σ ε α) (p : ReusePool α) (s : σ) {band : Band}
    (h : p.rebalancing.map Rebalancing.band = some band) (time : Nat) :
    ∃ count, (p.advance make time s).1 = (checks make band p.idle s count).1 ∧
      (p.advance make time s).2.1.idle = (checks make band p.idle s count).2.1 ∧
      (p.advance make time s).2.2 = (checks make band p.idle s count).2.2 := by
  obtain ⟨task, htask, rfl⟩ := Option.map_eq_some_iff.1 h
  rw [advance, htask]
  dsimp only
  split
  · exact ⟨_, rfl, rfl, rfl⟩
  · exact ⟨0, rfl, rfl, rfl⟩

/-- Every third attempt fails, and the upper end is below the lower one. -/
example :
    let outcomes : Nat → Except String Nat := fun n => if n % 3 = 2 then .error "busy" else .ok n
    (checks (scripted outcomes) (Band.normalize ⟨3, 1, 0⟩) [] 0 2).2 = ([0, 1, 3], 4) ∧
      (checks (scripted outcomes) (Band.normalize ⟨3, 1, 0⟩) [9, 8, 7, 6, 5] 0 2).2 =
        ([7, 6, 5], 0) := by
  decide

/-! ## What can be relied on -/

/-- What is known of a queue that is checked again and again with nothing else happening. -/
structure Converges (outcomes : Nat → Except ε α) (b : Band) (idle : List α) (n : Nat) :
    Prop where
  once : Checked outcomes b idle n (rebalance (scripted outcomes) b.normalize idle n)
  /-- If no creation of the first check fails, that check is enough. -/
  clamped : let after := (rebalance (scripted outcomes) b.normalize idle n).2
    (∀ i, n ≤ i → i < after.2 → ∃ object, outcomes i = .ok object) →
      after.1.length = max b.minIdle (min b.upper idle.length) ∧
        rebalance (scripted outcomes) b.normalize after.1 after.2 = ([], after)
  zero : checks (scripted outcomes) b.normalize idle n 0 = ([], idle, n)
  succ : ∀ count,
    let before := checks (scripted outcomes) b.normalize idle n count
    let after := rebalance (scripted outcomes) b.normalize before.2.1 before.2.2
    checks (scripted outcomes) b.normalize idle n (count + 1) = (before.1 ++ after.1, after.2)
  approaches : ∀ first later,
    b.Approaches (checks (scripted outcomes) b.normalize idle n first).2.1.length
      (checks (scripted outcomes) b.normalize idle n (first + later)).2.1.length
  rests : ∀ first later, let before := checks (scripted outcomes) b.normalize idle n first
    b.minIdle ≤ before.2.1.length → before.2.1.length ≤ b.upper →
      checks (scripted outcomes) b.normalize idle n (first + later) = before
  ordered : ∀ count, (checks (scripted outcomes) b.normalize idle n count).1.Pairwise
    fun e later => e.isToppingUp = true → later.isTrimming = false

theorem converges (outcomes : Nat → Except ε α) (b : Band) (idle : List α) (n : Nat) :
    Converges outcomes b idle n where
  once := checked_rebalance outcomes b idle n
  clamped := by
    intro after hall
    have hlength := (checked_rebalance outcomes b idle n).length_eq hall
    refine ⟨hlength, rebalance_of_contains _ _ (Band.contains_normalize_iff.2 ?_)⟩
    have hle := b.minIdle_le_upper
    rw [hlength]
    omega
  zero := rfl
  succ count := by
    intro before after
    rw [checks_add, checks_one]
  approaches first later := by
    rw [checks_add]
    exact approaches_checks outcomes b _ _ later
  rests first later := by
    intro before hlow hhigh
    rw [checks_add, checks_of_contains _ _ (Band.contains_normalize_iff.2 ⟨hlow, hhigh⟩)]
    show (before.1 ++ [], before.2) = before
    rw [List.append_nil]
  ordered := pairwise_checks outcomes b idle n

/-- However a pool that was made with a band is used, its background task checks with that
band, the upper end raised to the lower one. A check leaves a queue in the band alone, adds
to a short one what can be created and takes from a long one what has been there longest;
and any number of checks leads towards the band and no further, so that nothing is dropped
once something was created. -/
theorem rebalance_converges (outcomes : Nat → Except ε α) (b : Band) :
    (∀ pool n, (Plan.banded b).make outcomes = (.ok pool, n) → ∀ moves time,
      let s := (Custody.start pool n).run outcomes moves
      let after := s.pool.advance (scripted outcomes) time s.attempts
      ∃ count, let checked := checks (scripted outcomes) b.normalize s.pool.idle s.attempts count
        after.1 = checked.1 ∧ after.2.1.idle = checked.2.1 ∧ after.2.2 = checked.2.2) ∧
    ∀ idle n, Converges outcomes b idle n := by
  refine ⟨fun pool n hmake moves time => ?_, converges outcomes b⟩
  have hband : pool.rebalancing.map Rebalancing.band = some b.normalize := by
    rw [(Plan.eq_of_make hmake).1]
    rfl
  exact advance_eq_checks _ _ _ ((Custody.band_run outcomes _ moves).trans hband) time

end ReusePool

end DirectoryClient
