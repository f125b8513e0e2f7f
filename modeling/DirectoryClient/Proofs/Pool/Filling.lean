import DirectoryClient.Pool.Reuse

/-!
# Filling a reuse pool

A factory is known by its outcomes, one for each attempt, and all that matters of them
is which attempt is the first to fail. Either all that are wanted succeed, and then the
queue gets just what they make; or there is a first failure, and then the queue gets
what was made before it and nothing more is tried. A pool is made by filling an empty
queue, so the same holds of making one.
-/

namespace DirectoryClient.ReusePool

variable {α ε : Type}

/-! ## Outcomes -/

/-- The factory with these outcomes. Its state is the number of attempts so far. -/
def scripted (outcomes : Nat → Except ε α) : Factory Nat ε α := fun n => (outcomes n, n + 1)

/-- Whether no object comes out twice. -/
def NeverRepeats (outcomes : Nat → Except ε α) : Prop :=
  ∀ i j object, outcomes i = .ok object → outcomes j = .ok object → i = j

/-- The objects that come out of `count` attempts, of which `start` is the first. -/
def created (outcomes : Nat → Except ε α) (start count : Nat) : List α :=
  (List.range' start count).filterMap fun i => (outcomes i).toOption

section Created

variable {outcomes : Nat → Except ε α} {object : α} {start count : Nat}

theorem mem_created_iff :
    object ∈ created outcomes start count ↔
      ∃ i, (start ≤ i ∧ i < start + count) ∧ outcomes i = .ok object := by
  simp only [created, List.mem_filterMap, List.mem_range'_1]
  refine exists_congr fun i => and_congr_right fun _ => ?_
  cases outcomes i <;> simp [Except.toOption]

/-- The last of the attempts may add an object at the end. -/
theorem created_succ (outcomes : Nat → Except ε α) (start count : Nat) :
    created outcomes start (count + 1) =
      created outcomes start count ++ (outcomes (start + count)).toOption.toList := by
  rw [created, List.range'_concat, Nat.one_mul, List.filterMap_append, ← created,
    List.filterMap_cons]
  cases (outcomes (start + count)).toOption <;> rfl

theorem created_cons (h : outcomes start = .ok object) :
    created outcomes start (count + 1) = object :: created outcomes (start + 1) count := by
  rw [created, List.range'_succ]
  exact List.filterMap_cons_some (by rw [h]; rfl)

theorem nodup_created (h : NeverRepeats outcomes) (start count : Nat) :
    (created outcomes start count).Nodup := by
  induction count with
  | zero => exact List.nodup_nil
  | succ count ih =>
      rw [created_succ]
      cases hlast : outcomes (start + count) with
      | error e =>
          show (created outcomes start count ++ []).Nodup
          rw [List.append_nil]
          exact ih
      | ok object =>
          show (created outcomes start count ++ [object]).Nodup
          rw [List.nodup_append]
          refine ⟨ih, List.nodup_cons.2 ⟨List.not_mem_nil, List.nodup_nil⟩, ?_⟩
          -- an equal object before it would have come out of an earlier attempt
          intro a ha b hb hab
          obtain ⟨i, ⟨-, hi⟩, hmade⟩ := mem_created_iff.1 ha
          rw [hab, List.mem_singleton.1 hb] at hmade
          have := h i _ _ hmade hlast
          omega

end Created

/-! ## The first failure -/

/-- Whether all of `count` attempts succeed, of which `start` is the first. -/
def Succeeds (outcomes : Nat → Except ε α) (start count : Nat) : Prop :=
  ∀ i < count, ∃ object, outcomes (start + i) = .ok object

/-- Whether the attempt after `before` successes fails, if `start` is the first. -/
def FailsAfter (outcomes : Nat → Except ε α) (start before : Nat) (e : ε) : Prop :=
  Succeeds outcomes start before ∧ outcomes (start + before) = .error e

section Filling

variable {outcomes : Nat → Except ε α} {start count : Nat}

theorem Succeeds.head (h : Succeeds outcomes start (count + 1)) :
    ∃ object, outcomes start = .ok object := h 0 (Nat.zero_lt_succ count)

theorem Succeeds.tail (h : Succeeds outcomes start (count + 1)) :
    Succeeds outcomes (start + 1) count := by
  intro i hi
  have hnext := h (i + 1) (by omega)
  rwa [← Nat.add_assoc, Nat.add_right_comm] at hnext

theorem succeeds_or_failsAfter (outcomes : Nat → Except ε α) (start count : Nat) :
    Succeeds outcomes start count ∨ ∃ before < count, ∃ e, FailsAfter outcomes start before e := by
  induction count with
  | zero => exact Or.inl fun i hi => absurd hi (Nat.not_lt_zero i)
  | succ count ih =>
      rcases ih with hall | ⟨before, hbefore, e, hfails⟩
      · cases hlast : outcomes (start + count) with
        | error e => exact Or.inr ⟨count, Nat.lt_succ_self count, e, hall, hlast⟩
        | ok object =>
            refine Or.inl fun i hi => ?_
            rcases Nat.lt_succ_iff_lt_or_eq.1 hi with hlt | heq
            · exact hall i hlt
            · exact ⟨object, heq ▸ hlast⟩
      · exact Or.inr ⟨before, Nat.lt_succ_of_lt hbefore, e, hfails⟩

theorem length_created (h : Succeeds outcomes start count) :
    (created outcomes start count).length = count := by
  induction count generalizing start with
  | zero => rfl
  | succ count ih =>
      obtain ⟨object, hobject⟩ := h.head
      rw [created_cons hobject, List.length_cons, ih h.tail]

theorem fill_of_succeeds (h : Succeeds outcomes start count) (idle : List α) :
    fill (scripted outcomes) idle start count =
      (.ok (), idle ++ created outcomes start count, start + count) := by
  induction count generalizing start idle with
  | zero => rw [fill, created, List.range'_zero, List.filterMap_nil, List.append_nil, Nat.add_zero]
  | succ count ih =>
      obtain ⟨object, hobject⟩ := h.head
      rw [fill, scripted, hobject]
      show fill (scripted outcomes) (idle ++ [object]) (start + 1) count = _
      rw [ih h.tail, created_cons hobject, List.append_assoc, List.singleton_append,
        Nat.add_right_comm, Nat.add_assoc]

theorem fill_of_failsAfter {before : Nat} {e : ε} (h : FailsAfter outcomes start before e)
    (hbefore : before < count) (idle : List α) :
    fill (scripted outcomes) idle start count =
      (.error e, idle ++ created outcomes start before, start + before + 1) := by
  induction before generalizing start count idle with
  | zero =>
      obtain ⟨count, rfl⟩ := Nat.exists_eq_succ_of_ne_zero (Nat.ne_of_gt hbefore)
      have hfirst : outcomes start = .error e := h.2
      rw [Nat.succ_eq_add_one, fill, scripted, hfirst, created, List.range'_zero,
        List.filterMap_nil, List.append_nil, Nat.add_zero]
  | succ before ih =>
      obtain ⟨count, rfl⟩ := Nat.exists_eq_succ_of_ne_zero (Nat.ne_of_gt (Nat.zero_lt_of_lt hbefore))
      obtain ⟨object, hobject⟩ := h.1.head
      have hlater : FailsAfter outcomes (start + 1) before e := by
        refine ⟨h.1.tail, ?_⟩
        rw [Nat.add_right_comm]
        exact h.2
      rw [Nat.succ_eq_add_one, fill, scripted, hobject]
      show fill (scripted outcomes) (idle ++ [object]) (start + 1) count = _
      rw [ih hlater (Nat.lt_of_succ_lt_succ hbefore), created_cons hobject, List.append_assoc,
        List.singleton_append, Nat.add_right_comm start 1 before]
      rfl

end Filling

/-! ## Making a pool -/

/-- How a pool shall be made: with so many objects and no background task, or in a band. -/
inductive Plan
  | plain (size : Nat)
  | banded (band : Band)

/-- How many objects a pool shall have at first. -/
def Plan.size : Plan → Nat
  | plain size => size
  | banded band => band.minIdle

/-- Has a pool made by a factory that was never used. -/
def Plan.make (outcomes : Nat → Except ε α) : Plan → Except ε (ReusePool α) × Nat
  | plain size => new (scripted outcomes) size 0
  | banded band =>
      let (result, n) := newInBand (scripted outcomes) band 0
      (result.map Prod.snd, n)

/-- The task that a pool made by a plan has at first. -/
def Plan.rebalancing : Plan → Option Rebalancing
  | plain _ => none
  | banded band => some ⟨band.normalize, true, 0⟩

section Making

variable {outcomes : Nat → Except ε α}

theorem new_of_succeeds {size : Nat} (h : Succeeds outcomes 0 size) :
    new (scripted outcomes) size 0 = (.ok ⟨created outcomes 0 size, none⟩, size) := by
  rw [new, fill_of_succeeds h, Nat.zero_add, List.nil_append]

theorem new_of_failsAfter {size before : Nat} {e : ε} (h : FailsAfter outcomes 0 before e)
    (hbefore : before < size) : new (scripted outcomes) size 0 = (.error e, before + 1) := by
  rw [new, fill_of_failsAfter h hbefore, Nat.zero_add]

theorem Plan.make_of_succeeds {plan : Plan} (h : Succeeds outcomes 0 plan.size) :
    plan.make outcomes = (.ok ⟨created outcomes 0 plan.size, plan.rebalancing⟩, plan.size) := by
  have hnew := new_of_succeeds h
  cases plan with
  | plain size => exact hnew
  | banded band =>
      simp only [make, newInBand, show new _ band.normalize.minIdle 0 = _ from hnew]
      rfl

theorem Plan.make_of_failsAfter {plan : Plan} {before : Nat} {e : ε}
    (h : FailsAfter outcomes 0 before e) (hbefore : before < plan.size) :
    plan.make outcomes = (.error e, before + 1) := by
  have hnew := new_of_failsAfter h hbefore
  cases plan with
  | plain size => exact hnew
  | banded band =>
      simp only [make, newInBand, show new _ band.normalize.minIdle 0 = _ from hnew]
      rfl

theorem Plan.eq_of_make {plan : Plan} {pool : ReusePool α} {n : Nat}
    (h : plan.make outcomes = (.ok pool, n)) :
    pool = ⟨created outcomes 0 plan.size, plan.rebalancing⟩ ∧ n = plan.size := by
  rcases succeeds_or_failsAfter outcomes 0 plan.size with hall | ⟨before, hbefore, e, hfails⟩
  · rw [make_of_succeeds hall] at h
    cases h
    exact ⟨rfl, rfl⟩
  · rw [make_of_failsAfter hfails hbefore] at h
    cases h

end Making

end DirectoryClient.ReusePool
