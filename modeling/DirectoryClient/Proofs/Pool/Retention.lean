import DirectoryClient.Proofs.Pool.Effects
import Mathlib.Data.List.DropRight
import Mathlib.Data.List.Nodup

/-!
# What a canonical pool keeps alive

A pool keeps alive what it registered last, as much of it as it may, but nothing from
before a release. Which lookups register depends on which instances live, and that
depends on what is kept alive, so neither can be said without the other; but the
registrations of a run are known (`registrations`), and the list is read off them call by
call: the end of a list, with one more behind it and again cut to its end, is the end of
the longer list (`rtake_rtake_append`).

What is kept alive was registered and lives, so all that is known of living registered
instances holds of it: lookups find it, and no two of them are equal.
-/

namespace DirectoryClient

theorem rtake_of_length_le {α : Type} {l : List α} {n : Nat} (h : l.length ≤ n) :
    l.rtake n = l := by
  rw [List.rtake, Nat.sub_eq_zero_of_le h, List.drop_zero]

theorem length_rtake_le {α : Type} (l : List α) (n : Nat) : (l.rtake n).length ≤ n := by
  rw [List.rtake, List.length_drop]
  omega

theorem rtake_suffix {α : Type} (l : List α) (n : Nat) : l.rtake n <:+ l := List.drop_suffix _ l

theorem rtake_rtake_append {α : Type} (l m : List α) (n : Nat) :
    (l.rtake n ++ m).rtake n = (l ++ m).rtake n := by
  simp only [List.rtake_eq_reverse_take_reverse, List.reverse_append, List.reverse_reverse,
    List.take_append, List.take_take, List.length_reverse]
  rw [Nat.min_eq_left (Nat.sub_le _ _)]

/-- What has fewer behind it than are taken is taken. -/
theorem mem_rtake_append_cons {α : Type} (before : List α) (x : α) {later : List α} {n : Nat}
    (h : later.length < n) : x ∈ (before ++ x :: later).rtake n := by
  have hdrop : (before ++ x :: later).length - n ≤ before.length := by
    rw [List.length_append, List.length_cons]
    omega
  rw [List.rtake, List.drop_append_of_le_length hdrop]
  exact List.mem_append_right _ List.mem_cons_self

namespace CanonicalPool

variable {κ α : Type}

theorem retained_retain (i : Instance α) {p : CanonicalPool κ α}
    (h : p.retained.length ≤ p.retention) :
    (p.retain i).retained = (p.retained ++ [i]).rtake p.retention := by
  rw [retain]
  split
  · next hnone =>
      have hnil : p.retained = [] := List.eq_nil_of_length_eq_zero (by omega)
      rw [hnone, List.rtake_zero, hnil]
  · next hsome =>
      dsimp only
      split
      · next hfull =>
          -- the list is full, so one is let go of
          have hone : p.retained.length + 1 - p.retention = 1 := by omega
          rw [List.rtake, List.length_append, List.length_singleton, hone,
            List.drop_append_of_le_length (by omega)]
      · next hroom =>
          rw [rtake_of_length_le]
          rw [List.length_append, List.length_singleton]
          omega

theorem retention_sweepIfDue (held : Nat → Bool) (p : CanonicalPool κ α) :
    (p.sweepIfDue held).2.retention = p.retention := by
  obtain hsame | ⟨_, hswept⟩ := p.sweepIfDue_cases held
  · rw [hsame]
  · rw [hswept]
    rfl

theorem retention_retain (i : Instance α) (p : CanonicalPool κ α) :
    (p.retain i).retention = p.retention := by
  obtain ⟨_, heq, -⟩ := retain_cases i p
  rw [heq]

variable [BEq κ]

theorem retained_register (held : Nat → Bool) (k : κ) (i : Instance α) {p : CanonicalPool κ α}
    (h : p.retained.length ≤ p.retention) :
    (p.register held k i).2.retained = (p.retained ++ [i]).rtake p.retention := by
  have hretained := p.retained_sweepIfDue held
  have hretention := p.retention_sweepIfDue held
  dsimp only [register]
  rw [retained_retain]
  · rw [hretained, hretention]
  · rw [hretained, hretention]
    exact h

theorem retention_register (held : Nat → Bool) (k : κ) (i : Instance α) (p : CanonicalPool κ α) :
    (p.register held k i).2.retention = p.retention := by
  dsimp only [register]
  rw [retention_retain, retention_sweepIfDue]

end CanonicalPool

namespace Registry

variable {κ α : Type} {hash : α → κ} {r : Registry κ α} {i : Instance α}

theorem isAlive_iff_retained {id : Nat} :
    r.isAlive id = true ↔ r.isHeld id = true ∨ ∃ i ∈ r.pool.retained, i.id = id := by
  rw [isAlive, CanonicalPool.isAlive, Bool.or_eq_true, List.any_eq_true]
  simp

variable [BEq κ] [BEq α]

theorem Effect.retained {c : Call α} {l? : Option (Lookup κ α)} {p : CanonicalPool κ α}
    (h : Effect hash r c l? p) (hfull : r.pool.retained.length ≤ r.pool.retention) :
    p.retained = if c.isRelease then []
      else (r.pool.retained ++ registrations l?.toList).rtake r.pool.retention := by
  have hsame : r.pool.retained = (r.pool.retained ++ []).rtake r.pool.retention := by
    rw [List.append_nil, rtake_of_length_le hfull]
  cases h with
  | stay hc => rw [hc]; exact hsame
  | sweep hc => rw [hc]; exact hsame
  | release hc => rw [hc]; rfl
  | @hit l hc _ hhit _ =>
      have hnone : registrations [l] = [] := by simp [registrations, hhit]
      rw [hc, Option.toList_some, hnone]
      exact hsame
  | @miss l hc _ hmiss hgiven _ =>
      have hone : registrations [l] = [l.asked] := by simp [registrations, hmiss, hgiven]
      rw [hc, Option.toList_some, hone]
      exact CanonicalPool.retained_register r.isHeld _ l.asked hfull

theorem Effect.retention {c : Call α} {l? : Option (Lookup κ α)} {p : CanonicalPool κ α}
    (h : Effect hash r c l? p) : p.retention = r.pool.retention := by
  cases h with
  | stay => rfl
  | sweep => rfl
  | release => rfl
  | hit => rfl
  | miss => exact CanonicalPool.retention_register _ _ _ _

theorem Effect.retained_of_isHit {c : Call α} {l : Lookup κ α} {p : CanonicalPool κ α}
    (h : Effect hash r c (some l) p) (hhit : l.isHit = true) :
    p.retained = r.pool.retained := by
  cases h with
  | hit => rfl
  | miss _ _ hmiss => simp [hhit] at hmiss

/-! ## What was registered since the last release -/

/-- The instances that a run has registered since its last release, or from its beginning
if it has none, in order. -/
def registeredSince (hash : α → κ) (r : Registry κ α) (calls : List (Call α)) :
    List (Instance α) :=
  let first := calls.rdropWhile (!·.isRelease)
  let later := calls.rtakeWhile (!·.isRelease)
  registrations ((r.run hash first).lookups hash later)

theorem registeredSince_concat (hash : α → κ) (r : Registry κ α) (calls : List (Call α))
    (c : Call α) :
    r.registeredSince hash (calls ++ [c]) =
      if c.isRelease then []
      else r.registeredSince hash calls ++
        registrations ((r.run hash calls).lookup? hash c).toList := by
  unfold registeredSince
  cases hc : c.isRelease with
  | true =>
      rw [List.rtakeWhile_concat_neg _ _ _ (by simp [hc])]
      rfl
  | false =>
      have hcalls : calls.rdropWhile (!·.isRelease) ++ calls.rtakeWhile (!·.isRelease) = calls :=
        List.rdropWhile_append_rtakeWhile
      rw [List.rtakeWhile_concat_pos _ _ _ (by simp [hc]),
        List.rdropWhile_concat_pos _ _ _ (by simp [hc])]
      dsimp only
      rw [lookups_append, ← run_append, hcalls, lookups_singleton, registrations_append]
      rfl

/-- What was registered since the last release was registered by the run. -/
theorem registeredSince_suffix (hash : α → κ) (r : Registry κ α) (calls : List (Call α)) :
    r.registeredSince hash calls <:+ registrations (r.lookups hash calls) := by
  have hcalls : calls.rdropWhile (!·.isRelease) ++ calls.rtakeWhile (!·.isRelease) = calls :=
    List.rdropWhile_append_rtakeWhile
  refine ⟨registrations (r.lookups hash (calls.rdropWhile (!·.isRelease))), ?_⟩
  rw [registeredSince, ← registrations_append, ← lookups_append, hcalls]

/-! ## What is kept alive -/

section

variable [LawfulBEq κ] [EquivBEq α] (hcompat : ∀ a b : α, (a == b) = true → hash a = hash b)
include hcompat

theorem retention_run (hs : Sound hash r) (calls : List (Call α)) :
    (r.run hash calls).pool.retention = r.pool.retention := by
  induction calls generalizing r with
  | nil => rfl
  | cons c calls ih =>
      exact (ih (sound_perform hcompat hs c)).trans (effect_perform hcompat hs c).retention

theorem retained_run (retention : Nat) (calls : List (Call α)) :
    ((new retention : Registry κ α).run hash calls).pool.retained =
      ((new retention : Registry κ α).registeredSince hash calls).rtake retention := by
  have hs : Sound hash (new retention : Registry κ α) := sound_new retention
  induction calls using List.reverseRecOn with
  | nil =>
      show [] = List.rtake [] retention
      rw [List.rtake_nil]
  | append_singleton calls c ih =>
      have hretention : ((new retention).run hash calls).pool.retention = retention :=
        retention_run hcompat hs calls
      have hlast := (effect_perform hcompat (sound_run hcompat hs calls) c).retained
        (by rw [hretention, ih]; exact length_rtake_le _ _)
      rw [hretention, ih, rtake_rtake_append] at hlast
      rw [run_append, registeredSince_concat]
      refine Eq.trans hlast ?_
      cases c.isRelease with
      | true => exact (List.rtake_nil _).symm
      | false => rfl

theorem mem_registrations_of_registered (retention : Nat) (calls : List (Call α))
    (hi : i ∈ ((new retention : Registry κ α).run hash calls).registered) :
    i ∈ registrations ((new retention : Registry κ α).lookups hash calls) :=
  (List.mem_filter.1 ((registered_run hcompat (sound_new retention) calls).mem_iff.1 hi)).1

/-- What is kept alive is registered, and the same identity never twice. -/
theorem registered_of_retained (retention : Nat) (calls : List (Call α)) :
    let r := (new retention : Registry κ α).run hash calls
    (∀ i ∈ r.pool.retained, i ∈ r.registered) ∧ (r.pool.retained.map (·.id)).Nodup := by
  intro r
  have hs : Sound hash (new retention : Registry κ α) := sound_new retention
  have hsub : r.pool.retained.Sublist
      (registrations ((new retention : Registry κ α).lookups hash calls)) := by
    rw [retained_run hcompat]
    exact ((rtake_suffix _ _).trans (registeredSince_suffix hash _ calls)).sublist
  refine ⟨fun i hi => ?_, (hsub.map _).nodup (nodup_registrations hcompat hs calls)⟩
  refine (registered_run hcompat hs calls).mem_iff.2 (List.mem_filter.2 ⟨?_, ?_⟩)
  · exact List.mem_append_right _ (hsub.subset hi)
  · exact isAlive_iff.2 ⟨i, List.mem_append_left _ hi, rfl⟩

end

/-- Whatever is done with a new pool: it keeps alive the instances that it registered last
since the latest release, as many of them as it may. They are registered, and no two of
them are the same or equal. So whoever was registered lives if and only if someone holds
it or it is among these; whatever was registered so lately is given for all equal values,
though nobody may hold it; lookups that give a registered instance change nothing about
this; and a pool that keeps nothing alive leaves it all to the holders. -/
theorem run_retains {κ α : Type} [BEq κ] [LawfulBEq κ] [BEq α] [EquivBEq α] (hash : α → κ)
    (hcompat : ∀ a b : α, (a == b) = true → hash a = hash b) (retention : Nat)
    (calls : List (Call α)) :
    let r := (new retention : Registry κ α).run hash calls
    let recent := (new retention : Registry κ α).registeredSince hash calls
    r.pool.retained = recent.rtake retention ∧
      (∀ i ∈ r.pool.retained, i ∈ r.registered ∧ r.isAlive i.id = true) ∧
      r.pool.retained.Pairwise (fun i j => i.id ≠ j.id ∧ (i.value == j.value) = false) ∧
      (∀ i ∈ registrations ((new retention : Registry κ α).lookups hash calls),
        r.isAlive i.id = true ↔ r.isHeld i.id = true ∨ i ∈ r.pool.retained) ∧
      (∀ before i later, recent = before ++ i :: later → later.length < retention →
        ∀ c, ∀ l ∈ r.lookup? hash c, (l.asked.value == i.value) = true → l.given = i) ∧
      (∀ c, ∀ l ∈ r.lookup? hash c, l.isHit = true → l.after.pool.retained = r.pool.retained) ∧
      (retention = 0 → ∀ id, r.isAlive id = r.isHeld id) := by
  intro r recent
  have hs : Sound hash (new retention : Registry κ α) := sound_new retention
  have hr : Sound hash r := sound_run hcompat hs calls
  have hretained : r.pool.retained = recent.rtake retention := retained_run hcompat retention calls
  obtain ⟨hregistered, hnodup⟩ := registered_of_retained hcompat retention calls
  have hdistinct := nodup_registrations hcompat hs calls
  refine ⟨hretained, fun i hi => ⟨hregistered i hi, (mem_registered.1 (hregistered i hi)).2⟩,
    ?_, fun i hi => ?_, ?_, ?_, ?_⟩
  · refine (List.pairwise_map.1 hnodup).imp_of_mem fun {i j} hi hj hne => ⟨hne, ?_⟩
    rw [Bool.eq_false_iff]
    intro heq
    exact hne (congrArg Instance.id (hr.unique i (hregistered i hi) j (hregistered j hj) heq))
  · rw [isAlive_iff_retained]
    refine or_congr_right ⟨fun ⟨j, hj, heq⟩ => ?_, fun hmem => ⟨i, hmem, rfl⟩⟩
    have hj' := mem_registrations_of_registered hcompat retention calls (hregistered j hj)
    exact List.inj_on_of_nodup_map hdistinct hj' hi heq ▸ hj
  · intro before i later heq hlater c l hl hvalue
    have hi : i ∈ r.pool.retained := by
      rw [hretained, heq]
      exact mem_rtake_append_cons before i hlater
    have hcanonical : l.Canonical := (perform_spec hcompat hr c).1 l hl
    have hbefore : i ∈ l.before.registered := by
      rw [before_of_lookup? (Option.mem_def.1 hl)]
      exact hregistered i hi
    exact hcanonical.found i hbefore (BEq.symm hvalue)
  · intro c l hl hhit
    have heffect := effect_perform hcompat hr c
    rw [Option.mem_def.1 hl] at heffect
    rw [after_of_lookup? (Option.mem_def.1 hl)]
    exact heffect.retained_of_isHit hhit
  · rintro rfl id
    rw [Bool.eq_iff_iff, isAlive_iff_retained, hretained, List.rtake_zero]
    simp

/-- A release in between, and a hit that counts for nothing: of the three that were
registered after it the last two are kept alive, and the first of these is found. -/
theorem run_retains_two :
    let hash := fun _ : Nat => 0
    let calls : List (Call Nat) :=
      [.get 7 none, .release, .get 8 none, .get 7 none, .get 8 none, .get 9 none]
    let r := (new 2 : Registry Nat Nat).run hash calls
    (∀ a b : Nat, (a == b) = true → hash a = hash b) ∧
      r.pool.retained = [⟨2, 7⟩, ⟨4, 9⟩] ∧ r.isHeld 2 = false ∧
      ∀ l ∈ r.lookup? hash (.get 7 none), l.given = ⟨2, 7⟩ := by
  intro hash calls r
  have hcompat : ∀ a b : Nat, (a == b) = true → hash a = hash b := fun _ _ _ => rfl
  obtain ⟨hretained, -, -, -, hfound, -⟩ := run_retains hash hcompat 2 calls
  rw [← show r = run hash (new 2) calls from rfl] at hretained hfound
  have hrecent : (new 2 : Registry Nat Nat).registeredSince hash calls =
      [⟨1, 8⟩, ⟨2, 7⟩, ⟨4, 9⟩] := by
    decide +kernel +zetaReduce
  have hheld : r.isHeld 2 = false := by decide +kernel +zetaReduce
  refine ⟨hcompat, ?_, hheld, fun l hl => ?_⟩
  · rw [hretained, hrecent]
    rfl
  · refine hfound [⟨1, 8⟩] ⟨2, 7⟩ [⟨4, 9⟩] hrecent (by decide) (.get 7 none) l hl ?_
    clear_value r
    cases hl
    rfl

end Registry

end DirectoryClient
