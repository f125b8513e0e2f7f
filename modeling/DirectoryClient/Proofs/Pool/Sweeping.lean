import DirectoryClient.Proofs.Pool.Effects
import Mathlib.Data.List.Induction

/-!
# How many buckets a canonical pool has

Slots of dead instances stay behind, so the number of buckets says little about what lives.
It is kept in bounds by the threshold: a registration that finds so many buckets sweeps
first, and then sets the threshold by what is left. What is left by a sweep are buckets
with living instances, no more than live at that moment (`length_sweep_le_size`).

Other calls only take buckets away and leave the threshold alone. So from one sweep to the
next nothing but registrations adds buckets, one at most each, and as the threshold is at
least twice what the sweep has left, at least half of it has to be added anew before it is
reached.
-/

namespace DirectoryClient

namespace CanonicalPool

variable {κ α : Type}

/-! ## What a sweep leaves -/

theorem ne_nil_of_mem_sweep (held : Nat → Bool) (p : CanonicalPool κ α) :
    ∀ b ∈ (p.sweep held).2.buckets, b.2 ≠ [] := by
  intro b hb
  obtain ⟨b', -, hb'⟩ := List.mem_filterMap.1 hb
  dsimp only at hb'
  split at hb'
  · cases hb'
  · next hliving =>
      obtain rfl := Option.some.inj hb'
      exact hliving

/-- Buckets that all have slots are no more than these. -/
theorem length_le_length_flatMap {buckets : List (κ × List (Instance α))}
    (h : ∀ b ∈ buckets, b.2 ≠ []) : buckets.length ≤ (buckets.flatMap (·.2)).length := by
  induction buckets with
  | nil => exact Nat.le_refl 0
  | cons b rest ih =>
      obtain ⟨hb, hrest⟩ := List.forall_mem_cons.1 h
      have hpos := List.length_pos_iff.2 hb
      have hle := ih hrest
      rw [List.flatMap_cons, List.length_append, List.length_cons]
      omega

theorem length_sweep_le_size (held : Nat → Bool) (p : CanonicalPool κ α) :
    (p.sweep held).2.buckets.length ≤ p.size held := by
  have hle := length_le_length_flatMap (p.ne_nil_of_mem_sweep held)
  have hslots := p.slots_sweep held
  rw [slots] at hslots
  rwa [hslots, ← List.countP_eq_length_filter] at hle

theorem length_sweep_le (held : Nat → Bool) (p : CanonicalPool κ α) :
    (p.sweep held).2.buckets.length ≤ p.buckets.length :=
  List.length_filterMap_le _ _

/-- A sweep tells how many slots it has removed: those of dead instances. -/
theorem sweep_fst (held : Nat → Bool) (p : CanonicalPool κ α) :
    (p.sweep held).1 = p.slots.countP fun i => !p.isAlive held i.id := by
  show p.slots.length - (p.sweep held).2.slots.length = _
  rw [slots_sweep, ← List.countP_eq_length_filter,
    List.length_eq_countP_add_countP fun i : Instance α => p.isAlive held i.id]
  simp

/-- The threshold after a sweep that has left so many buckets. -/
def thresholdFor (left : Nat) : Nat := max (left * 2) minSweepThreshold

theorem sweepIfDue_of_le {held : Nat → Bool} {p : CanonicalPool κ α}
    (h : p.sweepAt ≤ p.buckets.length) :
    (p.sweepIfDue held).2 = { (p.sweep held).2 with
      sweepAt := thresholdFor (p.sweep held).2.buckets.length } := by
  rw [sweepIfDue, if_pos h]
  rfl

theorem sweepIfDue_of_lt {held : Nat → Bool} {p : CanonicalPool κ α}
    (h : p.buckets.length < p.sweepAt) : (p.sweepIfDue held).2 = p := by
  rw [sweepIfDue, if_neg (Nat.not_le.2 h)]

theorem swept_mem_sweepIfDue_iff {held : Nat → Bool} {p : CanonicalPool κ α}
    {removed left : Nat} :
    .swept removed left ∈ (p.sweepIfDue held).1 ↔ p.sweepAt ≤ p.buckets.length ∧
      removed = (p.sweep held).1 ∧ left = (p.sweep held).2.buckets.length := by
  unfold sweepIfDue
  split
  · next hdue => simp [hdue]
  · next hnot => simp [hnot]

/-! ## What a registration adds -/

theorem buckets_retain (i : Instance α) (p : CanonicalPool κ α) :
    (p.retain i).buckets = p.buckets ∧ (p.retain i).sweepAt = p.sweepAt := by
  obtain ⟨_, heq, -⟩ := retain_cases i p
  rw [heq]
  exact ⟨rfl, rfl⟩

variable [BEq κ]

theorem length_updateBucket [LawfulBEq κ] (k : κ) (f : List (Instance α) → List (Instance α))
    (buckets : List (κ × List (Instance α))) :
    (updateBucket k f buckets).length =
      buckets.length + if (buckets.lookup k).isNone then 1 else 0 := by
  induction buckets with
  | nil => rfl
  | cons b rest ih =>
      obtain ⟨key, slots⟩ := b
      rw [updateBucket, List.lookup_cons, BEq.comm]
      cases hk : k == key with
      | true => rfl
      | false =>
          rw [if_neg Bool.false_ne_true, List.length_cons, ih, List.length_cons]
          exact Nat.add_right_comm _ _ _

/-- Registering adds a bucket if it finds none for the hash after the sweep that was due.
How many lookups were counted does not matter. -/
theorem length_register [LawfulBEq κ] (held : Nat → Bool) (k : κ) (i : Instance α)
    (p : CanonicalPool κ α) (lookups : Nat) :
    ({ p with lookups }.register held k i).2.buckets.length =
        (p.sweepIfDue held).2.buckets.length +
          (if ((p.sweepIfDue held).2.buckets.lookup k).isNone then 1 else 0) ∧
      ({ p with lookups }.register held k i).2.sweepAt = (p.sweepIfDue held).2.sweepAt := by
  have hdue : ({ p with lookups }.sweepIfDue held).2 = { (p.sweepIfDue held).2 with lookups } := by
    unfold sweepIfDue
    split
    · rfl
    · rfl
  dsimp only [register]
  rw [(buckets_retain i _).1, (buckets_retain i _).2, hdue]
  exact ⟨length_updateBucket k _ _, rfl⟩

end CanonicalPool

namespace Registry

variable {κ α : Type}

/-! ## Sweeps and new buckets in a run -/

/-- Whether a lookup sweeps: it registers, and there are as many buckets as the threshold
says. -/
def Lookup.sweeps (l : Lookup κ α) : Bool :=
  !l.isHit && decide (l.before.pool.sweepAt ≤ l.before.pool.buckets.length)

/-- How many buckets a sweep leaves where a lookup finds the pool. -/
def Lookup.left (l : Lookup κ α) : Nat :=
  (l.before.pool.sweep l.before.isHeld).2.buckets.length

/-- The threshold after these lookups: it is set by the last of them that sweeps. -/
def thresholdAfter (history : List (Lookup κ α)) : Nat :=
  match (history.filter Lookup.sweeps).getLast? with
  | none => CanonicalPool.minSweepThreshold
  | some l => CanonicalPool.thresholdFor l.left

theorem thresholdAfter_append {history more : List (Lookup κ α)}
    (h : ∀ l ∈ more, l.sweeps = false) :
    thresholdAfter (history ++ more) = thresholdAfter history := by
  have hnone : more.filter Lookup.sweeps = [] := by simpa [List.filter_eq_nil_iff] using h
  rw [thresholdAfter, List.filter_append, hnone, List.append_nil, thresholdAfter]

theorem thresholdAfter_concat {history : List (Lookup κ α)} {l : Lookup κ α}
    (h : l.sweeps = true) :
    thresholdAfter (history ++ [l]) = CanonicalPool.thresholdFor l.left := by
  rw [thresholdAfter, List.filter_append, List.filter_cons_of_pos h, List.filter_nil,
    List.getLast?_concat]

/-- Whether a lookup adds a bucket: it registers, and after the sweep that may be due there
is none for the hash. -/
def Lookup.opens [BEq κ] (hash : α → κ) (l : Lookup κ α) : Bool :=
  !l.isHit && ((l.before.pool.sweepIfDue l.before.isHeld).2.buckets.lookup
    (hash l.asked.value)).isNone

variable [BEq κ] [BEq α] {hash : α → κ} {r : Registry κ α} {c : Call α}
  {l? : Option (Lookup κ α)} {p : CanonicalPool κ α}

/-- A call either leaves the threshold alone, and adds no more buckets than lookups do, and
only where there are fewer than the threshold says; or it sweeps. -/
theorem Effect.buckets [LawfulBEq κ] (h : Effect hash r c l? p) :
    ((∀ l ∈ l?, l.sweeps = false) ∧ p.sweepAt = r.pool.sweepAt ∧
        p.buckets.length ≤ r.pool.buckets.length + l?.toList.countP (Lookup.opens hash) ∧
        (p.buckets.length ≤ r.pool.buckets.length ∨ p.buckets.length ≤ r.pool.sweepAt)) ∨
      ∃ l, l? = some l ∧ l.before = r ∧ l.sweeps = true ∧
        p.sweepAt = CanonicalPool.thresholdFor l.left ∧
        p.buckets.length = l.left + [l].countP (Lookup.opens hash) := by
  cases h with
  | stay => exact .inl ⟨nofun, rfl, Nat.le_refl _, .inl (Nat.le_refl _)⟩
  | sweep =>
      have hle := r.pool.length_sweep_le r.isHeld
      exact .inl ⟨nofun, rfl, hle, .inl hle⟩
  | release => exact .inl ⟨nofun, rfl, Nat.le_refl _, .inl (Nat.le_refl _)⟩
  | @hit l _ _ hhit _ =>
      refine .inl ⟨?_, rfl, Nat.le_add_right _ _, .inl (Nat.le_refl _)⟩
      rintro _ ⟨⟩
      simp [Lookup.sweeps, hhit]
  | @miss l _ hbefore hmiss _ _ =>
      subst hbefore
      obtain ⟨hlength, hat⟩ := CanonicalPool.length_register l.before.isHeld
        (hash l.asked.value) l.asked l.before.pool (l.before.pool.lookups + 1)
      have hopens : [l].countP (Lookup.opens hash) =
          if ((l.before.pool.sweepIfDue l.before.isHeld).2.buckets.lookup
            (hash l.asked.value)).isNone then 1 else 0 := by
        rw [List.countP_singleton, Lookup.opens, hmiss]
        rfl
      rw [← hopens] at hlength
      rcases Nat.lt_or_ge l.before.pool.buckets.length l.before.pool.sweepAt with hlt | hdue
      · rw [CanonicalPool.sweepIfDue_of_lt hlt] at hlength hat
        refine .inl ⟨?_, hat, Nat.le_of_eq hlength, .inr (Nat.le_trans (Nat.le_of_eq hlength) ?_)⟩
        · rintro _ ⟨⟩
          simp [Lookup.sweeps, hlt]
        · have hone : [l].countP (Lookup.opens hash) ≤ 1 := List.countP_le_length
          omega
      · rw [CanonicalPool.sweepIfDue_of_le hdue] at hlength hat
        refine .inr ⟨l, rfl, rfl, ?_, hat, hlength⟩
        simp [Lookup.sweeps, hmiss, hdue]

/-- A sweep is reported where there is one. -/
theorem Effect.swept_mem_iff {l : Lookup κ α} (h : Effect hash r c (some l) p) :
    (∃ removed, .swept removed l.left ∈ l.reports hash) ↔ l.sweeps = true := by
  have hcounted : ∀ removed left, .swept removed left ∉ r.pool.countLookup.1 := by
    intro removed left
    unfold CanonicalPool.countLookup
    split
    · simp
    · simp
  cases h with
  | hit _ _ hhit hreports =>
      rw [hreports]
      simp [hcounted, Lookup.sweeps, hhit]
  | miss _ hbefore hmiss _ hreports =>
      subst hbefore
      rw [hreports]
      simp only [List.mem_append, hcounted, false_or, Lookup.sweeps, hmiss, Bool.not_false,
        Bool.true_and, decide_eq_true_eq]
      constructor
      · rintro ⟨removed, hmem⟩
        exact (CanonicalPool.swept_mem_sweepIfDue_iff.1 hmem).1
      · intro hdue
        exact ⟨_, CanonicalPool.swept_mem_sweepIfDue_iff.2 ⟨hdue, rfl, rfl⟩⟩

/-! ## Runs -/

/-- The largest number of living registered instances that there was before the end. -/
def peak (hash : α → κ) (r : Registry κ α) : List (Call α) → Nat
  | [] => 0
  | c :: calls => max r.size (peak hash (r.perform hash c).2 calls)

theorem size_le_peak {calls : List (Call α)} {l : Lookup κ α}
    (hl : l ∈ r.lookups hash calls) : l.before.size ≤ r.peak hash calls := by
  induction calls generalizing r with
  | nil => nomatch hl
  | cons c calls ih =>
      rw [peak]
      rcases List.mem_append.1 hl with hl | hl
      · rw [before_of_lookup? (Option.mem_toList.1 hl)]
        exact Nat.le_max_left _ _
      · exact Nat.le_trans (ih hl) (Nat.le_max_right _ _)

section

variable [LawfulBEq κ] [EquivBEq α] (hcompat : ∀ a b : α, (a == b) = true → hash a = hash b)
include hcompat

/-- The number of buckets and the threshold, after a run from a new pool. -/
theorem buckets_run (retention : Nat) (calls : List (Call α)) :
    let start := (new retention : Registry κ α)
    (start.run hash calls).pool.sweepAt = thresholdAfter (start.lookups hash calls) ∧
      (start.run hash calls).pool.buckets.length ≤ (start.run hash calls).pool.sweepAt := by
  intro start
  induction calls using List.reverseRecOn with
  | nil => exact ⟨rfl, Nat.zero_le _⟩
  | append_singleton calls c ih =>
      obtain ⟨hat, hle⟩ := ih
      have hs := sound_run hcompat (sound_new retention) calls
      have heffect := effect_perform hcompat hs c
      rw [run_append, lookups_append, lookups_singleton]
      change (perform hash _ c).2.pool.sweepAt = _ ∧
        (perform hash _ c).2.pool.buckets.length ≤ (perform hash _ c).2.pool.sweepAt
      rcases heffect.buckets with ⟨hquiet, hsame, -, hlength⟩ | ⟨l, hl, -, hsweeps, hset, hlength⟩
      · rw [hsame, thresholdAfter_append fun l hl => hquiet l (Option.mem_toList.1 hl)]
        exact ⟨hat, hlength.elim (Nat.le_trans · hle) id⟩
      · rw [hl, Option.toList_some, thresholdAfter_concat hsweeps]
        have hone : [l].countP (Lookup.opens hash) ≤ 1 := List.countP_le_length
        refine ⟨hset, ?_⟩
        rw [hset, hlength, CanonicalPool.thresholdFor, CanonicalPool.minSweepThreshold]
        omega

/-- Without a sweep the threshold stays, and only lookups add buckets. -/
theorem buckets_run_of_not_sweeps (hs : Sound hash r) {calls : List (Call α)}
    (h : ∀ l ∈ r.lookups hash calls, l.sweeps = false) :
    (r.run hash calls).pool.sweepAt = r.pool.sweepAt ∧
      (r.run hash calls).pool.buckets.length ≤
        r.pool.buckets.length + (r.lookups hash calls).countP (Lookup.opens hash) := by
  induction calls generalizing r with
  | nil => exact ⟨rfl, Nat.le_refl _⟩
  | cons c calls ih =>
      obtain ⟨hfirst, hrest⟩ := List.forall_mem_append.1 h
      obtain ⟨hat, hlength⟩ := ih (sound_perform hcompat hs c) hrest
      rw [lookups, List.countP_append]
      rcases (effect_perform hcompat hs c).buckets with
        ⟨-, hsame, hadded, -⟩ | ⟨l, hl, -, hsweeps, -⟩
      · refine ⟨hat.trans hsame, Nat.le_trans hlength ?_⟩
        omega
      · have hnot := hfirst l (Option.mem_toList.2 (Option.mem_def.2 hl))
        simp [hsweeps] at hnot

/-- From one sweep to the next, at least half the threshold in buckets is added. -/
theorem sweepAt_le_two_mul (hs : Sound hash r) {calls : List (Call α)}
    {earlier between later : List (Lookup κ α)} {l l' : Lookup κ α}
    (h : r.lookups hash calls = earlier ++ l :: (between ++ l' :: later))
    (hl : l.sweeps = true) (hbetween : ∀ m ∈ between, m.sweeps = false) (hl' : l'.sweeps = true) :
    l'.before.pool.sweepAt ≤ 2 * (l :: between).countP (Lookup.opens hash) := by
  obtain ⟨first, c, rest, -, -, hc, hrest⟩ := exists_of_lookups_eq h
  obtain ⟨middle, c', -, -, hmiddle, hc', -⟩ := exists_of_lookups_eq hrest
  have hfirst := sound_run hcompat hs first
  have hnext := sound_perform hcompat hfirst c
  rw [run_append] at hmiddle hc'
  change (perform hash (r.run hash first) c).2.lookups hash middle = between at hmiddle
  have hset : (perform hash (r.run hash first) c).2.pool.sweepAt =
        CanonicalPool.thresholdFor l.left ∧
      (perform hash (r.run hash first) c).2.pool.buckets.length =
        l.left + [l].countP (Lookup.opens hash) := by
    rcases (effect_perform hcompat hfirst c).buckets with ⟨hquiet, -⟩ | ⟨m, hm, -, -, hset⟩
    · have hnot := hquiet l (Option.mem_def.2 hc)
      simp [hl] at hnot
    · obtain rfl := Option.some.inj (hc.symm.trans hm)
      exact hset
  rw [← hmiddle] at hbetween
  obtain ⟨hat, hlength⟩ := buckets_run_of_not_sweeps hcompat hnext hbetween
  have hreached : l'.before.pool.sweepAt ≤ l'.before.pool.buckets.length :=
    of_decide_eq_true (Bool.and_eq_true_iff.1 hl').2
  rw [before_of_lookup? hc'] at hreached ⊢
  change (run hash (perform hash (r.run hash first) c).2 middle).pool.sweepAt ≤
    (run hash (perform hash (r.run hash first) c).2 middle).pool.buckets.length at hreached
  change (run hash (perform hash (r.run hash first) c).2 middle).pool.sweepAt ≤ _
  -- what the first sweep has left is at most half of the threshold that it sets
  have hhalf : l.left * 2 ≤ CanonicalPool.thresholdFor l.left := Nat.le_max_left _ _
  rw [hmiddle, hset.2] at hlength
  rw [hat, hset.1] at hreached ⊢
  rw [← List.singleton_append, List.countP_append]
  omega

theorem swept_mem_reports_iff (hs : Sound hash r) {calls : List (Call α)} {l : Lookup κ α}
    (hl : l ∈ r.lookups hash calls) :
    (∃ removed, .swept removed l.left ∈ l.reports hash) ↔ l.sweeps = true := by
  obtain ⟨_, _, h⟩ := List.append_of_mem hl
  obtain ⟨first, c, -, -, -, hc, -⟩ := exists_of_lookups_eq h
  have heffect := effect_perform hcompat (sound_run hcompat hs first) c
  rw [hc] at heffect
  exact heffect.swept_mem_iff

/-- Whatever has a slot had one at the beginning, or was registered since. -/
theorem mem_slots_run (hs : Sound hash r) (calls : List (Call α)) {i : Instance α}
    (hi : i ∈ (r.run hash calls).pool.slots) :
    i ∈ r.pool.slots ∨ i ∈ registrations (r.lookups hash calls) := by
  induction calls generalizing r with
  | nil => exact .inl hi
  | cons c calls ih =>
      obtain ⟨-, -, -, _, new, hstep, hnew⟩ := perform_spec hcompat hs c
      rw [lookups, registrations_append, hnew, List.mem_append]
      rcases ih (hstep.sound hs) hi with hi | hi
      · obtain ⟨kept, htrims, hperm⟩ := hstep.slots
        rcases List.mem_append.1 (hperm.mem_iff.1 hi) with hi | hi
        · exact .inr (.inl hi)
        · exact .inl (htrims.sublist.subset hi)
      · exact .inr (.inr hi)

/-- A purge has nothing to remove if nobody has died since the last one. -/
theorem purge_purge (hs : Sound hash r) (more : List (Call α))
    (h : ∀ i ∈ r.registered ++ registrations (r.purge.2.lookups hash more),
      (r.purge.2.run hash more).isAlive i.id = true) :
    (r.purge.2.run hash more).purge.1 = 0 := by
  have hpurged : Sound hash r.purge.2 := sound_perform hcompat hs .purge
  have hslots : r.purge.2.pool.slots = r.registered := r.pool.slots_sweep r.isHeld
  refine (CanonicalPool.sweep_fst _ _).trans (List.countP_eq_zero.2 fun i hi => ?_)
  have hknown := mem_slots_run hcompat hpurged more hi
  rw [hslots, ← List.mem_append] at hknown
  have halive := h i hknown
  rw [isAlive] at halive
  simp [halive]

end

/-- Whatever is done with a new pool: there are no more buckets than the threshold says,
which is set by the latest sweep that was reported, and so never more than twice as many as
the instances that ever lived at once, apart from a few. Sweeps leave the slots of the
living, and no bucket without any. From one sweep to the next, at least half of the
threshold is added in buckets. A purge removes the slots of the dead and tells their
number, and when it is repeated before anyone else has died there is nothing to remove. -/
theorem run_bounded {κ α : Type} [BEq κ] [LawfulBEq κ] [BEq α] [EquivBEq α] (hash : α → κ)
    (hcompat : ∀ a b : α, (a == b) = true → hash a = hash b) (retention : Nat)
    (calls : List (Call α)) :
    let start := (new retention : Registry κ α)
    let r := start.run hash calls
    r.pool.buckets.length ≤ r.pool.sweepAt ∧
      (r.pool.sweepAt = thresholdAfter (start.lookups hash calls) ∧
        ∀ l ∈ start.lookups hash calls,
          (∃ removed, .swept removed l.left ∈ l.reports hash) ↔ l.sweeps = true) ∧
      r.pool.buckets.length ≤ max CanonicalPool.minSweepThreshold (2 * start.peak hash calls) ∧
      ((r.pool.sweep r.isHeld).2.slots = r.registered ∧
        ∀ b ∈ (r.pool.sweep r.isHeld).2.buckets, b.2 ≠ []) ∧
      (∀ earlier between later l l',
        start.lookups hash calls = earlier ++ l :: (between ++ l' :: later) →
        l.sweeps = true → (∀ m ∈ between, m.sweeps = false) → l'.sweeps = true →
        l'.before.pool.sweepAt ≤ 2 * (l :: between).countP (Lookup.opens hash)) ∧
      (r.purge.2.pool.slots = r.registered ∧
        r.purge.1 = r.pool.slots.countP (fun i => !r.isAlive i.id) ∧
        ∀ more, (∀ i ∈ r.registered ++ registrations (r.purge.2.lookups hash more),
            (r.purge.2.run hash more).isAlive i.id = true) →
          (r.purge.2.run hash more).purge.1 = 0) := by
  intro start r
  have hs : Sound hash start := sound_new retention
  have hr : Sound hash r := sound_run hcompat hs calls
  obtain ⟨hat, hle⟩ := buckets_run hcompat retention calls
  have hslots : (r.pool.sweep r.isHeld).2.slots = r.registered := r.pool.slots_sweep r.isHeld
  have hpeak : thresholdAfter (start.lookups hash calls) ≤
      max CanonicalPool.minSweepThreshold (2 * start.peak hash calls) := by
    rw [thresholdAfter]
    split
    · exact Nat.le_max_left _ _
    · next l hlast =>
        have hl : l ∈ start.lookups hash calls :=
          (List.mem_filter.1 (List.mem_of_getLast? hlast)).1
        have hleft : l.left ≤ start.peak hash calls :=
          Nat.le_trans (l.before.pool.length_sweep_le_size _) (size_le_peak hl)
        rw [CanonicalPool.thresholdFor]
        omega
  refine ⟨hle, ⟨hat, fun l hl => swept_mem_reports_iff hcompat hs hl⟩,
    Nat.le_trans hle (hat ▸ hpeak), ⟨hslots, r.pool.ne_nil_of_mem_sweep _⟩,
    fun earlier between later l l' h hl hbetween hl' =>
      sweepAt_le_two_mul hcompat hs h hl hbetween hl',
    hslots, r.pool.sweep_fst r.isHeld, purge_purge hcompat hr⟩

/-- Nothing is kept alive and no two hashes are equal: of 129 values that nobody holds, the
65th and the last are registered with a sweep, and a purge at the end finds one slot. -/
theorem run_bounded_swept :
    let start := (new 0 : Registry Nat Nat)
    let calls := (List.range 129).map fun n => Call.get n none
    (∀ a b : Nat, (a == b) = true → id a = id b) ∧
      (∃ earlier between later l l',
        start.lookups id calls = earlier ++ l :: (between ++ l' :: later) ∧
          l.sweeps = true ∧ between.length = 63 ∧ (∀ m ∈ between, m.sweeps = false) ∧
          l'.sweeps = true ∧
          l'.before.pool.sweepAt ≤ 2 * (l :: between).countP (Lookup.opens id)) ∧
      (start.run id calls).purge.1 = 1 ∧ (start.run id calls).purge.2.purge.1 = 0 := by
  intro start calls
  have hcompat : ∀ a b : Nat, (a == b) = true → id a = id b := fun _ _ h => eq_of_beq h
  obtain ⟨-, -, -, -, hsweeps, -, hpurge, hagain⟩ := run_bounded id hcompat 0 calls
  have hflags : (start.lookups id calls).map Lookup.sweeps =
      List.replicate 64 false ++ true :: (List.replicate 63 false ++ [true]) := by
    decide +kernel +zetaReduce
  obtain ⟨earlier, rest, heq, -, hrest⟩ := List.map_eq_append_iff.1 hflags
  obtain ⟨l, rest, rfl, hl, hrest⟩ := List.map_eq_cons_iff.1 hrest
  obtain ⟨between, rest, rfl, hbetween, hrest⟩ := List.map_eq_append_iff.1 hrest
  obtain ⟨l', later, rfl, hl', -⟩ := List.map_eq_cons_iff.1 hrest
  have hempty : ∀ r : Registry Nat Nat, r.run id [] = r := fun _ => rfl
  have hpurged : ∀ (r : Registry Nat Nat) (i : Nat), r.purge.2.isAlive i = r.isAlive i :=
    fun _ _ => rfl
  have hrepeated := hagain []
  simp only [hempty] at hrepeated
  have hquiet : ∀ m ∈ between, m.sweeps = false := fun m hm =>
    List.eq_of_mem_replicate (hbetween ▸ List.mem_map_of_mem hm)
  have hcount : between.length = 63 := by
    rw [← List.length_map Lookup.sweeps, hbetween, List.length_replicate]
  refine ⟨hcompat, ⟨earlier, between, later, l, l', heq, hl, hcount, hquiet, hl',
    hsweeps earlier between later l l' heq hl hquiet hl'⟩, ?_, hrepeated fun i hi => ?_⟩
  · rw [hpurge]
    decide +kernel +zetaReduce
  · rw [lookups, registrations, List.filter_nil, List.map_nil, List.append_nil] at hi
    rw [hpurged]
    exact (mem_registered.1 hi).2

end Registry

end DirectoryClient
