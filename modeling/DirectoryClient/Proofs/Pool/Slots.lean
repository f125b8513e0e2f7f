import DirectoryClient.Pool.Canonical

/-!
# The slots of a canonical pool

Buckets exist to find slots quickly. What an operation does is told by the list
of all slots, which a lookup searches and which a registration extends: it drops
slots of dead instances, more or fewer of them depending on whether it sweeps,
and adds one for the new instance.

That a bucket's slots have the bucket's hash, and no two buckets have the same,
is all that the buckets contribute (`Bucketed`); a lookup then sees every slot
that might hold an equal value, however the hashes collide.
-/

namespace DirectoryClient

/-- One list of instances is another without some of the dead ones. -/
structure Trims {α : Type} (alive : Nat → Bool) (old kept : List (Instance α)) : Prop where
  sublist : kept.Sublist old
  living : kept.filter (alive ·.id) = old.filter (alive ·.id)

namespace Trims

variable {α : Type} {alive : Nat → Bool} {old kept : List (Instance α)}

theorem refl : Trims alive old old := ⟨.refl _, rfl⟩

theorem filter : Trims alive old (old.filter (alive ·.id)) :=
  ⟨List.filter_sublist, by simp⟩

theorem trans {less : List (Instance α)} (h : Trims alive old kept) (h' : Trims alive kept less) :
    Trims alive old less :=
  ⟨h'.sublist.trans h.sublist, h'.living.trans h.living⟩

/-- Trimming a part of a list trims the list. -/
theorem infix_of (h : Trims alive old kept) (before after : List (Instance α)) :
    Trims alive (before ++ old ++ after) (before ++ kept ++ after) :=
  ⟨((List.Sublist.refl before).append h.sublist).append (.refl after), by simp [h.living]⟩

theorem mem (h : Trims alive old kept) {i : Instance α} (hi : i ∈ old) (ha : alive i.id) :
    i ∈ kept := by
  have : i ∈ kept.filter (alive ·.id) := h.living ▸ List.mem_filter.mpr ⟨hi, ha⟩
  exact (List.mem_filter.mp this).1

/-- Those that are still alive later are among the kept ones too. -/
theorem living_of_imp (h : Trims alive old kept) {alive' : Nat → Bool}
    (himp : ∀ i ∈ old, alive' i.id → alive i.id) :
    kept.filter (alive' ·.id) = old.filter (alive' ·.id) := by
  have key : ∀ l : List (Instance α), (∀ i ∈ l, alive' i.id → alive i.id) →
      (l.filter (alive ·.id)).filter (alive' ·.id) = l.filter (alive' ·.id) := by
    intro l hl
    rw [List.filter_filter]
    refine List.filter_congr fun i hi => ?_
    cases ha : alive' i.id with
    | false => rfl
    | true => simpa using hl i hi ha
  rw [← key kept fun i hi => himp i (h.sublist.subset hi), h.living, key old himp]

end Trims

namespace CanonicalPool

variable {κ α : Type} {hash : α → κ} {held : Nat → Bool} {p : CanonicalPool κ α}
  {i : Instance α}

/-! ## Buckets -/

/-- Every slot is in the one bucket for the hash of its value. -/
structure Bucketed (hash : α → κ) (buckets : List (κ × List (Instance α))) : Prop where
  keys : (buckets.map (·.1)).Nodup
  slots : ∀ b ∈ buckets, ∀ i ∈ b.2, hash i.value = b.1

theorem bucketed_nil : Bucketed hash [] := ⟨.nil, by simp⟩

/-- Taking slots out of buckets, and buckets away, leaves the rest in place. -/
theorem Bucketed.filterMap {buckets : List (κ × List (Instance α))} (h : Bucketed hash buckets)
    {f : κ × List (Instance α) → Option (κ × List (Instance α))}
    (hf : ∀ b b', f b = some b' → b'.1 = b.1 ∧ b'.2 ⊆ b.2) :
    Bucketed hash (buckets.filterMap f) where
  keys := by
    have hkeys : ((buckets.filterMap f).map (·.1)).Sublist (buckets.map (·.1)) := by
      rw [List.map_filterMap]
      induction buckets with
      | nil => exact .slnil
      | cons b rest ih =>
        have ih := ih ⟨(List.nodup_cons.mp h.keys).2, fun b' hb' => h.slots b' (.tail _ hb')⟩
        cases hb : f b with
        | none => simpa [List.filterMap_cons, hb] using ih.trans (List.sublist_cons_self _ _)
        | some b' => simpa [List.filterMap_cons, hb, (hf b b' hb).1] using ih
    exact hkeys.nodup h.keys
  slots := by
    intro b' hb' i hi
    obtain ⟨b, hb, hfb⟩ := List.mem_filterMap.mp hb'
    obtain ⟨hkey, hsub⟩ := hf b b' hfb
    exact hkey ▸ h.slots b hb i (hsub hi)

/-- The bucket of a hash has the slots with that hash. -/
theorem mem_bucket_iff [BEq κ] [LawfulBEq κ] (h : Bucketed hash p.buckets) {k : κ} :
    i ∈ p.bucket k ↔ i ∈ p.slots ∧ hash i.value = k := by
  obtain ⟨retention, buckets, retained, sweepAt, lookups, hits⟩ := p
  simp only [bucket, slots] at h ⊢
  induction buckets with
  | nil => simp
  | cons b rest ih =>
    obtain ⟨key, members⟩ := b
    have hrest : Bucketed hash rest :=
      ⟨(List.nodup_cons.mp h.keys).2, fun b hb => h.slots b (.tail _ hb)⟩
    have hmem : ∀ j ∈ members, hash j.value = key := h.slots _ List.mem_cons_self
    rw [List.lookup_cons, List.flatMap_cons, List.mem_append]
    by_cases hk : k = key
    · subst hk
      -- the other buckets have other hashes
      have hother : ∀ j ∈ rest.flatMap (·.2), hash j.value ≠ k := by
        intro j hj heq
        obtain ⟨b, hb, hjb⟩ := List.mem_flatMap.mp hj
        have hkey : b.1 = k := (hrest.slots b hb j hjb).symm.trans heq
        exact (List.nodup_cons.mp h.keys).1 (List.mem_map.mpr ⟨b, hb, hkey⟩)
      simp only [beq_self_eq_true, Option.getD_some]
      exact ⟨fun hi => ⟨.inl hi, hmem i hi⟩, fun ⟨hi, heq⟩ => hi.resolve_right fun hi =>
        hother i hi heq⟩
    · have hmiss : i ∈ members → hash i.value ≠ k := fun hi heq => hk (heq ▸ hmem i hi)
      simp only [beq_false_of_ne hk, ih hrest]
      grind

theorem mem_keys_updateBucket [BEq κ] [LawfulBEq κ] {k key : κ}
    {f : List (Instance α) → List (Instance α)} {buckets : List (κ × List (Instance α))} :
    key ∈ (updateBucket k f buckets).map (·.1) ↔ key = k ∨ key ∈ buckets.map (·.1) := by
  induction buckets with
  | nil => simp [updateBucket]
  | cons b rest ih =>
    rw [updateBucket]
    split
    case isTrue hk => simp [eq_of_beq hk]
    case isFalse => simp only [List.map_cons, List.mem_cons, ih]; grind

theorem Bucketed.updateBucket [BEq κ] [LawfulBEq κ]
    {buckets : List (κ × List (Instance α))}
    (h : Bucketed hash buckets) {k : κ} {f : List (Instance α) → List (Instance α)}
    (hf : ∀ members, ∀ i ∈ f members, i ∈ members ∨ hash i.value = k) :
    Bucketed hash (updateBucket k f buckets) := by
  induction buckets with
  | nil =>
    refine ⟨by simp [CanonicalPool.updateBucket], ?_⟩
    simpa [CanonicalPool.updateBucket] using hf []
  | cons b rest ih =>
    obtain ⟨key, members⟩ := b
    obtain ⟨hkey, hkeys⟩ := List.nodup_cons.mp h.keys
    have hmem : ∀ j ∈ members, hash j.value = key := h.slots _ List.mem_cons_self
    have hrest : Bucketed hash rest := ⟨hkeys, fun b hb => h.slots b (.tail _ hb)⟩
    rw [CanonicalPool.updateBucket]
    split
    case isTrue hk =>
      obtain rfl := eq_of_beq hk
      refine ⟨h.keys, List.forall_mem_cons.mpr ⟨fun i hi => ?_, hrest.slots⟩⟩
      exact (hf members i hi).elim (hmem i) id
    case isFalse hk =>
      have hne : key ≠ k := fun heq => hk (beq_iff_eq.mpr heq)
      refine ⟨List.nodup_cons.mpr ⟨?_, (ih hrest).keys⟩,
        List.forall_mem_cons.mpr ⟨hmem, (ih hrest).slots⟩⟩
      rw [mem_keys_updateBucket]
      exact fun hmem => hmem.elim hne hkey

/-- A changed bucket changes one stretch of the slots. -/
theorem slots_updateBucket [BEq κ] (k : κ) (f : List (Instance α) → List (Instance α))
    (buckets : List (κ × List (Instance α))) :
    ∃ before members after, buckets.flatMap (·.2) = before ++ members ++ after ∧
      (updateBucket k f buckets).flatMap (·.2) = before ++ f members ++ after := by
  induction buckets with
  | nil => exact ⟨[], [], [], rfl, by simp [updateBucket]⟩
  | cons b rest ih =>
    rw [updateBucket]
    split
    case isTrue => exact ⟨[], b.2, rest.flatMap (·.2), rfl, rfl⟩
    case isFalse =>
      obtain ⟨before, members, after, hold, hnew⟩ := ih
      exact ⟨b.2 ++ before, members, after, by simp [hold], by simp [hnew]⟩

/-- Adding an instance to a bucket that loses its dead slots. -/
theorem slots_updateBucket_add [BEq κ] (k : κ) (alive : Nat → Bool) (i : Instance α)
    (buckets : List (κ × List (Instance α))) :
    ∃ kept, Trims alive (buckets.flatMap (·.2)) kept ∧
      ((updateBucket k (fun slots => slots.filter (alive ·.id) ++ [i]) buckets).flatMap
        (·.2)).Perm (i :: kept) := by
  obtain ⟨before, members, after, hold, hnew⟩ := slots_updateBucket k
    (fun slots => slots.filter (alive ·.id) ++ [i]) buckets
  refine ⟨before ++ members.filter (alive ·.id) ++ after,
    hold ▸ Trims.filter.infix_of before after, ?_⟩
  rw [hnew]
  simpa using @List.perm_middle _ i (before ++ members.filter (alive ·.id)) after

/-! ## Looking up -/

theorem find?_eq_some [BEq κ] [LawfulBEq κ] [BEq α] (h : Bucketed hash p.buckets) {v : α}
    (hfind : p.find? held (hash v) v = some i) :
    i ∈ p.slots ∧ p.isAlive held i.id ∧ (i.value == v) = true := by
  have hmem := (mem_bucket_iff h).mp (List.mem_of_find?_eq_some hfind)
  have hprop := List.find?_some hfind
  exact ⟨hmem.1, by simpa using hprop⟩

/-- Nothing found means that no living instance at all is equal: the others in
the pool have a different hash, so they differ. -/
theorem find?_eq_none [BEq κ] [LawfulBEq κ] [BEq α] (h : Bucketed hash p.buckets)
    (hcompat : ∀ a b : α, (a == b) = true → hash a = hash b) {v : α}
    (hfind : p.find? held (hash v) v = none) :
    ∀ i ∈ p.slots, p.isAlive held i.id → (i.value == v) = false := by
  intro i hi ha
  rw [Bool.eq_false_iff]
  intro heq
  have hbucket : i ∈ p.bucket (hash v) := (mem_bucket_iff h).mpr ⟨hi, hcompat _ _ heq⟩
  exact absurd (List.find?_eq_none.mp hfind i hbucket) (by simp [ha, heq])

/-! ## Sweeping and registering -/

theorem slots_sweep (held : Nat → Bool) (p : CanonicalPool κ α) :
    (p.sweep held).2.slots = p.slots.filter (p.isAlive held ·.id) := by
  obtain ⟨retention, buckets, retained, sweepAt, lookups, hits⟩ := p
  simp only [sweep, slots]
  generalize (isAlive held _ : Nat → Bool) = alive
  induction buckets with
  | nil => rfl
  | cons b rest ih =>
    rw [List.flatMap_cons, List.filter_append, ← ih]
    cases hb : b.2.filter (alive ·.id) with
    | nil => simp [hb]
    | cons j living => simp [hb]

theorem Bucketed.sweep (h : Bucketed hash p.buckets) : Bucketed hash (p.sweep held).2.buckets := by
  refine h.filterMap fun b b' hb => ?_
  dsimp only at hb
  split at hb
  case h_1 => cases hb
  case h_2 =>
    obtain rfl := Option.some.inj hb
    exact ⟨rfl, fun i hi => (List.mem_filter.mp hi).1⟩

/-- A due sweep changes the slots and the threshold, and nothing else. -/
theorem sweepIfDue_cases (held : Nat → Bool) (p : CanonicalPool κ α) :
    (p.sweepIfDue held).2 = p ∨
    ∃ sweepAt, (p.sweepIfDue held).2 = { (p.sweep held).2 with sweepAt } := by
  unfold sweepIfDue
  split
  case isTrue => exact .inr ⟨_, rfl⟩
  case isFalse => exact .inl rfl

theorem slots_sweepIfDue (held : Nat → Bool) (p : CanonicalPool κ α) :
    Trims (p.isAlive held) p.slots (p.sweepIfDue held).2.slots := by
  obtain hsame | ⟨_, hswept⟩ := p.sweepIfDue_cases held
  · rw [hsame]
    exact .refl
  · rw [hswept]
    exact p.slots_sweep held ▸ Trims.filter

theorem Bucketed.sweepIfDue (h : Bucketed hash p.buckets) :
    Bucketed hash (p.sweepIfDue held).2.buckets := by
  obtain hsame | ⟨_, hswept⟩ := p.sweepIfDue_cases held
  · exact hsame.symm ▸ h
  · exact hswept ▸ h.sweep

theorem retained_sweepIfDue (held : Nat → Bool) (p : CanonicalPool κ α) :
    (p.sweepIfDue held).2.retained = p.retained := by
  obtain hsame | ⟨_, hswept⟩ := p.sweepIfDue_cases held
  · rw [hsame]
  · rw [hswept]; rfl

theorem counts_sweepIfDue (held : Nat → Bool) (p : CanonicalPool κ α) :
    (p.sweepIfDue held).2.lookups = p.lookups ∧ (p.sweepIfDue held).2.hits = p.hits := by
  obtain hsame | ⟨_, hswept⟩ := p.sweepIfDue_cases held
  · rw [hsame]; exact ⟨rfl, rfl⟩
  · rw [hswept]; exact ⟨rfl, rfl⟩

/-- What keeping an instance alive changes: the list of those kept alive, which
gains nothing else. -/
theorem retain_cases (i : Instance α) (p : CanonicalPool κ α) :
    ∃ retained, p.retain i = { p with retained } ∧ ∀ j ∈ retained, j = i ∨ j ∈ p.retained := by
  unfold retain
  split
  case isTrue => exact ⟨p.retained, rfl, fun _ hj => .inr hj⟩
  case isFalse =>
    refine ⟨_, rfl, fun j hj => ?_⟩
    rcases List.mem_append.mp hj with hj | hj
    · split at hj
      · exact .inr (List.mem_of_mem_drop hj)
      · exact .inr hj
    · exact .inl (List.mem_singleton.mp hj)

/-- A pool `p'` in which an instance has been registered since `p`. -/
structure Registered (hash : α → κ) (held : Nat → Bool) (i : Instance α)
    (p p' : CanonicalPool κ α) : Prop where
  bucketed : Bucketed hash p'.buckets
  slots : ∃ kept, Trims (p.isAlive held) p.slots kept ∧ p'.slots.Perm (i :: kept)
  retained : ∀ j ∈ p'.retained, j = i ∨ j ∈ p.retained
  lookups : p'.lookups = p.lookups
  hits : p'.hits = p.hits

theorem registered_register [BEq κ] [LawfulBEq κ] (h : Bucketed hash p.buckets) :
    Registered hash held i p (p.register held (hash i.value) i).2 := by
  have hb : Bucketed hash (p.sweepIfDue held).2.buckets := h.sweepIfDue
  have hs : Trims (p.isAlive held) p.slots (p.sweepIfDue held).2.slots := p.slots_sweepIfDue held
  have hr := p.retained_sweepIfDue held
  have hc := p.counts_sweepIfDue held
  dsimp only [register]
  generalize (p.sweepIfDue held).2 = swept at *
  -- sweeping does not change who lives
  have halive : swept.isAlive held = p.isAlive held := by unfold isAlive; rw [hr]
  rw [halive]
  obtain ⟨retained, heq, hretained⟩ := retain_cases i { swept with
    buckets := CanonicalPool.updateBucket (hash i.value)
      (fun slots => slots.filter (p.isAlive held ·.id) ++ [i]) swept.buckets }
  rw [heq]
  refine ⟨hb.updateBucket fun members j hj => ?_, ?_, hr ▸ hretained, hc.1, hc.2⟩
  · rcases List.mem_append.mp hj with hj | hj
    · exact .inl (List.mem_filter.mp hj).1
    · exact .inr (by rw [List.mem_singleton.mp hj])
  · obtain ⟨kept, htrims, hperm⟩ :=
      slots_updateBucket_add (hash i.value) (p.isAlive held) i swept.buckets
    exact ⟨kept, hs.trans htrims, hperm⟩

/-- A lookup either finds a living equal instance and changes the counts only,
or finds that no living instance is equal and registers the one at hand. -/
theorem get_cases [BEq κ] [LawfulBEq κ] [BEq α] (held : Nat → Bool)
    (h : Bucketed hash p.buckets)
    (hcompat : ∀ a b : α, (a == b) = true → hash a = hash b) (i : Instance α) :
    (∃ j ∈ p.slots, p.isAlive held j.id ∧ (j.value == i.value) = true ∧
      (p.get held (hash i.value) i).1 = j ∧ (p.get held (hash i.value) i).2.2 =
        { p with lookups := p.lookups + 1, hits := p.hits + 1 }) ∨
    (∀ j ∈ p.slots, p.isAlive held j.id → (j.value == i.value) = false) ∧
      (p.get held (hash i.value) i).1 = i ∧
      Registered hash held i { p with lookups := p.lookups + 1 }
        (p.get held (hash i.value) i).2.2 := by
  have hb : Bucketed hash { p with lookups := p.lookups + 1 }.buckets := h
  simp only [get, countLookup]
  split
  case h_1 j hfind =>
    obtain ⟨hmem, halive, heq⟩ := find?_eq_some hb hfind
    exact .inl ⟨j, hmem, halive, heq, rfl, rfl⟩
  case h_2 hfind => exact .inr ⟨find?_eq_none hb hcompat hfind, rfl, registered_register hb⟩

end CanonicalPool

end DirectoryClient
