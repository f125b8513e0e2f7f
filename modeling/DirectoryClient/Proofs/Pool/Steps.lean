import DirectoryClient.Pool.Registry
import DirectoryClient.Proofs.Pool.Slots

/-!
# How calls change a registry

Instances are made one after another and get around only by being asked with,
given, shared, or kept alive by the pool. So an instance that has died never
lives again, and what is registered for a value can only change after its death.
`Sound` is what holds of every registry that calls lead to, and `Step` is all
that a call may change. That calls take such steps is shown once for each kind of
call; that soundness is kept is then a matter of steps alone.
-/

namespace DirectoryClient

namespace Registry

variable {κ α : Type}

/-! ## Calls -/

/-- What can be done with a pool and what is held outside it. -/
inductive Call (α : Type)
  /-- Looks a new value up; what is given goes to a holder, if one is named. -/
  | get (value : α) (holder : Option String)
  /-- Looks the value of an instance up that someone holds. -/
  | getHeld (source : String) (holder : Option String)
  /-- Makes an instance without asking the pool. -/
  | make (value : α) (holder : String)
  /-- Gives what one holder has to another one too. -/
  | share (source holder : String)
  | drop (holder : String)
  | purge
  | release

/-- Makes a call. For a lookup, tells the instance asked with and the one given. -/
def perform [BEq κ] [BEq α] (hash : α → κ) (r : Registry κ α) :
    Call α → Option (Instance α × Instance α) × Registry κ α
  | .get value holder =>
      let (given, _, r') := r.getNew hash value holder
      (some ((r.make value).1, given), r')
  | .getHeld source holder =>
      match r.holding? source with
      | none => (none, r)
      | some i =>
          let (given, _, r') := r.get hash i holder
          (some (i, given), r')
  | .make value holder =>
      let (i, r) := r.make value
      (none, r.hold holder i)
  | .share source holder =>
      match r.holding? source with
      | none => (none, r)
      | some i => (none, r.hold holder i)
  | .drop holder => (none, (r.drop holder).2)
  | .purge => (none, r.purge.2)
  | .release => (none, r.release.2)

/-! ## What is around -/

/-- Whether an instance lives, held outside or kept alive by the pool. -/
def isAlive (r : Registry κ α) (id : Nat) : Bool := r.pool.isAlive r.isHeld id

/-- The living registered instances. -/
def registered (r : Registry κ α) : List (Instance α) := r.pool.slots.filter (r.isAlive ·.id)

/-- The references that keep instances alive. -/
def strong (r : Registry κ α) : List (Instance α) := r.pool.retained ++ r.holders.map (·.2)

/-- All instances that the registry knows of, dead ones too. -/
def known (r : Registry κ α) : List (Instance α) := r.strong ++ r.pool.slots

section

variable {hash : α → κ} {r r' : Registry κ α} {i : Instance α}

theorem isAlive_iff {id : Nat} : r.isAlive id = true ↔ ∃ i ∈ r.strong, i.id = id := by
  simp only [isAlive, CanonicalPool.isAlive, isHeld, strong, Bool.or_eq_true, List.any_eq_true,
    beq_iff_eq, List.mem_append, List.mem_map]
  constructor
  · rintro (⟨h, hh, hid⟩ | ⟨i, hi, hid⟩)
    · exact ⟨h.2, .inr ⟨h, hh, rfl⟩, hid⟩
    · exact ⟨i, .inl hi, hid⟩
  · rintro ⟨i, hi | ⟨h, hh, rfl⟩, hid⟩
    · exact .inr ⟨i, hi, hid⟩
    · exact .inl ⟨h, hh, hid⟩

theorem mem_registered : i ∈ r.registered ↔ i ∈ r.pool.slots ∧ r.isAlive i.id = true := by
  simp [registered]

theorem mem_strong_of_holding? {source : String} (h : r.holding? source = some i) :
    i ∈ r.strong := by
  obtain ⟨l₁, l₂, heq, -⟩ := List.lookup_eq_some_iff.mp h
  simp [strong, heq]

theorem mem_strong_hold {name : String} {j : Instance α} (h : i ∈ (r.hold name j).strong) :
    i = j ∨ i ∈ r.strong := by
  simp only [strong, hold, List.map_cons, List.mem_append, List.mem_cons, List.mem_map,
    List.mem_filter] at h ⊢
  grind

variable [BEq α]

/-- What the registry knows is consistent: slots are in their buckets, living
instances registered for equal values are the same, and so are all with the same
identity. -/
structure Sound (hash : α → κ) (r : Registry κ α) : Prop where
  bucketed : CanonicalPool.Bucketed hash r.pool.buckets
  unique : ∀ i ∈ r.registered, ∀ j ∈ r.registered, (i.value == j.value) = true → i = j
  distinct : (r.pool.slots.map (·.id)).Nodup
  made : ∀ i ∈ r.known, i.id < r.made
  same : ∀ i ∈ r.known, ∀ j ∈ r.known, i.id = j.id → i = j

/-- How a registry may change by a call. There may be an instance at hand, which
had a reference before or is new; nothing else gets any. The slots lose only
dead instances, and the instance at hand may get one, if no living instance is
equal. -/
structure Step (hash : α → κ) (hand new : Option (Instance α)) (r r' : Registry κ α) : Prop where
  made : r.made ≤ r'.made
  origin : ∀ i ∈ hand, i ∈ r.strong ∨ i.id = r.made ∧ r.made < r'.made
  strong : ∀ i ∈ r'.strong, i ∈ hand ∨ i ∈ r.strong
  bucketed : CanonicalPool.Bucketed hash r'.pool.buckets
  slots : ∃ kept, Trims r.isAlive r.pool.slots kept ∧ r'.pool.slots.Perm (new.toList ++ kept)
  unmatched : ∀ i ∈ new, i ∈ hand ∧ ∀ j ∈ r.registered, (j.value == i.value) = false

theorem sound_new (retention : Nat) : Sound hash (new retention : Registry κ α) := by
  refine ⟨CanonicalPool.bucketed_nil, ?_, .nil, ?_, ?_⟩ <;>
    simp [new, CanonicalPool.new, registered, known, strong, CanonicalPool.slots]

namespace Step

variable {hand new : Option (Instance α)}

/-- The dead stay dead. -/
theorem isAlive_of (h : Step hash hand new r r') {id : Nat} (hid : id < r.made)
    (ha : r'.isAlive id) : r.isAlive id := by
  obtain ⟨i, hi, rfl⟩ := isAlive_iff.mp ha
  rcases h.strong i hi with hhand | hi
  · rcases h.origin i hhand with hi | ⟨heq, -⟩
    · exact isAlive_iff.mpr ⟨i, hi, rfl⟩
    · omega
  · exact isAlive_iff.mpr ⟨i, hi, rfl⟩

theorem known (h : Step hash hand new r r') (hi : i ∈ r'.known) : i ∈ hand ∨ i ∈ r.known := by
  rcases List.mem_append.mp hi with hi | hi
  · exact (h.strong i hi).imp_right (List.mem_append_left _)
  · obtain ⟨kept, htrims, hperm⟩ := h.slots
    rcases List.mem_append.mp (hperm.mem_iff.mp hi) with hi | hi
    · exact .inl (h.unmatched i (Option.mem_toList.mp hi)).1
    · exact .inr (List.mem_append_right _ (htrims.sublist.subset hi))

/-- The instance at hand is known or new. -/
theorem hand_cases (h : Step hash hand new r r') (hi : i ∈ hand) :
    i ∈ r.known ∨ i.id = r.made ∧ r.made < r'.made :=
  (h.origin i hi).imp_left (List.mem_append_left _)

theorem lt_made (h : Step hash hand new r r') (hs : Sound hash r)
    (hi : i ∈ hand ∨ i ∈ r.known) : i.id < r'.made := by
  have hold : i ∈ r.known → i.id < r'.made := fun hi =>
    Nat.lt_of_lt_of_le (hs.made i hi) h.made
  rcases hi with hhand | hi
  · rcases h.hand_cases hhand with hi | ⟨heq, hlt⟩
    · exact hold hi
    · omega
  · exact hold hi

/-- Registered instances stay so as long as they live, and the only other one
may be the instance that got a slot. -/
theorem registered (h : Step hash hand new r r') (hs : Sound hash r) :
    r'.registered.Perm ((new.toList ++ r.registered).filter (r'.isAlive ·.id)) := by
  obtain ⟨kept, htrims, hperm⟩ := h.slots
  have hbound : ∀ i ∈ r.pool.slots, r'.isAlive i.id → r.isAlive i.id := fun i hi =>
    h.isAlive_of (hs.made i (List.mem_append_right _ hi))
  have hkept := htrims.living_of_imp hbound
  have hold : r.registered.filter (r'.isAlive ·.id) = r.pool.slots.filter (r'.isAlive ·.id) :=
    Trims.filter.living_of_imp hbound
  rw [List.filter_append, hold, ← hkept, ← List.filter_append]
  exact hperm.filter _

/-- Nothing at hand is confused with anything known. -/
theorem same (h : Step hash hand new r r') (hs : Sound hash r) {j : Instance α}
    (hi : i ∈ r'.known) (hj : j ∈ r'.known) (heq : i.id = j.id) : i = j := by
  have hcases : ∀ {i}, i ∈ r'.known → i ∈ r.known ∨ i ∈ hand ∧ i.id = r.made := fun hi =>
    (h.known hi).elim (fun hhand => (h.hand_cases hhand).imp_right fun hnew => ⟨hhand, hnew.1⟩)
      .inl
  rcases hcases hi with hik | ⟨hih, hinew⟩ <;> rcases hcases hj with hjk | ⟨hjh, hjnew⟩
  · exact hs.same i hik j hjk heq
  · have := hs.made i hik
    omega
  · have := hs.made j hjk
    omega
  · exact Option.mem_unique hih hjh

/-- The instance that gets a slot is not among those known to be registered. -/
theorem not_registered [ReflBEq α] (h : Step hash hand new r r') (hs : Sound hash r)
    (hi : i ∈ new) {j : Instance α} (hj : j ∈ r.registered) : j.id ≠ i.id := by
  intro heq
  obtain ⟨hhand, hdiffer⟩ := h.unmatched i hi
  have hjk : j ∈ r.known := List.mem_append_right _ (mem_registered.mp hj).1
  rcases h.hand_cases hhand with hik | ⟨hnew, -⟩
  · have := hdiffer j hj
    simp [hs.same j hjk i hik heq] at this
  · have := hs.made j hjk
    omega

theorem distinct [ReflBEq α] (h : Step hash hand new r r') (hs : Sound hash r) :
    (r'.pool.slots.map (·.id)).Nodup := by
  obtain ⟨kept, htrims, hperm⟩ := h.slots
  rw [(hperm.map (·.id)).nodup_iff]
  have hkept : (kept.map (·.id)).Nodup := (htrims.sublist.map _).nodup hs.distinct
  cases hnew : new with
  | none => exact hkept
  | some i =>
    refine List.nodup_cons.mpr ⟨fun hmem => ?_, hkept⟩
    obtain ⟨j, hj, heq⟩ := List.mem_map.mp hmem
    have hslot := htrims.sublist.subset hj
    have hjk : j ∈ r.known := List.mem_append_right _ hslot
    -- a slot with the identity of the instance at hand makes that one registered
    rcases h.origin i (h.unmatched i hnew).1 with hi | ⟨hmade, -⟩
    · have hj : j ∈ r.registered := mem_registered.mpr ⟨hslot, isAlive_iff.mpr ⟨i, hi, heq.symm⟩⟩
      exact h.not_registered hs hnew hj heq
    · have := hs.made j hjk
      dsimp only at heq
      omega

theorem unique [EquivBEq α] (h : Step hash hand new r r') (hs : Sound hash r) {j : Instance α}
    (hi : i ∈ r'.registered) (hj : j ∈ r'.registered) (heq : (i.value == j.value) = true) :
    i = j := by
  have hcases : ∀ {i}, i ∈ r'.registered → i ∈ new ∨ i ∈ r.registered := fun {i} hi => by
    simpa using (List.mem_filter.mp ((h.registered hs).mem_iff.mp hi)).1
  rcases hcases hi with hin | hir <;> rcases hcases hj with hjn | hjr
  · exact Option.mem_unique hin hjn
  · have := (h.unmatched i hin).2 j hjr
    simp [BEq.symm heq] at this
  · have := (h.unmatched j hjn).2 i hir
    simp [heq] at this
  · exact hs.unique i hir j hjr heq

theorem sound [EquivBEq α] (h : Step hash hand new r r') (hs : Sound hash r) :
    Sound hash r' where
  bucketed := h.bucketed
  unique _ hi _ hj := h.unique hs hi hj
  distinct := h.distinct hs
  made _ hi := h.lt_made hs (h.known hi)
  same _ hi _ hj := h.same hs hi hj

end Step

/-! ## What a call does -/

/-- What a call tells, and the registry it leaves: it is no lookup, or a lookup
that gives a registered instance, or one that registers what it asks with. -/
inductive Outcome (hash : α → κ) (r : Registry κ α) :
    Option (Instance α × Instance α) × Registry κ α → Prop
  | quiet {hand : Option (Instance α)} {r' : Registry κ α} :
      Step hash hand none r r' → r'.pool.lookups = r.pool.lookups →
      r'.pool.hits = r.pool.hits → Outcome hash r (none, r')
  | hit {asked given : Instance α} {r' : Registry κ α} :
      given ∈ r.registered → (given.value == asked.value) = true →
      Step hash (some given) none r r' → r'.pool.lookups = r.pool.lookups + 1 →
      r'.pool.hits = r.pool.hits + 1 → Outcome hash r (some (asked, given), r')
  | miss {asked : Instance α} {r' : Registry κ α} :
      (∀ j ∈ r.registered, (j.value == asked.value) = false) →
      Step hash (some asked) (some asked) r r' → r'.pool.lookups = r.pool.lookups + 1 →
      r'.pool.hits = r.pool.hits → Outcome hash r (some (asked, asked), r')

/-- A lookup in its surroundings is one in the pool, and whom to give the result
to matters for nothing but the references. -/
theorem get_spec [BEq κ] (hash : α → κ) (r : Registry κ α) (made : Nat) (i : Instance α)
    (holder : Option String) :
    ({ r with made }.get hash i holder).1 = (r.pool.get r.isHeld (hash i.value) i).1 ∧
      ({ r with made }.get hash i holder).2.2.pool =
        (r.pool.get r.isHeld (hash i.value) i).2.2 ∧
      ({ r with made }.get hash i holder).2.2.made = made ∧
      ∀ j ∈ ({ r with made }.get hash i holder).2.2.strong,
        j = (r.pool.get r.isHeld (hash i.value) i).1 ∨
          j ∈ (r.pool.get r.isHeld (hash i.value) i).2.2.retained ∨
            j ∈ r.holders.map (·.2) := by
  cases holder with
  | none => exact ⟨rfl, rfl, rfl, fun j hj => .inr (List.mem_append.mp hj)⟩
  | some name =>
    exact ⟨rfl, rfl, rfl, fun j hj => (mem_strong_hold hj).imp_right List.mem_append.mp⟩

theorem Sound.mem_strong (hs : Sound hash r) (hi : i ∈ r.registered) : i ∈ r.strong := by
  obtain ⟨hslot, halive⟩ := mem_registered.mp hi
  obtain ⟨j, hj, heq⟩ := isAlive_iff.mp halive
  exact hs.same j (List.mem_append_left _ hj) i (List.mem_append_right _ hslot) heq ▸ hj

theorem get_outcome [BEq κ] [LawfulBEq κ]
    (hcompat : ∀ a b : α, (a == b) = true → hash a = hash b) (hs : Sound hash r) {made : Nat}
    (hmade : r.made ≤ made) (hi : i ∈ r.strong ∨ i.id = r.made ∧ r.made < made)
    (holder : Option String) :
    Outcome hash r (some (i, ({ r with made }.get hash i holder).1),
      ({ r with made }.get hash i holder).2.2) := by
  obtain ⟨hgiven, hpool, hmade', hstrong⟩ := get_spec hash r made i holder
  generalize { r with made }.get hash i holder = answer at *
  obtain ⟨given, _, r'⟩ := answer
  dsimp only at hgiven hpool hmade' hstrong ⊢
  have hget := CanonicalPool.get_cases r.isHeld hs.bucketed hcompat i
  rw [← hgiven, ← hpool] at hget hstrong
  obtain ⟨_, hj, halive, heq, rfl, hp⟩ | ⟨hnone, rfl, hreg⟩ := hget
  · have hgr : given ∈ r.registered := mem_registered.mpr ⟨hj, halive⟩
    rw [hp] at hstrong
    refine .hit hgr heq ?_ (hp ▸ rfl) (hp ▸ rfl)
    exact {
      made := hmade' ▸ hmade
      origin := fun k hk => .inl (Option.mem_some.mp hk ▸ hs.mem_strong hgr)
      strong := fun k hk => (hstrong k hk).imp (Option.mem_some.mpr ·.symm) List.mem_append.mpr
      bucketed := hp ▸ hs.bucketed
      slots := ⟨r.pool.slots, .refl, hp ▸ .refl _⟩
      unmatched := nofun }
  · have hdiffer : ∀ j ∈ r.registered, (j.value == given.value) = false := fun j hj =>
      hnone j (mem_registered.mp hj).1 (mem_registered.mp hj).2
    refine .miss hdiffer ?_ hreg.lookups hreg.hits
    exact {
      made := hmade' ▸ hmade
      origin := fun k hk => by
        rw [← Option.mem_some.mp hk, hmade']
        exact hi
      strong := fun k hk => by
        rcases hstrong k hk with rfl | hk | hk
        · exact .inl rfl
        · exact (hreg.retained k hk).imp (Option.mem_some.mpr ·.symm) (List.mem_append_left _)
        · exact .inr (List.mem_append_right _ hk)
      bucketed := hreg.bucketed
      slots := hreg.slots
      unmatched := fun k hk => by
        rw [← Option.mem_some.mp hk]
        exact ⟨rfl, hdiffer⟩ }

/-- Handing an instance to someone is no lookup. -/
theorem hold_outcome (hs : Sound hash r) {made : Nat} (hmade : r.made ≤ made)
    (hi : i ∈ r.strong ∨ i.id = r.made ∧ r.made < made) (name : String) :
    Outcome hash r (none, { r with made }.hold name i) := by
  have hstep : Step hash (some i) none r ({ r with made }.hold name i) :=
    { made := hmade
      origin := fun _ hk => Option.mem_some.mp hk ▸ hi
      strong := fun _ hk => (mem_strong_hold hk).imp_left (Option.mem_some.mpr ·.symm)
      bucketed := hs.bucketed
      slots := ⟨r.pool.slots, .refl, .refl _⟩
      unmatched := nofun }
  exact .quiet hstep rfl rfl

/-- Nor is letting go of references, or of slots of dead instances. -/
theorem release_outcome {pool : CanonicalPool κ α} {holders : List (String × Instance α)}
    (hretained : pool.retained ⊆ r.pool.retained) (hholders : holders ⊆ r.holders)
    (hb : CanonicalPool.Bucketed hash pool.buckets)
    (hslots : Trims r.isAlive r.pool.slots pool.slots)
    (hlookups : pool.lookups = r.pool.lookups) (hhits : pool.hits = r.pool.hits) :
    Outcome hash r (none, ⟨pool, holders, r.made⟩) := by
  have hstep : Step hash none none r ⟨pool, holders, r.made⟩ :=
    { made := Nat.le_refl _
      origin := nofun
      strong := fun _ hk => .inr <| (List.mem_append.mp hk).elim
        (fun hk => List.mem_append_left _ (hretained hk))
        fun hk => List.mem_append_right _ (List.map_subset _ hholders hk)
      bucketed := hb
      slots := ⟨pool.slots, hslots, .refl _⟩
      unmatched := nofun }
  exact .quiet hstep hlookups hhits

/-- Every call takes a step from a sound registry. -/
theorem perform_outcome [BEq κ] [LawfulBEq κ]
    (hcompat : ∀ a b : α, (a == b) = true → hash a = hash b) (hs : Sound hash r)
    (c : Call α) : Outcome hash r (r.perform hash c) := by
  have hstay : Outcome hash r (none, r) :=
    release_outcome (List.Subset.refl _) (List.Subset.refl _) hs.bucketed .refl rfl rfl
  cases c with
  | get value holder =>
    exact get_outcome hcompat hs (Nat.le_succ _) (.inr ⟨rfl, Nat.lt_succ_self _⟩) holder
  | getHeld source holder =>
    rw [perform]
    split
    case h_1 => exact hstay
    case h_2 i hi =>
      exact get_outcome hcompat hs (Nat.le_refl r.made) (.inl (mem_strong_of_holding? hi)) holder
  | make value holder =>
    exact hold_outcome hs (Nat.le_succ _) (.inr ⟨rfl, Nat.lt_succ_self _⟩) holder
  | share source holder =>
    rw [perform]
    split
    case h_1 => exact hstay
    case h_2 i hi =>
      exact hold_outcome hs (Nat.le_refl r.made) (.inl (mem_strong_of_holding? hi)) holder
  | drop holder =>
    exact release_outcome (List.Subset.refl _) List.filter_sublist.subset hs.bucketed .refl rfl rfl
  | purge =>
    refine release_outcome (List.Subset.refl _) (List.Subset.refl _) hs.bucketed.sweep ?_ rfl rfl
    exact r.pool.slots_sweep r.isHeld ▸ Trims.filter
  | release =>
    exact release_outcome (List.nil_subset _) (List.Subset.refl _) hs.bucketed .refl rfl rfl

end

end Registry

end DirectoryClient
