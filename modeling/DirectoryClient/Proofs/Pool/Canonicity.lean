import DirectoryClient.Proofs.Pool.Steps

/-!
# One living instance for equal values

Whatever is asked of a canonical pool, in whatever order, and whoever holds its
instances for however long, lookups behave as those of a plain table from values
to instances, from which an entry vanishes when its instance dies. The slots of
the dead, when they are cleared away, and how values spread over buckets cannot
be told from outside.

The table is read off the lookups of a run: those that gave an instance which
was not registered have registered it, and of these the living ones are what the
pool holds.
-/

namespace DirectoryClient

namespace Registry

variable {κ α : Type}

/-! ## Runs and their lookups -/

/-- A lookup of a run, with the registry before it and after it. -/
structure Lookup (κ α : Type) where
  before : Registry κ α
  asked : Instance α
  given : Instance α
  after : Registry κ α

section

variable [BEq κ] [BEq α]

/-- The registry after some calls. -/
def run (hash : α → κ) (r : Registry κ α) (calls : List (Call α)) : Registry κ α :=
  calls.foldl (fun r c => (r.perform hash c).2) r

/-- The lookup that a call is, if it is one. -/
def lookup? (hash : α → κ) (r : Registry κ α) (c : Call α) : Option (Lookup κ α) :=
  let (lookup, after) := r.perform hash c
  lookup.map fun (asked, given) => ⟨r, asked, given, after⟩

/-- The lookups of a run, in order. -/
def lookups (hash : α → κ) (r : Registry κ α) : List (Call α) → List (Lookup κ α)
  | [] => []
  | c :: calls => (r.lookup? hash c).toList ++ lookups hash (r.perform hash c).2 calls

end

/-- Whether a lookup gave an instance that was registered already. -/
def Lookup.isHit (l : Lookup κ α) : Bool := l.before.registered.any (·.id == l.given.id)

/-- The instances that lookups registered, in order. -/
def registrations (history : List (Lookup κ α)) : List (Instance α) :=
  (history.filter fun l => !l.isHit).map (·.given)

/-- A lookup gives the living registered instance that is equal to what it asks
with; if there is none, it registers and gives what it asks with. -/
structure Lookup.Canonical [BEq α] (l : Lookup κ α) : Prop where
  found : ∀ i ∈ l.before.registered, (i.value == l.asked.value) = true → l.given = i
  missed : (∀ i ∈ l.before.registered, (i.value == l.asked.value) = false) →
    l.given = l.asked ∧ l.asked ∈ l.after.pool.slots

theorem registrations_append (h₁ h₂ : List (Lookup κ α)) :
    registrations (h₁ ++ h₂) = registrations h₁ ++ registrations h₂ := by
  simp [registrations]

theorem length_registrations (history : List (Lookup κ α)) :
    (registrations history).length = history.length - history.countP Lookup.isHit := by
  have := history.length_eq_countP_add_countP Lookup.isHit
  simp only [registrations, List.length_map, ← List.countP_eq_length_filter]
  simp at this
  omega

/-! ## What a run does -/

section

variable [BEq α] {hash : α → κ} {r r' : Registry κ α} {i : Instance α}

/-- Lookups happen where a part of the run has led. -/
theorem before_of_mem_lookups [BEq κ] {calls : List (Call α)} {l : Lookup κ α}
    (hl : l ∈ r.lookups hash calls) : ∃ first, l.before = r.run hash first := by
  induction calls generalizing r with
  | nil => nomatch hl
  | cons c calls ih =>
    rcases List.mem_append.mp hl with hl | hl
    · refine ⟨[], ?_⟩
      obtain ⟨_, -, rfl⟩ := Option.map_eq_some_iff.mp (Option.mem_toList.mp hl)
      rfl
    · obtain ⟨first, heq⟩ := ih hl
      exact ⟨c :: first, heq⟩

section

variable [BEq κ] [LawfulBEq κ] [EquivBEq α]

/-- A call as a step, with its lookup accounted for. -/
theorem perform_spec (hcompat : ∀ a b : α, (a == b) = true → hash a = hash b)
    (hs : Sound hash r) (c : Call α) :
    (∀ l ∈ r.lookup? hash c, l.Canonical) ∧
      (r.perform hash c).2.pool.lookups =
        r.pool.lookups + (r.lookup? hash c).toList.length ∧
      (r.perform hash c).2.pool.hits =
        r.pool.hits + (r.lookup? hash c).toList.countP Lookup.isHit ∧
      ∃ hand new, Step hash hand new r (r.perform hash c).2 ∧
        registrations (r.lookup? hash c).toList = new.toList := by
  have houtcome := perform_outcome hcompat hs c
  unfold lookup?
  generalize r.perform hash c = answer at houtcome
  cases houtcome with
  | quiet hstep hlookups hhits =>
    exact ⟨nofun, hlookups, hhits, _, none, hstep, rfl⟩
  | @hit asked given r' hgiven heq hstep hlookups hhits =>
    have hhit : Lookup.isHit ⟨r, asked, given, r'⟩ = true :=
      List.any_eq_true.mpr ⟨given, hgiven, beq_self_eq_true _⟩
    refine ⟨?_, hlookups, ?_, _, none, hstep, ?_⟩
    · rintro _ ⟨⟩
      refine ⟨fun i hi hia => ?_, fun hnone => ?_⟩
      · exact hs.unique given hgiven i hi (BEq.trans heq (BEq.symm hia))
      · exact absurd heq (by simp [hnone given hgiven])
    · simp [hhits, hhit]
    · simp [registrations, hhit]
  | @miss asked r' hdiffer hstep hlookups hhits =>
    have hhit : Lookup.isHit ⟨r, asked, asked, r'⟩ = false := by
      rw [Bool.eq_false_iff]
      intro hany
      obtain ⟨j, hj, heq⟩ := List.any_eq_true.mp hany
      exact hstep.not_registered hs rfl hj (beq_iff_eq.mp heq)
    refine ⟨?_, hlookups, ?_, _, some asked, hstep, ?_⟩
    · rintro _ ⟨⟩
      refine ⟨fun i hi hia => absurd hia (by simp [hdiffer i hi]), fun _ => ⟨rfl, ?_⟩⟩
      obtain ⟨kept, -, hperm⟩ := hstep.slots
      exact hperm.mem_iff.mpr List.mem_cons_self
    · simp [hhits, hhit]
    · simp [registrations, hhit]

theorem sound_perform (hcompat : ∀ a b : α, (a == b) = true → hash a = hash b)
    (hs : Sound hash r) (c : Call α) : Sound hash (r.perform hash c).2 :=
  have ⟨_, _, _, _, _, hstep, _⟩ := perform_spec hcompat hs c
  hstep.sound hs

theorem sound_run (hcompat : ∀ a b : α, (a == b) = true → hash a = hash b)
    (hs : Sound hash r) (calls : List (Call α)) : Sound hash (r.run hash calls) := by
  induction calls generalizing r with
  | nil => exact hs
  | cons c calls ih => exact ih (sound_perform hcompat hs c)

/-- The dead stay dead. -/
theorem isAlive_of_run (hcompat : ∀ a b : α, (a == b) = true → hash a = hash b)
    (hs : Sound hash r) (calls : List (Call α)) {id : Nat} (hid : id < r.made)
    (ha : (r.run hash calls).isAlive id) : r.isAlive id := by
  induction calls generalizing r with
  | nil => exact ha
  | cons c calls ih =>
    obtain ⟨-, -, -, _, _, hstep, -⟩ := perform_spec hcompat hs c
    exact hstep.isAlive_of hid
      (ih (hstep.sound hs) (Nat.lt_of_lt_of_le hid hstep.made) ha)

theorem lookups_run (hcompat : ∀ a b : α, (a == b) = true → hash a = hash b)
    (hs : Sound hash r) (calls : List (Call α)) :
    (r.run hash calls).pool.lookups = r.pool.lookups + (r.lookups hash calls).length := by
  induction calls generalizing r with
  | nil => rfl
  | cons c calls ih =>
    obtain ⟨-, hcount, -⟩ := perform_spec hcompat hs c
    rw [lookups, List.length_append, ← Nat.add_assoc, ← hcount]
    exact ih (sound_perform hcompat hs c)

theorem hits_run (hcompat : ∀ a b : α, (a == b) = true → hash a = hash b)
    (hs : Sound hash r) (calls : List (Call α)) :
    (r.run hash calls).pool.hits =
      r.pool.hits + (r.lookups hash calls).countP Lookup.isHit := by
  induction calls generalizing r with
  | nil => rfl
  | cons c calls ih =>
    obtain ⟨-, -, hcount, -⟩ := perform_spec hcompat hs c
    rw [lookups, List.countP_append, ← Nat.add_assoc, ← hcount]
    exact ih (sound_perform hcompat hs c)

theorem canonical_of_mem_lookups (hcompat : ∀ a b : α, (a == b) = true → hash a = hash b)
    (hs : Sound hash r) (calls : List (Call α)) :
    ∀ l ∈ r.lookups hash calls, l.Canonical := by
  induction calls generalizing r with
  | nil => nofun
  | cons c calls ih =>
    intro l hl
    rcases List.mem_append.mp hl with hl | hl
    · exact (perform_spec hcompat hs c).1 l (Option.mem_toList.mp hl)
    · exact ih (sound_perform hcompat hs c) l hl

/-- The living registered instances are those that were registered when the run
began or by one of its lookups, and live. -/
theorem registered_run (hcompat : ∀ a b : α, (a == b) = true → hash a = hash b)
    (hs : Sound hash r) (calls : List (Call α)) :
    (r.run hash calls).registered.Perm
      ((r.registered ++ registrations (r.lookups hash calls)).filter
        ((r.run hash calls).isAlive ·.id)) := by
  induction calls generalizing r with
  | nil => simp [lookups, registrations, run, registered]
  | cons c calls ih =>
    obtain ⟨-, -, -, hand, new, hstep, hnew⟩ := perform_spec hcompat hs c
    have hs' := hstep.sound hs
    refine (ih hs').trans ?_
    rw [lookups, registrations_append, hnew, ← List.append_assoc, List.filter_append,
      List.filter_append]
    refine List.Perm.append_right _ ?_
    -- whoever lives at the end lives after the first call
    have hlives : ∀ i ∈ new.toList ++ r.registered,
        (r.run hash (c :: calls)).isAlive i.id → (r.perform hash c).2.isAlive i.id := by
      intro i hi
      refine isAlive_of_run hcompat hs' calls (hstep.lt_made hs ?_)
      exact (List.mem_append.mp hi).imp (fun hi => (hstep.unmatched i (Option.mem_toList.mp hi)).1)
        fun hi => List.mem_append_right _ (mem_registered.mp hi).1
    exact ((hstep.registered hs).filter _).trans
      ((Trims.filter.living_of_imp hlives) ▸ List.perm_append_comm.filter _)

/-- What a run registers is new, or at least not among what was registered. -/
theorem registrations_fresh (hcompat : ∀ a b : α, (a == b) = true → hash a = hash b)
    (hs : Sound hash r) (calls : List (Call α)) :
    ∀ i ∈ registrations (r.lookups hash calls), i.id < r.made →
      r.isAlive i.id ∧ ∀ j ∈ r.registered, j.id ≠ i.id := by
  induction calls generalizing r with
  | nil => nofun
  | cons c calls ih =>
    intro i hi hmade
    obtain ⟨-, -, -, hand, new, hstep, hnew⟩ := perform_spec hcompat hs c
    rw [lookups, registrations_append, hnew] at hi
    rcases List.mem_append.mp hi with hi | hi
    · have hi := Option.mem_toList.mp hi
      refine ⟨?_, fun j hj => hstep.not_registered hs hi hj⟩
      rcases hstep.origin i (hstep.unmatched i hi).1 with hi | ⟨heq, -⟩
      · exact isAlive_iff.mpr ⟨i, hi, rfl⟩
      · omega
    · obtain ⟨halive, hnot⟩ :=
        ih (hstep.sound hs) i hi (Nat.lt_of_lt_of_le hmade hstep.made)
      refine ⟨hstep.isAlive_of hmade halive, fun j hj heq => hnot j ?_ heq⟩
      refine (hstep.registered hs).mem_iff.mpr (List.mem_filter.mpr ⟨?_, heq ▸ halive⟩)
      exact List.mem_append_right _ hj

/-- No instance is registered twice. -/
theorem nodup_registrations (hcompat : ∀ a b : α, (a == b) = true → hash a = hash b)
    (hs : Sound hash r) (calls : List (Call α)) :
    ((registrations (r.lookups hash calls)).map (·.id)).Nodup := by
  induction calls generalizing r with
  | nil => exact .nil
  | cons c calls ih =>
    obtain ⟨-, -, -, hand, new, hstep, hnew⟩ := perform_spec hcompat hs c
    have hs' := hstep.sound hs
    rw [lookups, registrations_append, hnew]
    cases new with
    | none => exact ih hs'
    | some i =>
      refine List.nodup_cons.mpr ⟨fun hmem => ?_, ih hs'⟩
      obtain ⟨j, hj, heq⟩ := List.mem_map.mp hmem
      have hmade : i.id < (r.perform hash c).2.made :=
        hstep.lt_made hs (.inl (hstep.unmatched i rfl).1)
      obtain ⟨halive, hnot⟩ := registrations_fresh hcompat hs' calls j hj (heq ▸ hmade)
      refine hnot i ?_ heq.symm
      refine (hstep.registered hs).mem_iff.mpr (List.mem_filter.mpr ⟨?_, ?_⟩)
      · exact List.mem_cons_self
      · exact (show j.id = i.id from heq) ▸ halive

/-- An instance stays registered for life. -/
theorem mem_registered_run (hcompat : ∀ a b : α, (a == b) = true → hash a = hash b)
    (hs : Sound hash r) (calls : List (Call α)) (hi : i ∈ r.registered)
    (ha : (r.run hash calls).isAlive i.id) : i ∈ (r.run hash calls).registered :=
  (registered_run hcompat hs calls).mem_iff.mpr
    (List.mem_filter.mpr ⟨List.mem_append_left _ hi, ha⟩)

end

end

/-- Whatever is done with a new pool, and however hashes collide as long as equal
values have the same: living registered instances are not equal, and they are
those among the instances that lookups registered, none of them twice, that live.
Lookups give the living registered instance that is equal to what they ask with,
or register that. An instance once registered stays so and is given for all equal
values as long as it lives. The pool counts the living registered instances, the
lookups, and those that gave an instance which was registered already; all others
registered one. -/
theorem run_canonical {κ α : Type} [BEq κ] [LawfulBEq κ] [BEq α] [EquivBEq α] (hash : α → κ)
    (hcompat : ∀ a b : α, (a == b) = true → hash a = hash b) (retention : Nat)
    (calls : List (Call α)) :
    let r := (new retention : Registry κ α).run hash calls
    let history := (new retention : Registry κ α).lookups hash calls
    (∀ i ∈ r.registered, ∀ j ∈ r.registered, (i.value == j.value) = true → i = j) ∧
      r.registered.Perm ((registrations history).filter (r.isAlive ·.id)) ∧
      ((registrations history).map (·.id)).Nodup ∧
      (∀ l ∈ history, l.Canonical) ∧
      (∀ i ∈ r.registered, ∀ more : List (Call α),
        ((r.run hash more).isAlive i.id → i ∈ (r.run hash more).registered) ∧
          ∀ l ∈ r.lookups hash more, l.before.isAlive i.id →
            (l.asked.value == i.value) = true → l.given = i) ∧
      r.size = r.registered.length ∧
      r.pool.lookups = history.length ∧
      r.pool.hits = history.countP Lookup.isHit ∧
      r.pool.lookups - r.pool.hits = (registrations history).length := by
  intro r history
  have hs : Sound hash (new retention : Registry κ α) := sound_new retention
  have hr : Sound hash r := sound_run hcompat hs calls
  have hlookups : r.pool.lookups = history.length :=
    (lookups_run hcompat hs calls).trans (Nat.zero_add _)
  have hhits : r.pool.hits = history.countP Lookup.isHit :=
    (hits_run hcompat hs calls).trans (Nat.zero_add _)
  refine ⟨hr.unique, registered_run hcompat hs calls, nodup_registrations hcompat hs calls,
    canonical_of_mem_lookups hcompat hs calls, fun i hi more => ⟨mem_registered_run hcompat hr
      more hi, fun l hl halive heq => ?_⟩, List.countP_eq_length_filter, hlookups, hhits, ?_⟩
  · obtain ⟨first, hfirst⟩ := before_of_mem_lookups hl
    have hbefore : i ∈ l.before.registered := by
      rw [hfirst] at halive ⊢
      exact mem_registered_run hcompat hr first hi halive
    exact (canonical_of_mem_lookups hcompat hr more l hl).found i hbefore (BEq.symm heq)
  · rw [hlookups, hhits, length_registrations]

/-- All values in one bucket: what is held outside survives the release, what is
not does not, and asking again finds the one and registers the other anew. -/
theorem run_canonical_oneBucket :
    let hash := fun _ : Nat => 0
    let calls : List (Call Nat) :=
      [.get 7 (some "a"), .get 8 none, .release, .get 7 none, .get 8 (some "b")]
    let r := (new 2 : Registry Nat Nat).run hash calls
    (∀ a b : Nat, (a == b) = true → hash a = hash b) ∧ r.size = 2 ∧ r.pool.lookups = 4 ∧
      r.pool.hits = 1 ∧ r.pool.lookups - r.pool.hits = 3 := by
  intro hash calls r
  obtain ⟨-, -, -, -, -, hsize, hlookups, hhits, hrest⟩ :=
    run_canonical hash (fun _ _ _ => rfl) 2 calls
  rw [← show r = run hash (new 2) calls from rfl] at hsize hlookups hhits hrest
  rw [hrest, hsize, hlookups, hhits]
  exact ⟨fun _ _ _ => rfl, by decide +kernel +zetaReduce⟩

end Registry

end DirectoryClient
