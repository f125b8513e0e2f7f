import DirectoryClient.Proofs.Pool.Canonicity

/-!
# What a call does to the pool itself

Soundness does not say when slots are cleared away, nor what is kept alive; that is a
matter of the pool alone. There are five things that can happen to it (`Effect`), of
which only a lookup that finds nothing and a release change what is kept alive, and only
such a lookup and a purge change the buckets.

Lookups of a run are found again among its calls, so that what happens from one lookup to
another is a run as well.
-/

namespace DirectoryClient

namespace Registry

variable {κ α : Type} [BEq κ] [BEq α] {hash : α → κ} {r : Registry κ α}

/-! ## Runs in parts -/

theorem run_append (hash : α → κ) (r : Registry κ α) (first later : List (Call α)) :
    r.run hash (first ++ later) = (r.run hash first).run hash later :=
  List.foldl_append

theorem lookups_append (hash : α → κ) (r : Registry κ α) (first later : List (Call α)) :
    r.lookups hash (first ++ later) =
      r.lookups hash first ++ (r.run hash first).lookups hash later := by
  induction first generalizing r with
  | nil => rfl
  | cons c first ih =>
      rw [List.cons_append, lookups, lookups, ih, List.append_assoc]
      rfl

theorem lookups_singleton (hash : α → κ) (r : Registry κ α) (c : Call α) :
    r.lookups hash [c] = (r.lookup? hash c).toList := by
  rw [lookups, lookups, List.append_nil]

/-- A lookup of a run is a call, and what is in front of it and behind it are runs. -/
theorem exists_of_lookups_eq {calls : List (Call α)} {earlier later : List (Lookup κ α)}
    {l : Lookup κ α} (h : r.lookups hash calls = earlier ++ l :: later) :
    ∃ first c rest, calls = first ++ c :: rest ∧ r.lookups hash first = earlier ∧
      (r.run hash first).lookup? hash c = some l ∧
      (r.run hash (first ++ [c])).lookups hash rest = later := by
  induction calls generalizing r earlier with
  | nil => exact absurd h (by simp [lookups])
  | cons c calls ih =>
      rw [lookups] at h
      cases hc : r.lookup? hash c with
      | none =>
          rw [hc] at h
          obtain ⟨first, c', rest, rfl, hfirst, hl, hrest⟩ := ih h
          refine ⟨c :: first, c', rest, rfl, ?_, hl, hrest⟩
          rw [lookups, hc, hfirst]
          rfl
      | some l' =>
          rw [hc] at h
          cases earlier with
          | nil =>
              obtain ⟨rfl, hrest⟩ := List.cons.inj h
              exact ⟨[], c, calls, rfl, rfl, hc, hrest⟩
          | cons e earlier =>
              obtain ⟨rfl, hrest⟩ := List.cons.inj h
              obtain ⟨first, c', rest, rfl, hfirst, hl, hlater⟩ := ih hrest
              refine ⟨c :: first, c', rest, rfl, ?_, hl, hlater⟩
              rw [lookups, hc, hfirst]
              rfl

theorem before_of_lookup? {c : Call α} {l : Lookup κ α} (h : r.lookup? hash c = some l) :
    l.before = r := by
  obtain ⟨_, -, rfl⟩ := Option.map_eq_some_iff.1 h
  rfl

theorem after_of_lookup? {c : Call α} {l : Lookup κ α} (h : r.lookup? hash c = some l) :
    l.after = (r.perform hash c).2 := by
  obtain ⟨_, -, rfl⟩ := Option.map_eq_some_iff.1 h
  rfl

/-! ## The effect of a call -/

def Call.isRelease : Call α → Bool
  | release => true
  | _ => false

/-- What the pool reports at a lookup. -/
def Lookup.reports (hash : α → κ) (l : Lookup κ α) : List CanonicalPool.Event :=
  (l.before.pool.get l.before.isHeld (hash l.asked.value) l.asked).2.1

/-- What a call does to the pool, given the lookup that it is, if it is one. -/
inductive Effect (hash : α → κ) (r : Registry κ α) (c : Call α) :
    Option (Lookup κ α) → CanonicalPool κ α → Prop
  | stay : c.isRelease = false → Effect hash r c none r.pool
  | sweep : c.isRelease = false → Effect hash r c none (r.pool.sweep r.isHeld).2
  | release : c.isRelease = true → Effect hash r c none r.pool.release.2
  | hit {l : Lookup κ α} : c.isRelease = false → l.before = r → l.isHit = true →
      l.reports hash = r.pool.countLookup.1 →
      Effect hash r c (some l)
        { r.pool with lookups := r.pool.lookups + 1, hits := r.pool.hits + 1 }
  | miss {l : Lookup κ α} : c.isRelease = false → l.before = r → l.isHit = false →
      l.given = l.asked →
      l.reports hash = r.pool.countLookup.1 ++
        (r.pool.countLookup.2.register r.isHeld (hash l.asked.value) l.asked).1 →
      Effect hash r c (some l)
        (r.pool.countLookup.2.register r.isHeld (hash l.asked.value) l.asked).2

variable [LawfulBEq κ]

theorem effect_of_get (hs : Sound hash r) {c : Call α} {l : Lookup κ α}
    (hc : c.isRelease = false) (hl : r.lookup? hash c = some l)
    (hgiven : l.given = (r.pool.get r.isHeld (hash l.asked.value) l.asked).1)
    (hpool : l.after.pool = (r.pool.get r.isHeld (hash l.asked.value) l.asked).2.2)
    (hhits : l.after.pool.hits = r.pool.hits + [l].countP Lookup.isHit) :
    Effect hash r c (some l) l.after.pool := by
  have hbefore := before_of_lookup? hl
  have hreports : l.reports hash = (r.pool.get r.isHeld (hash l.asked.value) l.asked).2.1 := by
    rw [Lookup.reports, hbefore]
  -- the pool counts the hits, so the count tells which of the two it was
  rw [List.countP_singleton] at hhits
  unfold CanonicalPool.get at hgiven hpool hreports
  cases hfind : r.pool.countLookup.2.find? r.isHeld (hash l.asked.value) l.asked.value with
  | some canonical =>
      simp only [hfind] at hpool hreports
      rw [hpool] at hhits ⊢
      cases hhit : l.isHit with
      | true => exact .hit hc hbefore hhit hreports
      | false =>
          rw [hhit] at hhits
          exact absurd hhits (Nat.succ_ne_self _)
  | none =>
      simp only [hfind] at hgiven hpool hreports
      have hreg : CanonicalPool.Registered hash r.isHeld l.asked r.pool.countLookup.2 _ :=
        CanonicalPool.registered_register hs.bucketed
      rw [hpool] at hhits ⊢
      cases hhit : l.isHit with
      | true =>
          rw [hhit, hreg.hits] at hhits
          exact absurd hhits.symm (Nat.succ_ne_self _)
      | false => exact .miss hc hbefore hhit hgiven hreports

theorem effect_perform [EquivBEq α]
    (hcompat : ∀ a b : α, (a == b) = true → hash a = hash b)
    (hs : Sound hash r) (c : Call α) :
    Effect hash r c (r.lookup? hash c) (r.perform hash c).2.pool := by
  obtain ⟨-, -, hhits, -⟩ := perform_spec hcompat hs c
  cases c with
  | get value holder =>
      obtain ⟨hgiven, hpool, -⟩ := get_spec hash r (r.made + 1) ⟨r.made, value⟩ holder
      exact effect_of_get hs rfl rfl hgiven hpool hhits
  | getHeld source holder =>
      cases hsource : r.holding? source with
      | none =>
          simp only [lookup?, perform, hsource]
          exact .stay rfl
      | some i =>
          obtain ⟨hgiven, hpool, -⟩ := get_spec hash r r.made i holder
          simp only [lookup?, perform, hsource] at hhits ⊢
          exact effect_of_get hs rfl (by simp only [lookup?, perform, hsource]; rfl) hgiven hpool
            hhits
  | make value holder => exact .stay rfl
  | share source holder =>
      cases hsource : r.holding? source with
      | none =>
          simp only [lookup?, perform, hsource]
          exact .stay rfl
      | some i =>
          simp only [lookup?, perform, hsource]
          exact .stay rfl
  | drop holder => exact .stay rfl
  | purge => exact .sweep rfl
  | release => exact .release rfl

end Registry

end DirectoryClient
