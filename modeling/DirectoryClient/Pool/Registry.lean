import DirectoryClient.Pool.Canonical

/-!
# A pool and those who hold its instances

Which instances live depends on who holds them. A registry is a canonical pool
together with all outside holders, each with a name and an instance, and the
number of instances made so far, which gives every new one an identity of its
own. Values come with a hash, which has to be the same for equal values.
-/

namespace DirectoryClient

/-- A canonical pool in its surroundings. -/
structure Registry (κ α : Type) where
  pool : CanonicalPool κ α
  holders : List (String × Instance α)
  made : Nat

namespace Registry

variable {κ α : Type} [BEq κ] [BEq α] (hash : α → κ)

def new (retention : Nat) : Registry κ α := ⟨CanonicalPool.new retention, [], 0⟩

/-- Whether someone outside the pool holds an instance. -/
def isHeld (r : Registry κ α) (id : Nat) : Bool := r.holders.any (·.2.id == id)

/-- The instance that a holder has. -/
def holding? (r : Registry κ α) (holder : String) : Option (Instance α) :=
  r.holders.lookup holder

/-- Gives an instance to a holder, who lets go of what it had. -/
def hold (r : Registry κ α) (holder : String) (i : Instance α) : Registry κ α :=
  { r with holders := (holder, i) :: r.holders.filter (·.1 ≠ holder) }

/-- Makes a holder let go of what it has; tells whether it had anything. -/
def drop (r : Registry κ α) (holder : String) : Bool × Registry κ α :=
  ((r.holding? holder).isSome, { r with holders := r.holders.filter (·.1 ≠ holder) })

def make (r : Registry κ α) (value : α) : Instance α × Registry κ α :=
  (⟨r.made, value⟩, { r with made := r.made + 1 })

/-- Gets the canonical instance for an instance, and gives it to a holder, if
one is named. -/
def get (r : Registry κ α) (i : Instance α) (holder : Option String) :
    Instance α × List CanonicalPool.Event × Registry κ α :=
  let (canonical, events, pool) := r.pool.get r.isHeld (hash i.value) i
  let r := { r with pool }
  match holder with
  | some name => (canonical, events, r.hold name canonical)
  | none => (canonical, events, r)

/-- Makes an instance and gets the canonical one for it. -/
def getNew (r : Registry κ α) (value : α) (holder : Option String) :
    Instance α × List CanonicalPool.Event × Registry κ α :=
  let (i, r) := r.make value
  r.get hash i holder

def size (r : Registry κ α) : Nat := r.pool.size r.isHeld

/-- Sweeps the pool; tells how many slots were removed. -/
def purge (r : Registry κ α) : Nat × Registry κ α :=
  let (removed, pool) := r.pool.sweep r.isHeld
  (removed, { r with pool })

/-- Makes the pool let go of what it keeps alive. -/
def release (r : Registry κ α) : List CanonicalPool.Event × Registry κ α :=
  let (events, pool) := r.pool.release
  (events, { r with pool })

end Registry

end DirectoryClient
