import DirectoryClient.Pool.Event

/-!
# One instance for equal values

A canonical pool keeps for every value at most one living instance. Asking for
a value gives the instance registered for an equal one, or registers the
instance that was brought along.

The pool does not keep instances alive by knowing them. An instance lives as
long as someone outside holds it, or it is in the pool's list of the most
recently registered ones; so every operation is told what is held outside. The
slots of dead instances stay behind in their buckets. A bucket loses its dead
slots when an instance is registered in it, and all of them are swept, emptied
buckets too, whenever the number of buckets has reached a threshold, which is
then set to twice the number of buckets left.

Hashes are an arbitrary function of values as far as this module is concerned:
they are passed in, and buckets may hold values that are not equal.
-/

namespace DirectoryClient

/-- An object in memory. Two instances may hold equal values. -/
structure Instance (α : Type) where
  id : Nat
  value : α
  deriving DecidableEq

/-- The pool, with hashes of type `κ` and values of type `α`. -/
structure CanonicalPool (κ α : Type) where
  /-- How many of the instances registered last are kept alive. -/
  retention : Nat
  /-- The slots by hash, in the order of registration. -/
  buckets : List (κ × List (Instance α))
  /-- The instances kept alive, oldest first. -/
  retained : List (Instance α)
  /-- The number of buckets at which the next registration sweeps. -/
  sweepAt : Nat
  /-- How often an instance was asked for. -/
  lookups : Nat
  /-- How often a registered one was found. -/
  hits : Nat

namespace CanonicalPool

variable {κ α : Type} [BEq κ] [BEq α]

def defaultRetention : Nat := 1024

/-- Statistics are reported every so many lookups. -/
def statisticsInterval : Nat := 500

/-- The lowest number of buckets at which slots are swept. -/
def minSweepThreshold : Nat := 64

/-- What the pool reports. -/
inductive Event
  | statistics (lookups hits : Nat)
  | swept (removed buckets : Nat)
  | released (count : Nat)

def Event.logLine : Event → Pool.LogLine
  | statistics lookups hits =>
      ⟨.debug, "Value pool statistics", [("refs", lookups), ("hits", hits)]⟩
  | swept removed buckets =>
      ⟨.debug, "Swept reclaimed pool values", [("removed", removed), ("buckets", buckets)]⟩
  | released count => ⟨.debug, "Released retained pool values", [("count", count)]⟩

def new (retention : Nat) : CanonicalPool κ α := ⟨retention, [], [], minSweepThreshold, 0, 0⟩

/-- Whether an instance lives, given which ones are held outside. -/
def isAlive (held : Nat → Bool) (p : CanonicalPool κ α) (id : Nat) : Bool :=
  held id || p.retained.any (·.id == id)

/-- All slots, whether or not their instances live. -/
def slots (p : CanonicalPool κ α) : List (Instance α) := p.buckets.flatMap (·.2)

/-- The number of living registered instances. -/
def size (held : Nat → Bool) (p : CanonicalPool κ α) : Nat :=
  p.slots.countP fun i => p.isAlive held i.id

def bucket (p : CanonicalPool κ α) (hash : κ) : List (Instance α) :=
  (p.buckets.lookup hash).getD []

/-- The living registered instance that is equal to `value`. -/
def find? (held : Nat → Bool) (p : CanonicalPool κ α) (hash : κ) (value : α) :
    Option (Instance α) :=
  (p.bucket hash).find? fun i => p.isAlive held i.id && i.value == value

/-- Takes the slots of dead instances out of all buckets, and the buckets that
this empties; tells how many slots were removed. -/
def sweep (held : Nat → Bool) (p : CanonicalPool κ α) : Nat × CanonicalPool κ α :=
  let buckets := p.buckets.filterMap fun (hash, slots) =>
    match slots.filter fun i => p.isAlive held i.id with
    | [] => none
    | living => some (hash, living)
  let swept := { p with buckets }
  (p.slots.length - swept.slots.length, swept)

/-- Sweeps if the number of buckets has reached the threshold. -/
def sweepIfDue (held : Nat → Bool) (p : CanonicalPool κ α) :
    List Event × CanonicalPool κ α :=
  if p.sweepAt ≤ p.buckets.length then
    let (removed, swept) := p.sweep held
    let count := swept.buckets.length
    ([.swept removed count], { swept with sweepAt := max (count * 2) minSweepThreshold })
  else ([], p)

/-- Changes the slots of a hash, which is added if it has no bucket. -/
def updateBucket (hash : κ) (f : List (Instance α) → List (Instance α)) :
    List (κ × List (Instance α)) → List (κ × List (Instance α))
  | [] => [(hash, f [])]
  | (h, slots) :: rest =>
      if h == hash then (h, f slots) :: rest else (h, slots) :: updateBucket hash f rest

/-- Keeps an instance alive, and lets go of the oldest if there are too many. -/
def retain (i : Instance α) (p : CanonicalPool κ α) : CanonicalPool κ α :=
  if p.retention = 0 then p
  else
    let kept := if p.retention ≤ p.retained.length then p.retained.drop 1 else p.retained
    { p with retained := kept ++ [i] }

/-- Registers an instance for whose value there is none. -/
def register (held : Nat → Bool) (hash : κ) (i : Instance α) (p : CanonicalPool κ α) :
    List Event × CanonicalPool κ α :=
  let (events, p) := p.sweepIfDue held
  let living := fun slots => slots.filter (fun i : Instance α => p.isAlive held i.id) ++ [i]
  (events, { p with buckets := updateBucket hash living p.buckets }.retain i)

/-- Counts a lookup, and reports statistics when it is time to. -/
def countLookup (p : CanonicalPool κ α) : List Event × CanonicalPool κ α :=
  (if p.lookups % statisticsInterval = 0 then [.statistics p.lookups p.hits] else [],
    { p with lookups := p.lookups + 1 })

/-- The canonical instance for the value of `i`, which is `i` itself if there is
no other. -/
def get (held : Nat → Bool) (hash : κ) (i : Instance α) (p : CanonicalPool κ α) :
    Instance α × List Event × CanonicalPool κ α :=
  let (counted, p) := p.countLookup
  match p.find? held hash i.value with
  | some canonical => (canonical, counted, { p with hits := p.hits + 1 })
  | none =>
      let (events, p) := p.register held hash i
      (i, counted ++ events, p)

/-- Lets go of the instances kept alive. -/
def release (p : CanonicalPool κ α) : List Event × CanonicalPool κ α :=
  ([.released p.retained.length], { p with retained := [] })

def describe (p : CanonicalPool κ α) : String :=
  "ValuePool \x7b retention: " ++ toString p.retention ++ ", refs: " ++ toString p.lookups ++
    ", hits: " ++ toString p.hits ++ ", .. \x7d"

end CanonicalPool

end DirectoryClient
