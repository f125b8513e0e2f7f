import DirectoryClient.Pool.Event
import DirectoryClient.Text.Number

/-!
# Objects to be used again

A reuse pool keeps objects that nobody uses at the moment. Whoever needs one
takes the one that has been idle longest, or has a new one made if none is
idle, and gives it back at the end of the queue.

A pool may be kept in a band: at regular times its queue is looked at, and if
it is too short, objects are made, and if it is too long, the longest idle ones
are dropped. What is inside the band is left alone, so once a check has nothing
to do, all further ones have nothing to do either until an object is taken or
given back.

The factory is a function with a state of its own. It may fail, and then it is
not tried again before the next check.

Sizes are numbers of objects that there is memory for. A pool that is asked for more
idle objects than can ever be in memory at once has no place to put them, and is not
spoken of here.
-/

namespace DirectoryClient

/-- How many objects shall be idle, and how often that is checked, in
milliseconds. -/
structure Band where
  minIdle : Nat
  maxIdle : Nat
  interval : Nat
  deriving DecidableEq

namespace Band

/-- The band that is kept: the upper end is at least the lower one, and the
interval at least a millisecond. -/
def normalize (b : Band) : Band :=
  { b with maxIdle := max b.maxIdle b.minIdle, interval := max b.interval 1 }

/-- Whether that many idle objects are neither too few nor too many. -/
def contains (b : Band) (count : Nat) : Bool := b.minIdle ≤ count && count ≤ b.maxIdle

end Band

/-- The background task of a pool. -/
structure Rebalancing where
  band : Band
  running : Bool
  /-- Milliseconds since the last check, or since the start. -/
  waited : Nat

/-- A pool of objects of type `α`. -/
structure ReusePool (α : Type) where
  /-- The idle objects, the longest idle one first. -/
  idle : List α
  /-- The background task, if the pool was made with one. -/
  rebalancing : Option Rebalancing

namespace ReusePool

variable {α ε σ : Type}

/-- What a factory does: it makes an object or fails, and its state changes. -/
abbrev Factory (σ ε α : Type) := σ → Except ε α × σ

/-- What the background task reports. -/
inductive Event (ε : Type)
  | started (band : Band)
  | toppingUp (size minIdle : Nat)
  | creationFailed (error : ε)
  | trimming (size maxIdle : Nat)
  | stopped

def Event.logLine (message : ε → String) : Event ε → Pool.LogLine
  | started band =>
      ⟨.info, "Pool rebalancing started",
        [("min_idle", band.minIdle), ("max_idle", band.maxIdle), ("interval_ms", band.interval)]⟩
  | toppingUp size minIdle =>
      ⟨.debug, "Topping up pool", [("size", size), ("min_idle", minIdle)]⟩
  | creationFailed error => ⟨.warn, "Creating pooled object failed: " ++ message error, []⟩
  | trimming size maxIdle => ⟨.debug, "Trimming pool", [("size", size), ("max_idle", maxIdle)]⟩
  | stopped => ⟨.info, "Pool rebalancing stopped", []⟩

/-! ## Making objects -/

/-- Has `count` objects made and put at the end of a queue, up to the first
failure. -/
def fill (make : Factory σ ε α) (idle : List α) (s : σ) :
    Nat → Except ε Unit × List α × σ
  | 0 => (.ok (), idle, s)
  | count + 1 =>
      match make s with
      | (.ok object, s) => fill make (idle ++ [object]) s count
      | (.error e, s) => (.error e, idle, s)

/-- A pool with `minIdle` objects, for which there is memory, without a background
task. -/
def new (make : Factory σ ε α) (minIdle : Nat) (s : σ) : Except ε (ReusePool α) × σ :=
  match fill make [] s minIdle with
  | (.ok (), idle, s) => (.ok ⟨idle, none⟩, s)
  | (.error e, _, s) => (.error e, s)

/-- A pool kept in a band. The first check is an interval away. -/
def newInBand (make : Factory σ ε α) (band : Band) (s : σ) :
    Except ε (List (Event ε) × ReusePool α) × σ :=
  let band := band.normalize
  match new make band.minIdle s with
  | (.ok pool, s) => (.ok ([.started band], { pool with rebalancing := some ⟨band, true, 0⟩ }), s)
  | (.error e, s) => (.error e, s)

/-! ## Taking and giving back -/

/-- Takes the object that has been idle longest, or has one made. -/
def borrow (make : Factory σ ε α) (p : ReusePool α) (s : σ) :
    Except ε α × ReusePool α × σ :=
  match p.idle with
  | object :: rest => (.ok object, { p with idle := rest }, s)
  | [] =>
      let (result, s) := make s
      (result, p, s)

/-- Puts an object back for others to use. -/
def giveBack (p : ReusePool α) (object : α) : ReusePool α := { p with idle := p.idle ++ [object] }

/-! ## Rebalancing -/

/-- One check: brings the number of idle objects into the band as far as the
factory allows. -/
def rebalance (make : Factory σ ε α) (band : Band) (idle : List α) (s : σ) :
    List (Event ε) × List α × σ :=
  let size := idle.length
  if size < band.minIdle then
    let (result, idle, s) := fill make idle s (band.minIdle - size)
    let failed := match result with
      | .ok () => []
      | .error e => [.creationFailed e]
    (.toppingUp size band.minIdle :: failed, idle, s)
  else if band.maxIdle < size then
    ([.trimming size band.maxIdle], idle.drop (size - band.maxIdle), s)
  else ([], idle, s)

/-- A number of checks with nothing happening in between. Inside the band the
remaining ones have nothing to do. -/
def checks (make : Factory σ ε α) (band : Band) (idle : List α) (s : σ) :
    Nat → List (Event ε) × List α × σ
  | 0 => ([], idle, s)
  | count + 1 =>
      if band.contains idle.length then ([], idle, s)
      else
        let (events, idle, s) := rebalance make band idle s
        let (later, idle, s) := checks make band idle s count
        (events ++ later, idle, s)

/-- Lets time pass, in milliseconds, and has the checks made that fall into it. -/
def advance (make : Factory σ ε α) (time : Nat) (p : ReusePool α) (s : σ) :
    List (Event ε) × ReusePool α × σ :=
  match p.rebalancing with
  | some task =>
      if task.running then
        let elapsed := task.waited + time
        let (events, idle, s) := checks make task.band p.idle s (elapsed / task.band.interval)
        let task := { task with waited := elapsed % task.band.interval }
        (events, ⟨idle, some task⟩, s)
      else ([], p, s)
  | none => ([], p, s)

/-- Stops the background task; the idle objects stay. -/
def shutdown (p : ReusePool α) : List (Event ε) × ReusePool α :=
  match p.rebalancing with
  | some task =>
      (if task.running then [.stopped] else [],
        { p with rebalancing := some { task with running := false } })
  | none => ([], p)

def describe (p : ReusePool α) : String :=
  let task := match p.rebalancing with
    | some task => "Some(" ++ Text.ofTruth task.running ++ ")"
    | none => "None"
  "FixedPool \x7b idle: " ++ toString p.idle.length ++ ", rebalancing: " ++ task ++ " \x7d"

end ReusePool

end DirectoryClient
