import DirectoryClient.Proofs.Pool.Filling

/-!
# Where the objects of a reuse pool are

An object that a factory has made is in one of three places: it is idle in the pool,
someone has borrowed it, or the background task has dropped it. `Custody` keeps book of
these places while a pool is used, and of the order in which objects came into its queue
and left it.

The pool is used by several parties at once, so a check of the background task is not
one move: between its look at the queue and each object that it makes, or the trimming,
anything may happen (`Phase`). What it decided at its look may no longer fit the queue
when it acts. Left alone, the moves of a check come to what `rebalance` does
(`comesTo_rebalance`).

All that is asked of the factory is that it makes no object twice.
-/

namespace DirectoryClient.ReusePool

variable {α ε : Type}

/-! ## Using a pool -/

/-- What the background task is about to do. -/
inductive Phase
  | resting
  /-- It has seen too few objects, and means to make so many more. -/
  | making (count : Nat)
  /-- It has seen too many. -/
  | trimming

/-- What is to be done about a queue of that length. -/
def Phase.ofSize (band : Band) (size : Nat) : Phase :=
  if size < band.minIdle then .making (band.minIdle - size)
  else if band.maxIdle < size then .trimming
  else .resting

/-- A pool in use, with the places of all objects that were ever made. -/
structure Custody (α : Type) where
  pool : ReusePool α
  /-- How often the factory was tried. -/
  attempts : Nat
  phase : Phase
  lent : List α
  dropped : List α
  /-- What ever came into the queue, in this order. -/
  entered : List α
  /-- What ever left it, in this order. -/
  left : List α

/-- One of the things that can happen next. -/
inductive Move
  | borrow
  /-- One of the borrowed objects is given back. -/
  | giveBack (position : Nat)
  /-- The background task does the next part of a check, or begins one. -/
  | check
  | shutdown

namespace Custody

/-- A pool that nobody has used yet. -/
def start (pool : ReusePool α) (attempts : Nat) : Custody α :=
  ⟨pool, attempts, .resting, [], [], pool.idle, []⟩

/-- All objects, in whatever place. -/
def objects (s : Custody α) : List α := s.pool.idle ++ s.lent ++ s.dropped

def borrow (outcomes : Nat → Except ε α) (s : Custody α) : Custody α :=
  match s.pool.borrow (scripted outcomes) s.attempts with
  | (.ok object, pool, n) =>
      let left := if s.pool.idle.isEmpty then s.left else s.left ++ [object]
      { s with pool, attempts := n, lent := object :: s.lent, left }
  | (.error _, pool, n) => { s with pool, attempts := n }

def giveBack (s : Custody α) (position : Nat) : Custody α :=
  match s.lent.drop position with
  | object :: later =>
      { s with
        pool := s.pool.giveBack object, lent := s.lent.take position ++ later,
        entered := s.entered ++ [object] }
  | [] => s

/-- Makes the next of the objects that are wanted. After a failure no more are. -/
def makeNext (outcomes : Nat → Except ε α) (s : Custody α) (count : Nat) : Custody α :=
  match scripted outcomes s.attempts with
  | (.ok object, n) =>
      { s with
        pool := { s.pool with idle := s.pool.idle ++ [object] }, attempts := n,
        phase := .making count, entered := s.entered ++ [object] }
  | (.error _, n) => { s with attempts := n, phase := .resting }

/-- Drops what is too much now. -/
def trim (s : Custody α) (maxIdle : Nat) : Custody α :=
  let excess := s.pool.idle.length - maxIdle
  let gone := s.pool.idle.take excess
  { s with
    pool := { s.pool with idle := s.pool.idle.drop excess }, phase := .resting,
    dropped := s.dropped ++ gone, left := s.left ++ gone }

/-- A move of the background task. Once it is told to stop it finishes its check, but
does not begin another. -/
def check (outcomes : Nat → Except ε α) (s : Custody α) : Custody α :=
  match s.pool.rebalancing, s.phase with
  | none, _ => s
  | some task, .resting =>
      if task.running then { s with phase := .ofSize task.band s.pool.idle.length } else s
  | some _, .making 0 => { s with phase := .resting }
  | some _, .making (count + 1) => s.makeNext outcomes count
  | some task, .trimming => s.trim task.band.maxIdle

def shutdown (s : Custody α) : Custody α :=
  let stopped : List (Event Unit) × ReusePool α := s.pool.shutdown
  { s with pool := stopped.2 }

def perform (outcomes : Nat → Except ε α) (s : Custody α) : Move → Custody α
  | .borrow => s.borrow outcomes
  | .giveBack position => s.giveBack position
  | .check => s.check outcomes
  | .shutdown => s.shutdown

/-- Makes moves one after another. -/
def run (outcomes : Nat → Except ε α) (s : Custody α) (moves : List Move) : Custody α :=
  moves.foldl (perform outcomes) s

/-! ## What is kept -/

variable {outcomes : Nat → Except ε α} {s : Custody α}

/-- What holds whatever happens: the objects that are somewhere are those that were
made, and the queue is what came into it without what left it. -/
structure Sound (outcomes : Nat → Except ε α) (s : Custody α) : Prop where
  perm : s.objects.Perm (created outcomes 0 s.attempts)
  entered_eq : s.entered = s.left ++ s.pool.idle

/-- A new object is one more, wherever it goes. -/
theorem Sound.perm_of_ok (h : s.Sound outcomes) {object : α}
    (hmade : outcomes s.attempts = .ok object) :
    (object :: s.objects).Perm (created outcomes 0 (s.attempts + 1)) := by
  rw [created_succ, Nat.zero_add, hmade]
  exact (h.perm.cons object).trans (List.perm_append_singleton object _).symm

theorem Sound.perm_of_error (h : s.Sound outcomes) {e : ε}
    (hfailed : outcomes s.attempts = .error e) :
    s.objects.Perm (created outcomes 0 (s.attempts + 1)) := by
  rw [created_succ, Nat.zero_add, hfailed]
  exact h.perm.trans (.of_eq (List.append_nil _).symm)

theorem sound_start {plan : Plan} {pool : ReusePool α} {n : Nat}
    (h : plan.make outcomes = (.ok pool, n)) : (start pool n).Sound outcomes := by
  obtain ⟨rfl, rfl⟩ := Plan.eq_of_make h
  refine ⟨?_, rfl⟩
  show (created outcomes 0 plan.size ++ [] ++ []).Perm _
  rw [List.append_nil, List.append_nil]
  exact .refl _

theorem Sound.borrow (h : s.Sound outcomes) : (s.borrow outcomes).Sound outcomes := by
  unfold Custody.borrow ReusePool.borrow
  cases hidle : s.pool.idle with
  | cons object rest =>
      have hobjects : s.objects = object :: (rest ++ (s.lent ++ s.dropped)) := by
        rw [objects, hidle, List.append_assoc, List.cons_append]
      refine ⟨?_, ?_⟩
      · refine List.Perm.trans ?_ h.perm
        show (rest ++ (object :: s.lent) ++ s.dropped).Perm _
        rw [hobjects, List.append_assoc, List.cons_append]
        exact List.perm_middle
      · show s.entered = s.left ++ [object] ++ rest
        rw [h.entered_eq, hidle, List.append_assoc, List.singleton_append]
  | nil =>
      have hobjects : s.objects = s.lent ++ s.dropped := by
        rw [objects, hidle, List.nil_append]
      dsimp only [scripted]
      cases hmade : outcomes s.attempts with
      | ok object =>
          refine ⟨?_, ?_⟩
          · refine List.Perm.trans ?_ (h.perm_of_ok hmade)
            show (s.pool.idle ++ (object :: s.lent) ++ s.dropped).Perm _
            rw [hobjects, hidle, List.nil_append, List.cons_append]
          · exact h.entered_eq
      | error e =>
          exact ⟨h.perm_of_error hmade, h.entered_eq⟩

theorem Sound.giveBack (h : s.Sound outcomes) (position : Nat) :
    (s.giveBack position).Sound outcomes := by
  unfold Custody.giveBack
  split
  · next object later hdrop =>
      have hlent : s.lent = s.lent.take position ++ object :: later := by
        rw [← hdrop, List.take_append_drop]
      refine ⟨?_, ?_⟩
      · refine List.Perm.trans ?_ h.perm
        show (s.pool.idle ++ [object] ++ (s.lent.take position ++ later) ++ s.dropped).Perm _
        rw [objects, List.append_assoc s.pool.idle]
        refine (List.Perm.append_left s.pool.idle ?_).append_right s.dropped
        rw [List.singleton_append]
        exact List.perm_middle.symm.trans (.of_eq hlent.symm)
      · show s.entered ++ [object] = s.left ++ (s.pool.idle ++ [object])
        rw [h.entered_eq, List.append_assoc]
  · exact h

theorem Sound.makeNext (h : s.Sound outcomes) (count : Nat) :
    (s.makeNext outcomes count).Sound outcomes := by
  unfold Custody.makeNext
  dsimp only [scripted]
  cases hmade : outcomes s.attempts with
  | ok object =>
      refine ⟨?_, ?_⟩
      · refine List.Perm.trans ?_ (h.perm_of_ok hmade)
        show (s.pool.idle ++ [object] ++ s.lent ++ s.dropped).Perm _
        rw [objects, List.append_assoc, List.append_assoc, List.append_assoc]
        exact List.perm_middle
      · show s.entered ++ [object] = s.left ++ (s.pool.idle ++ [object])
        rw [h.entered_eq, List.append_assoc]
  | error e =>
      exact ⟨h.perm_of_error hmade, h.entered_eq⟩

theorem Sound.trim (h : s.Sound outcomes) (maxIdle : Nat) : (s.trim maxIdle).Sound outcomes := by
  let excess := s.pool.idle.length - maxIdle
  have hidle : s.pool.idle.take excess ++ s.pool.idle.drop excess = s.pool.idle :=
    List.take_append_drop excess s.pool.idle
  refine ⟨?_, ?_⟩
  · refine List.Perm.trans ?_ h.perm
    -- what was at the front of the queue is at the end of the list now
    show (s.pool.idle.drop excess ++ s.lent ++ (s.dropped ++ s.pool.idle.take excess)).Perm _
    rw [objects, ← List.append_assoc]
    refine List.perm_append_comm.trans ?_
    rw [← List.append_assoc, ← List.append_assoc, hidle]
  · show s.entered = s.left ++ s.pool.idle.take excess ++ s.pool.idle.drop excess
    rw [h.entered_eq, List.append_assoc, hidle]

theorem Sound.check (h : s.Sound outcomes) : (s.check outcomes).Sound outcomes := by
  unfold Custody.check
  split
  · exact h
  · split
    · exact ⟨h.perm, h.entered_eq⟩
    · exact h
  · exact ⟨h.perm, h.entered_eq⟩
  · exact h.makeNext _
  · exact h.trim _

theorem idle_shutdown (p : ReusePool α) :
    (p.shutdown : List (Event ε) × ReusePool α).2.idle = p.idle := by
  unfold ReusePool.shutdown
  split <;> rfl

theorem Sound.shutdown (h : s.Sound outcomes) : s.shutdown.Sound outcomes := by
  have hidle : s.shutdown.pool.idle = s.pool.idle := idle_shutdown s.pool
  refine ⟨?_, ?_⟩
  · rw [objects, hidle]
    exact h.perm
  · rw [hidle]
    exact h.entered_eq

theorem Sound.perform (h : s.Sound outcomes) (move : Move) :
    (s.perform outcomes move).Sound outcomes := by
  cases move with
  | borrow => exact h.borrow
  | giveBack position => exact h.giveBack position
  | check => exact h.check
  | shutdown => exact h.shutdown

theorem Sound.run (h : s.Sound outcomes) (moves : List Move) :
    (s.run outcomes moves).Sound outcomes := by
  induction moves generalizing s with
  | nil => exact h
  | cons move rest ih => exact ih (h.perform move)

/-! ## Checks without interruption -/

theorem run_append (s : Custody α) (moves more : List Move) :
    s.run outcomes (moves ++ more) = (s.run outcomes moves).run outcomes more :=
  List.foldl_append

/-- Whether the background task, left alone, comes to rest with this queue after so many
attempts. -/
def ComesTo (outcomes : Nat → Except ε α) (s : Custody α) (idle : List α) (n : Nat) : Prop :=
  ∃ count, let s' := s.run outcomes (List.replicate count .check)
    s'.phase = .resting ∧ s'.pool = ⟨idle, s.pool.rebalancing⟩ ∧ s'.attempts = n

theorem ComesTo.refl (h : s.phase = .resting) : s.ComesTo outcomes s.pool.idle s.attempts :=
  ⟨0, h, rfl, rfl⟩

theorem rebalancing_check (s : Custody α) :
    (s.check outcomes).pool.rebalancing = s.pool.rebalancing := by
  unfold check
  split
  · rfl
  · split <;> rfl
  · rfl
  · unfold makeNext
    split <;> rfl
  · rfl

theorem rebalancing_checks (s : Custody α) (count : Nat) :
    (s.run outcomes (List.replicate count .check)).pool.rebalancing = s.pool.rebalancing := by
  induction count generalizing s with
  | zero => rfl
  | succ count ih => exact (ih (s.check outcomes)).trans (rebalancing_check s)

theorem ComesTo.check {idle : List α} {n : Nat}
    (h : (s.check outcomes).ComesTo outcomes idle n) : s.ComesTo outcomes idle n := by
  obtain ⟨count, hphase, hpool, hattempts⟩ := h
  rw [rebalancing_check] at hpool
  exact ⟨count + 1, hphase, hpool, hattempts⟩

theorem comesTo_of_making {task : Rebalancing} {count : Nat} (hphase : s.phase = .making count)
    (htask : s.pool.rebalancing = some task) :
    s.ComesTo outcomes (fill (scripted outcomes) s.pool.idle s.attempts count).2.1
      (fill (scripted outcomes) s.pool.idle s.attempts count).2.2 := by
  induction count generalizing s with
  | zero =>
      refine ComesTo.check ?_
      rw [Custody.check, htask, hphase]
      exact .refl rfl
  | succ count ih =>
      refine ComesTo.check ?_
      -- each move makes one object, as each round of filling does
      have hnext : s.check outcomes = s.makeNext outcomes count := by
        rw [Custody.check, htask, hphase]
      rw [hnext, fill]
      unfold makeNext
      dsimp only [scripted]
      cases outcomes s.attempts with
      | ok object => exact ih rfl htask
      | error e => exact .refl rfl

/-- A check that nothing interrupts does what is done in one go. -/
theorem comesTo_rebalance {task : Rebalancing} (hphase : s.phase = .resting)
    (htask : s.pool.rebalancing = some task) (hrunning : task.running = true) :
    s.ComesTo outcomes
      (rebalance (scripted outcomes) task.band s.pool.idle s.attempts).2.1
      (rebalance (scripted outcomes) task.band s.pool.idle s.attempts).2.2 := by
  refine ComesTo.check ?_
  have hlook : s.check outcomes =
      { s with phase := .ofSize task.band s.pool.idle.length } := by
    rw [Custody.check, htask, hphase]
    exact if_pos hrunning
  rw [hlook, rebalance, Phase.ofSize]
  dsimp only
  split
  · exact comesTo_of_making (s := { s with phase := _ }) rfl htask
  · split
    · refine ComesTo.check ?_
      have htrim : { s with phase := Phase.trimming }.check outcomes =
          s.trim task.band.maxIdle := by
        rw [Custody.check, htask]
        rfl
      rw [htrim]
      exact .refl rfl
    · exact .refl rfl

theorem ComesTo.trans {idle idle' : List α} {n n' : Nat} (h : s.ComesTo outcomes idle n)
    (hnext : ∀ s' : Custody α, s'.phase = .resting → s'.pool = ⟨idle, s.pool.rebalancing⟩ →
      s'.attempts = n → s'.ComesTo outcomes idle' n') : s.ComesTo outcomes idle' n' := by
  obtain ⟨count, hphase, hpool, hattempts⟩ := h
  obtain ⟨more, hphase', hpool', hattempts'⟩ := hnext _ hphase hpool hattempts
  refine ⟨count + more, ?_⟩
  rw [← List.replicate_append_replicate, run_append]
  rw [rebalancing_checks] at hpool'
  exact ⟨hphase', hpool', hattempts'⟩

theorem comesTo_checks {task : Rebalancing} (hrunning : task.running = true)
    (hphase : s.phase = .resting) (htask : s.pool.rebalancing = some task) (count : Nat) :
    s.ComesTo outcomes (checks (scripted outcomes) task.band s.pool.idle s.attempts count).2.1
      (checks (scripted outcomes) task.band s.pool.idle s.attempts count).2.2 := by
  induction count generalizing s with
  | zero => exact .refl hphase
  | succ count ih =>
      rw [checks]
      split
      · exact .refl hphase
      · refine (comesTo_rebalance hphase htask hrunning).trans fun s' hphase' hpool' hattempts' => ?_
        have htask' : s'.pool.rebalancing = some task := by rw [hpool', htask]
        have hlater := ih hphase' htask'
        rw [hpool', hattempts'] at hlater
        exact hlater

/-- When time passes with nothing else happening, the background task makes its checks
one after another. -/
theorem comesTo_advance (hphase : s.phase = .resting) (time : Nat) :
    s.ComesTo outcomes (s.pool.advance (scripted outcomes) time s.attempts).2.1.idle
      (s.pool.advance (scripted outcomes) time s.attempts).2.2 := by
  unfold advance
  split
  · next task htask =>
      split
      · next hrunning => exact comesTo_checks hrunning hphase htask _
      · exact .refl hphase
  · exact .refl hphase

/-! ## What can be relied on -/

/-- What is known of borrowing: if objects are idle it takes the one that came into the
queue first of those that have not left it, and if there are none it has one made. If
that fails, the error is the factory's and the pool stays as it is. -/
structure Lends (outcomes : Nat → Except ε α) (s : Custody α) : Prop where
  longest : s.pool.idle ≠ [] → ∃ object, s.entered[s.left.length]? = some object ∧
    s.pool.borrow (scripted outcomes) s.attempts =
      (.ok object, { s.pool with idle := s.pool.idle.tail }, s.attempts)
  made : s.pool.idle = [] →
    s.pool.borrow (scripted outcomes) s.attempts = (outcomes s.attempts, s.pool, s.attempts + 1)
  failed : ∀ e, (s.pool.borrow (scripted outcomes) s.attempts).1 = .error e →
    outcomes s.attempts = .error e ∧
      (s.pool.borrow (scripted outcomes) s.attempts).2.1 = s.pool

/-- What is known of the background task: what one of its moves drops has been in the
queue longest, and what it makes goes to the end. If nothing else happens, its moves come
to what is done when time passes. -/
structure Rebalances (outcomes : Nat → Except ε α) (s : Custody α) : Prop where
  front : ∃ gone made, (s.check outcomes).pool.idle = s.pool.idle.drop gone ++ made ∧
    (s.check outcomes).dropped = s.dropped ++ s.pool.idle.take gone
  lent_eq : (s.check outcomes).lent = s.lent
  advance : s.phase = .resting → ∀ time,
    s.ComesTo outcomes (s.pool.advance (scripted outcomes) time s.attempts).2.1.idle
      (s.pool.advance (scripted outcomes) time s.attempts).2.2

theorem Sound.lends (h : s.Sound outcomes) : s.Lends outcomes := by
  have hfirst : s.entered[s.left.length]? = s.pool.idle.head? := by
    rw [h.entered_eq, List.getElem?_append_right (Nat.le_refl _), Nat.sub_self,
      List.head?_eq_getElem?]
  have hmade : s.pool.idle = [] → s.pool.borrow (scripted outcomes) s.attempts =
      (outcomes s.attempts, s.pool, s.attempts + 1) := by
    intro hidle
    rw [ReusePool.borrow, hidle]
    rfl
  have hlongest : ∀ object rest, s.pool.idle = object :: rest →
      s.pool.borrow (scripted outcomes) s.attempts =
        (.ok object, { s.pool with idle := rest }, s.attempts) := by
    intro object rest hidle
    rw [ReusePool.borrow, hidle]
  refine ⟨fun hne => ?_, hmade, fun e he => ?_⟩
  · obtain ⟨object, rest, hidle⟩ := List.exists_cons_of_ne_nil hne
    rw [hfirst, hidle]
    exact ⟨object, rfl, hlongest object rest hidle⟩
  · cases hidle : s.pool.idle with
    | nil =>
        rw [hmade hidle] at he ⊢
        exact ⟨he, rfl⟩
    | cons object rest =>
        rw [hlongest object rest hidle] at he
        cases he

theorem makeNext_front (outcomes : Nat → Except ε α) (s : Custody α) (count : Nat) :
    (s.makeNext outcomes count).dropped = s.dropped ∧
      (s.makeNext outcomes count).lent = s.lent ∧
      ∃ made, (s.makeNext outcomes count).pool.idle = s.pool.idle ++ made := by
  unfold makeNext
  split
  · next object n _ => exact ⟨rfl, rfl, [object], rfl⟩
  · exact ⟨rfl, rfl, [], (List.append_nil _).symm⟩

theorem rebalances (s : Custody α) : s.Rebalances outcomes := by
  have hstays : s.pool.idle = s.pool.idle.drop 0 ++ [] ∧
      s.dropped = s.dropped ++ s.pool.idle.take 0 := by simp
  refine ⟨?_, ?_, comesTo_advance⟩
  · unfold check
    split
    · exact ⟨0, [], hstays⟩
    · split
      · exact ⟨0, [], hstays⟩
      · exact ⟨0, [], hstays⟩
    · exact ⟨0, [], hstays⟩
    · next count _ _ =>
        obtain ⟨hdropped, -, made, hidle⟩ := makeNext_front outcomes s count
        exact ⟨0, made, hidle, hdropped.trans hstays.2⟩
    · exact ⟨_, [], (List.append_nil _).symm, rfl⟩
  · unfold check
    split
    · rfl
    · split <;> rfl
    · rfl
    · exact (makeNext_front outcomes s _).2.1
    · rfl

/-- A pool is made if the factory does not fail while it makes the first objects, and
then has just these; otherwise the first failure is the outcome and nothing more is
tried. However the pool is used then, by whom and in whatever order, every object that
was ever made is in one place, and there once; objects leave the queue in the order in
which they came into it, be they borrowed or dropped. -/
theorem run_conserves (h : NeverRepeats outcomes) (plan : Plan) :
    ((Succeeds outcomes 0 plan.size ∧
        ∃ pool, plan.make outcomes = (.ok pool, plan.size) ∧ pool.idle.length = plan.size) ∨
      ∃ before < plan.size, ∃ e, FailsAfter outcomes 0 before e ∧
        plan.make outcomes = (.error e, before + 1)) ∧
    ∀ pool n, plan.make outcomes = (.ok pool, n) → ∀ moves,
      let s := (start pool n).run outcomes moves
      s.objects.Nodup ∧
      (∀ object, object ∈ s.objects ↔ ∃ i < s.attempts, outcomes i = .ok object) ∧
      s.entered = s.left ++ s.pool.idle ∧
      s.Lends outcomes ∧ s.Rebalances outcomes := by
  refine ⟨?_, fun pool n hmake moves => ?_⟩
  · rcases succeeds_or_failsAfter outcomes 0 plan.size with hall | ⟨before, hbefore, e, hfails⟩
    · exact Or.inl ⟨hall, _, Plan.make_of_succeeds hall, length_created hall⟩
    · exact Or.inr ⟨before, hbefore, e, hfails, Plan.make_of_failsAfter hfails hbefore⟩
  · intro s
    have hs : s.Sound outcomes := (sound_start hmake).run moves
    refine ⟨hs.perm.nodup_iff.2 (nodup_created h 0 _), fun object => ?_, hs.entered_eq, hs.lends,
      s.rebalances⟩
    rw [hs.perm.mem_iff, mem_created_iff, Nat.zero_add]
    exact exists_congr fun i => and_congr_left fun _ => ⟨fun hi => hi.2, fun hi => ⟨i.zero_le, hi⟩⟩

/-- Every third attempt fails. While the background task makes up for what was borrowed,
everything comes back, and so it makes one too many and drops the oldest. -/
theorem run_conserves_busy :
    let outcomes : Nat → Except String Nat := fun n => if n % 3 = 2 then .error "busy" else .ok n
    let pool : ReusePool Nat := ⟨[0], some ⟨⟨1, 2, 1000⟩, true, 0⟩⟩
    let s := (start pool 1).run outcomes [.borrow, .borrow, .borrow, .check, .giveBack 1,
      .borrow, .check, .check, .giveBack 0, .giveBack 0, .check, .check]
    NeverRepeats outcomes ∧ (Plan.banded ⟨1, 2, 1000⟩).make outcomes = (.ok pool, 1) ∧
      (s.pool.idle, s.lent, s.dropped) = ([0, 1], [], [3]) ∧ s.objects.Nodup ∧
      (s.pool.borrow (scripted outcomes) s.attempts).1.toOption = some 0 := by
  intro outcomes pool s
  have hnever : NeverRepeats outcomes := by
    intro i j object hi hj
    simp only [outcomes] at hi hj
    split at hi
    · cases hi
    · split at hj
      · cases hj
      · cases hi
        cases hj
        rfl
  have hmake : (Plan.banded ⟨1, 2, 1000⟩).make outcomes = (.ok pool, 1) := rfl
  have hplaces : (s.pool.idle, s.lent, s.dropped) = ([0, 1], [], [3]) := by
    decide
  have hborrow : (s.pool.borrow (scripted outcomes) s.attempts).1.toOption = some 0 := by decide
  exact ⟨hnever, hmake, hplaces, ((run_conserves hnever _).2 pool 1 hmake _).1, hborrow⟩

end Custody

end DirectoryClient.ReusePool
