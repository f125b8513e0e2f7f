import DirectoryClient.Ldif.Draft
import DirectoryClient.Ldif.Source

/-!
# Reading records one at a time

A reader stands somewhere in what its source delivers. It puts physical lines
together to logical ones, and for that it has to look one line ahead: a line
that begins with a space continues the one before, unless that one is blank.
Logical lines up to a blank line, or to the end, make a record.

Both loops end because lines are used up. `Reader.remaining` counts what is
still to come, the look-ahead included; taking a logical line makes it smaller,
and so does every record. After an error the rest of the input is given up, so
that every later attempt finds nothing.
-/

namespace DirectoryClient.Ldif

/-- A position in a stream of records. -/
structure Reader where
  /-- What is still to arrive. -/
  arrivals : List Arrival
  /-- The line that was looked at ahead, with its number. -/
  ahead : Option (Nat × List Char)
  /-- The number of the first physical line of the current logical line. -/
  line : Nat
  /-- How many physical lines have arrived. -/
  read : Nat
  /-- Whether the end was met, or the rest given up. -/
  ended : Bool
  /-- Whether the stream has had a version line. -/
  versionSeen : Bool

namespace Reader

def new (s : Source) : Reader := ⟨s.arrivals, none, 0, 0, false, false⟩

/-- Whether nothing is left to read. -/
def isAtEnd (r : Reader) : Bool := r.ended && r.ahead.isNone

/-- Gives up the rest of the input. -/
def skip (r : Reader) : Reader := { r with arrivals := [], ahead := none, ended := true }

/-- How many lines or failures are still to be looked at. -/
def remaining (r : Reader) : Nat := r.arrivals.length + r.ahead.toList.length

theorem remaining_skip (r : Reader) : r.skip.remaining = 0 := rfl

/-! ## Logical lines -/

/-- Appends the continuations that arrive to `text`, and keeps the line after
them as look-ahead. -/
def gather (r : Reader) (text : List Char) :
    List Arrival → Except Error (List Char) × Reader
  | [] => (.ok text, { r with arrivals := [], ahead := none, ended := true })
  | .failure kind :: _ => (.error (.io kind), r.skip)
  | .line next :: rest =>
      let r := { r with read := r.read + 1 }
      match text, next with
      | _ :: _, ' ' :: more => gather r (text ++ more) rest
      | _, _ => (.ok text, { r with arrivals := rest, ahead := some (r.read, next) })

/-- Makes a logical line out of the physical line of this number. -/
def logical (r : Reader) (number : Nat) (text : List Char) (rest : List Arrival) :
    Except Error (List Char) × Reader :=
  let r := { r with line := number }
  if text.head? = some ' ' then (.error (.ldif number .looseContinuation), r.skip)
  else gather r text rest

/-- Takes the next logical line; there is none at the end of the input. -/
def nextLine (r : Reader) : Except Error (Option (List Char)) × Reader :=
  match r.ahead, r.arrivals with
  | some (number, text), rest =>
      let (result, r) := logical r number text rest
      (result.map some, r)
  | none, .line text :: rest =>
      let (result, r) := logical { r with read := r.read + 1 } (r.read + 1) text rest
      (result.map some, r)
  | none, .failure kind :: _ => (.error (.io kind), r.skip)
  | none, [] => (.ok none, { r with ended := true })

theorem remaining_gather_le (r : Reader) (text : List Char) (rest : List Arrival) :
    (gather r text rest).2.remaining ≤ rest.length := by
  induction rest generalizing r text with
  | nil => simp [gather, remaining]
  | cons a rest ih =>
      cases a with
      | failure kind => simp [gather, remaining_skip]
      | line next =>
          unfold gather
          split
          · exact Nat.le_trans (ih _ _) (by simp)
          · simp [remaining]

theorem remaining_logical_le (r : Reader) (number : Nat) (text : List Char) (rest : List Arrival) :
    (logical r number text rest).2.remaining ≤ rest.length := by
  unfold logical
  split
  · simp [remaining_skip]
  · exact remaining_gather_le _ _ _

theorem remaining_nextLine_le (r : Reader) : r.nextLine.2.remaining ≤ r.remaining := by
  unfold nextLine
  split
  · next number text h =>
      refine Nat.le_trans (remaining_logical_le r number text r.arrivals) ?_
      simp [remaining]
  · next text rest h₁ h₂ =>
      refine Nat.le_trans (remaining_logical_le _ _ text rest) ?_
      simp [remaining, h₂]
      omega
  · simp [remaining_skip]
  · simp [remaining]

theorem remaining_nextLine_lt {r r' : Reader} {text : List Char}
    (h : r.nextLine = (.ok (some text), r')) : r'.remaining < r.remaining := by
  have h₂ : r.nextLine.2 = r' := by rw [h]
  rw [← h₂]
  unfold nextLine at h ⊢
  split
  · next number t h₁ =>
      refine Nat.lt_of_le_of_lt (remaining_logical_le r number t r.arrivals) ?_
      simp [remaining, h₁]
  · next t rest h₁ h₃ =>
      refine Nat.lt_of_le_of_lt (remaining_logical_le _ _ t rest) ?_
      simp [remaining, h₃]
      omega
  · next h₁ h₃ => simp [h₁, h₃] at h
  · next h₁ h₃ => simp [h₁, h₃] at h

/-! ## Records -/

/-- Ends a draft where no more lines follow. -/
def finish (r : Reader) (d : Draft) : Except Error (Option Record) × Reader :=
  match d.finish with
  | .ok record => (.ok record, r)
  | .error complaint => (.error (.ldif r.line complaint), r.skip)

/-- Goes on with a draft up to a blank line or the end. -/
def complete (r : Reader) (d : Draft) : Except Error (Option Record) × Reader :=
  match h : r.nextLine with
  | (.error e, r') => (.error e, r')
  | (.ok none, r') => r'.finish d
  | (.ok (some text), r') =>
      have := remaining_nextLine_lt h
      if text.isEmpty then
        if d.begun then r'.finish d else complete r' d
      else
        match d.accept r'.versionSeen text with
        | .error complaint => (.error (.ldif r'.line complaint), r'.skip)
        | .ok (d, seen) => complete { r' with versionSeen := seen } d
termination_by r.remaining

/-- Reads the next record; there is none at the end of the input. -/
def next (r : Reader) : Except Error (Option Record) × Reader := r.complete Draft.empty

theorem remaining_finish_le (r : Reader) (d : Draft) :
    (r.finish d).2.remaining ≤ r.remaining := by
  unfold finish
  split
  · exact Nat.le_refl _
  · simp [remaining_skip]

theorem remaining_complete_le (r : Reader) (d : Draft) :
    (r.complete d).2.remaining ≤ r.remaining := by
  fun_induction complete r d with
  | case1 r d e r' h => simpa [h] using remaining_nextLine_le r
  | case2 r d r' h =>
      exact Nat.le_trans (remaining_finish_le r' d) (by simpa [h] using remaining_nextLine_le r)
  | case3 r d text r' h hlt =>
      exact Nat.le_trans (remaining_finish_le r' d) (Nat.le_of_lt hlt)
  | case4 r d text r' h hlt _ _ ih => exact Nat.le_trans ih (Nat.le_of_lt hlt)
  | case5 => simp [remaining_skip]
  | case6 r d text r' h hlt _ d' seen _ ih => exact Nat.le_trans ih (Nat.le_of_lt hlt)

theorem remaining_complete_lt {r r' : Reader} {d : Draft} {record : Record}
    (hd : d.begun = false) (hs : d.phase = .start)
    (h : r.complete d = (.ok (some record), r')) : r'.remaining < r.remaining := by
  have hle : ∀ (s : Reader) (d : Draft), s.remaining < r.remaining →
      s.complete d = (.ok (some record), r') → r'.remaining < r.remaining := by
    intro s d hlt he
    have := remaining_complete_le s d
    rw [he] at this
    exact Nat.lt_of_le_of_lt this hlt
  rw [complete] at h
  split at h
  · cases h
  · simp [finish, Draft.finish, hs, hd] at h
  · next text s hn =>
      have hlt := remaining_nextLine_lt hn
      simp only [hd, Bool.false_eq_true, ↓reduceIte] at h
      split at h
      · exact hle s d hlt h
      · split at h
        · cases h
        · next d' seen _ => exact hle { s with versionSeen := seen } d' hlt h

/-- Every record uses up something of the input. -/
theorem remaining_next_lt {r r' : Reader} {record : Record}
    (h : r.next = (.ok (some record), r')) : r'.remaining < r.remaining :=
  remaining_complete_lt rfl rfl h

/-! ## All records -/

/-- Everything that a reader finds: the records up to the end of the input or
the first error, that error, and where the reader stands after it. -/
def all (r : Reader) : List Record × Except Error Unit × Reader :=
  match h : r.next with
  | (.ok (some record), r') =>
      have := remaining_next_lt h
      let (records, ending, last) := all r'
      (record :: records, ending, last)
  | (.ok none, r') => ([], .ok (), r')
  | (.error e, r') => ([], .error e, r')
termination_by r.remaining

end Reader

end DirectoryClient.Ldif
