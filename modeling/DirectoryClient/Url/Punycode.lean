/-!
# Names in ASCII letters

A text can be written in ASCII letters, digits and hyphens alone: first its ASCII
characters as they are, then a hyphen, then numbers that say where which of the
other characters belong, in the order of their code points. A number is written with
digits of changing weights, so that its end can be seen; how the weights change is
adapted to the size of the numbers before.

Writing and reading a number are turned into each other by the same thresholds. Each
number takes at least one digit, which is why reading ends.
-/

namespace DirectoryClient.Url.Punycode

/-! ## Weights -/

/-- The threshold of a digit: smaller digits end a number. -/
def threshold (k bias : Nat) : Nat := min 26 (max 1 (k - bias))

theorem one_le_threshold (k bias : Nat) : 1 ≤ threshold k bias := by
  unfold threshold
  omega

/-- Adds up how often a distance has to be divided until it is small. -/
def steps (delta : Nat) : Nat × Nat :=
  if 455 < delta then
    let (rest, k) := steps (delta / 35)
    (rest, k + 36)
  else (delta, 0)
termination_by delta

/-- The bias for the next number, from the distance that the last one stood for and
the count of characters by then. -/
def adapt (delta count : Nat) (isFirst : Bool) : Nat :=
  let delta := if isFirst then delta / 700 else delta / 2
  let (rest, k) := steps (delta + delta / count)
  k + 36 * rest / (rest + 38)

/-! ## Writing -/

/-- The character for a digit below 36. -/
def digit (n : Nat) : Char :=
  if n < 26 then Char.ofNat ('a'.toNat + n) else Char.ofNat ('0'.toNat + (n - 26))

/-- The digits of a number. -/
def writeNumber (bias k n : Nat) : List Char :=
  let t := threshold k bias
  if t ≤ n then digit (t + (n - t) % (36 - t)) :: writeNumber bias (k + 36) ((n - t) / (36 - t))
  else [digit n]
termination_by n
decreasing_by
  have := one_le_threshold k bias
  have := Nat.div_le_self (n - threshold k bias) (36 - threshold k bias)
  omega

/-- What is known while a text is written or read: the distance since the last
number, the bias, and how many characters were written. -/
structure State where
  delta : Nat
  bias : Nat
  count : Nat

/-- Writes the places of the character with the code point `m`. -/
def writePlaces (m basic : Nat) : State → List Char → List Char × State
  | s, [] => ([], s)
  | s, c :: rest =>
      if c.toNat < m then writePlaces m basic { s with delta := s.delta + 1 } rest
      else if c.toNat = m then
        let number := writeNumber s.bias 36 s.delta
        let bias := adapt s.delta (s.count + 1) (s.count = basic)
        let (more, s) := writePlaces m basic ⟨0, bias, s.count + 1⟩ rest
        (number ++ more, s)
      else writePlaces m basic s rest

/-- Writes the places of characters, by code point. `n` is the first code point that
is still to come. -/
def writeAll (text : List Char) (basic : Nat) : (n : Nat) → State → List Nat → List Char
  | _, _, [] => []
  | n, s, m :: rest =>
      let s := { s with delta := s.delta + (m - n) * (s.count + 1) }
      let (places, s) := writePlaces m basic s text
      places ++ writeAll text basic (m + 1) { s with delta := s.delta + 1 } rest

def encode (text : List Char) : List Char :=
  let basic := text.filter (·.toNat < 128)
  let others := ((text.filter (128 ≤ ·.toNat)).map Char.toNat).mergeSort.eraseDups
  basic ++ (if basic.isEmpty then [] else ['-']) ++
    writeAll text basic.length 128 ⟨0, 72, basic.length⟩ others

/-! ## Reading -/

def digit? (c : Char) : Option Nat :=
  if 'a' ≤ c ∧ c ≤ 'z' then some (c.toNat - 'a'.toNat)
  else if 'A' ≤ c ∧ c ≤ 'Z' then some (c.toNat - 'A'.toNat)
  else if '0' ≤ c ∧ c ≤ '9' then some (c.toNat - '0'.toNat + 26)
  else none

/-- Reads a number whose digits so far make `n`, where the next one has this weight. -/
def readNumber? (bias : Nat) : (k weight n : Nat) → List Char → Option (Nat × List Char)
  | _, _, _, [] => none
  | k, weight, n, c :: rest =>
      match digit? c with
      | none => none
      | some d =>
          let t := threshold k bias
          let n := n + d * weight
          if d < t then some (n, rest)
          else readNumber? bias (k + 36) (weight * (36 - t)) n rest

theorem readNumber?_length {bias k weight n m : Nat} {cs rest : List Char}
    (h : readNumber? bias k weight n cs = some (m, rest)) : rest.length < cs.length := by
  induction cs generalizing k weight n with
  | nil => cases h
  | cons c more ih =>
      unfold readNumber? at h
      split at h
      · cases h
      · simp only at h
        split at h
        · simp only [Option.some.injEq, Prod.mk.injEq] at h
          rw [← h.2]
          exact Nat.lt_succ_self _
        · exact Nat.lt_succ_of_lt (ih h)

/-- Reads numbers and puts the characters they stand for in their places. `n` is the
code point and `i` the place of the last one. -/
def readAll? (n i bias : Nat) (out : List Char) (cs : List Char) : Option (List Char) :=
  match cs with
  | [] => some out
  | c :: more =>
      match h : readNumber? bias 36 1 i (c :: more) with
      | none => none
      | some (j, rest) =>
          have : rest.length < (c :: more).length := readNumber?_length h
          let count := out.length + 1
          let code := n + j / count
          let place := j % count
          if code.isValidChar then
            readAll? code (place + 1) (adapt (j - i) count (i = 0))
              (out.insertIdx place (Char.ofNat code)) rest
          else none
termination_by cs.length
decreasing_by exact this

def decode? (text : List Char) : Option (List Char) :=
  let tail := (text.reverse.takeWhile (· ≠ '-')).reverse
  let basic := text.take (text.length - tail.length - 1)
  if basic.any (128 ≤ ·.toNat) then none
  else if basic.isEmpty then readAll? 128 0 72 [] text
  else readAll? 128 0 72 basic tail

end DirectoryClient.Url.Punycode
