import DirectoryClient.Text.Ascii
import DirectoryClient.Text.Number
import DirectoryClient.Text.Split
import DirectoryClient.Url.Fault

/-!
# Numeric addresses

A host may be an address of version 4 or 6. The older kind is four numbers, of
which the last may stand for several octets, each decimal, octal or
hexadecimal. The newer kind is eight pieces of sixteen bits, where one row of
zeros may be left out and the last two pieces may be written like an address of
the older kind; it is printed with the longest row of zeros left out.
-/

namespace DirectoryClient.Url

/-! ## Version 4 -/

namespace Ipv4

/-- The value of a row of digits to a base, if all of them are digits of it. -/
def inBase? (base : Nat) (digits : List Char) : Option Nat :=
  digits.foldl (fun n? c => do
    let n ← n?
    let d ← Text.hexDigit? c
    if d < base then some (n * base + d) else none) (some 0)

/-- A number that is decimal, octal after a zero, or hexadecimal after a zero
and an x. -/
def number? : List Char → Option Nat
  | [] => none
  | '0' :: 'x' :: digits | '0' :: 'X' :: digits => inBase? 16 digits
  | ['0'] => some 0
  | '0' :: digits => inBase? 8 digits
  | digits => inBase? 10 digits

/-- Whether the last part of a name is a number, so that the name can only be
an address. -/
def endsInNumber (parts : List (List Char)) : Bool :=
  let check := fun (last : List Char) =>
    (!last.isEmpty && last.all Char.isDigit) || (number? last).isSome
  match parts.reverse with
  | [[]] => false
  | [] :: last :: _ => check last
  | last :: _ => check last
  | [] => false

/-- The address that the parts of a name stand for. The last part fills all the
octets that are left. -/
def ofParts? (parts : List (List Char)) : Option Nat := do
  let parts := if parts.getLast? = some [] then parts.dropLast else parts
  if 4 < parts.length then none
  let numbers ← parts.mapM number?
  let last ← numbers.getLast?
  let front := numbers.dropLast
  if front.any (255 < ·) ∨ Nat.pow 256 (4 - front.length) ≤ last then none
  else some (front.foldl (fun n part => n * 256 + part) 0 * Nat.pow 256 (4 - front.length) + last)

def render (address : Nat) : String :=
  ".".intercalate ([16777216, 65536, 256, 1].map fun unit => toString (address / unit % 256))

end Ipv4

/-! ## Version 6 -/

namespace Ipv6

/-- What has been read of an address: the pieces, latest first, and how many
there were when the gap was met. -/
structure Partway where
  pieces : List Nat
  gap : Option Nat

/-- A number of a dotted tail: no leading zero, and 255 at most. -/
def octet? (digits : List Char) : Option Nat := do
  if digits.isEmpty ∨ !digits.all Char.isDigit then none
  if 1 < digits.length ∧ digits.head? = some '0' then none
  let n := Text.digitsValue digits
  if n ≤ 255 then some n else none

/-- The two pieces for a dotted tail. -/
def dotted? (cs : List Char) : Option (List Nat) := do
  match ← (Text.split '.' cs).mapM octet? with
  | [a, b, c, d] => some [c * 256 + d, a * 256 + b]
  | _ => none

/-- Reads pieces up to the end. -/
def pieces? (p : Partway) : List Char → Option Partway
  | [] => some p
  | ':' :: rest =>
      if p.gap.isSome ∨ 8 ≤ p.pieces.length then none
      else pieces? ⟨0 :: p.pieces, some (p.pieces.length + 1)⟩ rest
  | c :: cs =>
      let digits := ((c :: cs).take 4).takeWhile fun c => (Text.hexDigit? c).isSome
      let read : Partway := { p with pieces := (Ipv4.inBase? 16 digits).getD 0 :: p.pieces }
      if 8 ≤ p.pieces.length then none
      else
        match h : (c :: cs).drop digits.length with
        | [] => some read
        | ':' :: rest =>
            have : rest.length < (c :: cs).length := by
              have := congrArg List.length h
              simp only [List.length_drop, List.length_cons] at this ⊢
              omega
            if rest.isEmpty then none else pieces? read rest
        | '.' :: _ =>
            if digits.isEmpty ∨ 6 < p.pieces.length then none
            else (dotted? (c :: cs)).map fun two => { p with pieces := two ++ p.pieces }
        | _ => none
termination_by cs => cs.length
decreasing_by
  · simp
  · exact this

/-- Puts the zeros of the gap where they belong. The gap itself counts as a
piece of zero. -/
def spread? (p : Partway) : Option (List Nat) :=
  let pieces := p.pieces.reverse
  match p.gap with
  | none => if pieces.length = 8 then some pieces else none
  | some front =>
      some (pieces.take front ++ List.replicate (8 - pieces.length) 0 ++ pieces.drop front)

def parse? (cs : List Char) : Option (List Nat) :=
  match cs with
  | ':' :: ':' :: rest => (pieces? ⟨[0], some 1⟩ rest).bind spread?
  | ':' :: _ => none
  | _ => if cs.length < 2 then none else (pieces? ⟨[], none⟩ cs).bind spread?

/-- The small hexadecimal digits of a number, without leading zeros. -/
def hex (n : Nat) : String := String.ofList (Nat.toDigits 16 n)

/-- The length of the row of zeros at the start. -/
def zeros (pieces : List Nat) : Nat := (pieces.takeWhile (· = 0)).length

/-- Where the longest row of zeros starts, and how long it is; the first of
several, and none shorter than two. -/
def longestZeros (pieces : List Nat) : Option (Nat × Nat) :=
  let rows := (List.range 8).map fun i => (i, zeros (pieces.drop i))
  rows.foldl (fun best row =>
    match best with
    | some (_, length) => if length < row.2 then some row else best
    | none => if 2 ≤ row.2 then some row else none) none

/-- An address with the longest row of zeros left out. -/
def render (pieces : List Nat) : String :=
  let join := fun ps => ":".intercalate (ps.map hex)
  match longestZeros pieces with
  | some (start, length) => join (pieces.take start) ++ "::" ++ join (pieces.drop (start + length))
  | none => join pieces

end Ipv6

end DirectoryClient.Url
