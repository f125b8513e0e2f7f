/-!
# Whole numbers in text

A number is written as at least one decimal digit, optionally after a plus
sign, and has to fit the word it is read into. Leading zeros are allowed.
-/

namespace DirectoryClient.Text

/-- The value of a row of decimal digits. -/
def digitsValue (cs : List Char) : Nat :=
  cs.foldl (fun n c => n * 10 + (c.toNat - '0'.toNat)) 0

/-- The number that a non-empty row of decimal digits stands for. -/
def natural? (cs : List Char) : Option Nat :=
  if cs.isEmpty || !cs.all Char.isDigit then none else some (digitsValue cs)

/-- The number written in `cs`, if it fits 64 bits. -/
def word? (cs : List Char) : Option UInt64 := do
  let digits := match cs with
    | '+' :: rest => rest
    | _ => cs
  let n ← natural? digits
  if n < UInt64.size then some (UInt64.ofNat n) else none

def ofWord (w : UInt64) : String := toString w.toNat

/-- The truth value written as `true` or `false`. -/
def truth? (cs : List Char) : Option Bool :=
  if cs = ['t', 'r', 'u', 'e'] then some true
  else if cs = ['f', 'a', 'l', 's', 'e'] then some false
  else none

def ofTruth (b : Bool) : String := if b then "true" else "false"

end DirectoryClient.Text
