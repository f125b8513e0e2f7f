/-!
# Letters without case

Directory names are compared without regard to the case of the ASCII letters
and of no others. Folding both sides first makes the comparison an equality,
so that it is reflexive, symmetric and transitive for free.
-/

namespace DirectoryClient.Text

/-- The text with the letters `A` to `Z` made small. -/
def foldCase (s : String) : String := String.ofList (s.toList.map Char.toLower)

/-- Whether two names are equal up to the case of ASCII letters. -/
def sameName (a b : String) : Bool := foldCase a == foldCase b

theorem sameName_iff {a b : String} : sameName a b = true ↔ foldCase a = foldCase b := by
  simp [sameName]

theorem sameName_self (a : String) : sameName a a = true := by simp [sameName]

/-- The value of a hexadecimal digit of either case. -/
def hexDigit? (c : Char) : Option Nat :=
  if '0' ≤ c ∧ c ≤ '9' then some (c.toNat - '0'.toNat)
  else if 'a' ≤ c ∧ c ≤ 'f' then some (c.toNat - 'a'.toNat + 10)
  else if 'A' ≤ c ∧ c ≤ 'F' then some (c.toNat - 'A'.toNat + 10)
  else none

/-- The small hexadecimal digit of a number below sixteen. -/
def hexDigit (n : Nat) : Char :=
  if n < 10 then Char.ofNat ('0'.toNat + n) else Char.ofNat ('a'.toNat + (n - 10))

/-- The two small hexadecimal digits of an octet. -/
def hexPair (b : UInt8) : List Char := [hexDigit (b.toNat / 16), hexDigit (b.toNat % 16)]

end DirectoryClient.Text
