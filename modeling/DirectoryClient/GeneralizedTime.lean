import DirectoryClient.Calendar
import DirectoryClient.Text.Number

/-!
# Generalized Time

Operational attributes such as `modifyTimestamp` hold times written as four
digits of the year, two each of month, day, hour, minute and second, and a `Z`.
A sign may stand in front of the year. Nothing else is accepted, and the digits
have to name a time that exists.
-/

namespace DirectoryClient.GeneralizedTime

/-- Reads exactly `n` decimal digits and gives what follows. -/
def digits? (n : Nat) (cs : List Char) : Option (Nat × List Char) :=
  let row := cs.take n
  if row.length = n ∧ row.all Char.isDigit then some (Text.digitsValue row, cs.drop n) else none

/-- Reads what stands behind the sign. -/
def unsigned? (negative : Bool) (cs : List Char) : Option DateTime := do
  let (year, cs) ← digits? 4 cs
  let (month, cs) ← digits? 2 cs
  let (day, cs) ← digits? 2 cs
  let (hour, cs) ← digits? 2 cs
  let (minute, cs) ← digits? 2 cs
  let (second, cs) ← digits? 2 cs
  let time : DateTime :=
    ⟨if negative then -(year : Int) else year, month, day, hour, minute, second⟩
  if cs = ['Z'] ∧ time.isValid then some time else none

def parse? (text : String) : Option DateTime :=
  match text.toList with
  | '-' :: rest => unsigned? true rest
  | '+' :: rest => unsigned? false rest
  | cs => unsigned? false cs

end DirectoryClient.GeneralizedTime
