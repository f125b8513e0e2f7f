import DirectoryClient.Error
import DirectoryClient.GeneralizedTime
import DirectoryClient.Record

/-!
# Reading typed values

Some attributes hold truth values or times. A reading looks at the first value
of an attribute: without one, or with one that is not text, there is nothing to
read; text of another form is an error that names the attribute.
-/

namespace DirectoryClient.Record

/-- The first value of an attribute as a truth value, `TRUE` or `FALSE`. -/
def firstTruth? (r : Record) (name : String) : Option (Except Error Bool) :=
  (r.firstText? name).map fun text =>
    if text = "TRUE" then .ok true
    else if text = "FALSE" then .ok false
    else .error (.invalid (.attributeValue name))

/-- The first value of an attribute as a time. -/
def firstTime? (r : Record) (name : String) : Option (Except Error DateTime) :=
  (r.firstText? name).map fun text =>
    match GeneralizedTime.parse? text with
    | some time => .ok time
    | none => .error (.invalid (.attributeValue name))

end DirectoryClient.Record
