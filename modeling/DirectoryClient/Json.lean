/-!
# JSON values

A tree of JSON. Numbers are whole or not; a number that is not whole, or is
written with an exponent, means nothing to this library but that it is none of
the whole ones.
-/

namespace DirectoryClient

/-- A JSON value. The fields of an object keep their order. -/
inductive Json
  | null
  | bool (b : Bool)
  | integer (n : Int)
  | fraction
  | text (s : String)
  | array (items : List Json)
  | object (fields : List (String × Json))
  deriving Inhabited

namespace Json

def field? (j : Json) (name : String) : Option Json :=
  match j with
  | object fields => fields.lookup name
  | _ => none

end Json

end DirectoryClient
