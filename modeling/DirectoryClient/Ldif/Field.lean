import DirectoryClient.Base64
import DirectoryClient.Ldif.Complaint
import DirectoryClient.Text.Ascii
import DirectoryClient.Text.Blank
import DirectoryClient.Value

/-!
# Fields

A logical line that is neither a comment nor a separator is a field: a name, a
colon and a value. A second colon announces base64, and a `<` an address to
fetch the value from, which is not done here. The name loses its case, and a
value in plain text loses the spaces in front.
-/

namespace DirectoryClient.Ldif

structure Field where
  name : String
  value : Value
  deriving DecidableEq

namespace Field

/-- Reads what follows the first colon of a line. -/
def parseValue : List Char → Except Complaint Value
  | ':' :: encoded =>
      match Base64.decode (Text.bytes (String.ofList (Text.trim encoded))) with
      | .ok b => .ok (Value.ofBytes b)
      | .error fault => .error (.badBase64 fault)
  | '<' :: _ => .error .urlValue
  | text => .ok (.text (String.ofList (text.dropWhile (· = ' '))))

def parse (line : List Char) : Except Complaint Field :=
  let name := line.takeWhile (· ≠ ':')
  match name, line.dropWhile (· ≠ ':') with
  | _ :: _, _ :: rest =>
      (parseValue rest).map (⟨String.ofList (name.map Char.toLower), ·⟩)
  | _, _ => .error .noName

/-- The value of a field that has to be text. -/
def text (f : Field) : Except Complaint String :=
  match f.value with
  | .text s => .ok s
  | .binary _ => .error .notText

end Field

end DirectoryClient.Ldif
