import DirectoryClient.Base64
import DirectoryClient.Error

/-!
# Octets in text files

A text file carries octets in sections: a line that opens a section and names
what it holds, base64 over several lines, and a line that closes it. What stands
outside of sections does not matter.

Lines end with a line feed or a carriage return; the empty lines that a pair of
both makes change nothing. A line that opens a section inside another one only
changes its label, and what was collected so far stays.
-/

namespace DirectoryClient.Tls

structure Section where
  label : Bytes
  content : Bytes
  deriving DecidableEq

namespace Section

def certificate : Bytes := Text.bytes "CERTIFICATE"

def privateKey : Bytes := Text.bytes "PRIVATE KEY"

end Section

namespace Pem

def isLineEnd (b : UInt8) : Bool := b == 0x0A || b == 0x0D

def lines : Bytes → List Bytes
  | [] => [[]]
  | b :: rest =>
      match lines rest with
      | [] => [[b]]
      | line :: more => if isLineEnd b then [] :: line :: more else (b :: line) :: more

/-- A line without the spaces at its end. -/
def withoutTrail (line : Bytes) : Bytes := (line.reverse.dropWhile (· == 0x20)).reverse

/-- What opens a section, before its label. -/
def opening : Bytes := Text.bytes "-----BEGIN "

/-- What closes a section of this label. -/
def closing (label : Bytes) : Bytes := Text.bytes "-----END " ++ label ++ Text.bytes "-----"

/-- What a line means. -/
inductive Line
  | opens (label : Bytes)
  /-- A line that opens a section, but not with five dashes at its end. -/
  | badOpening
  | other
  deriving DecidableEq

/-- The meaning of a line. Spaces among the dashes at its end do not count. -/
def meaning (line : Bytes) : Line :=
  if opening.isPrefixOf line then
    let trail := (line.reverse.takeWhile fun b => b == 0x2D || b == 0x20).reverse
    if trail.count 0x2D = 5 then
      let dashes := trail.dropWhile (· == 0x20)
      .opens ((line.take (line.length - dashes.length)).drop opening.length)
    else .badOpening
  else .other

/-- Reads lines. `label` is that of the open section, and `body` is what was
collected in it. -/
def readLines (label : Option Bytes) (body : Bytes) :
    List Bytes → Except IoKind (List Section)
  | [] => if label.isSome then .error .invalidData else .ok []
  | line :: rest =>
      match meaning line, label with
      | .badOpening, _ => .error .invalidData
      | .opens label, _ => readLines (some label) body rest
      | .other, none => readLines none body rest
      | .other, some label =>
          if (closing label).isPrefixOf line then
            match Base64.decodeWith .optional body with
            | .error _ => .error .invalidData
            | .ok content => (readLines none [] rest).map (⟨label, content⟩ :: ·)
          else readLines (some label) (body ++ withoutTrail line) rest

def sections (file : Bytes) : Except IoKind (List Section) := readLines none [] (lines file)

def contents (label file : Bytes) : Except IoKind (List Bytes) :=
  (sections file).map fun found => (found.filter (·.label = label)).map Section.content

end Pem

end DirectoryClient.Tls
