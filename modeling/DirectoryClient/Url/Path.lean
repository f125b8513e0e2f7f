import DirectoryClient.Text.Split
import DirectoryClient.Url.Percent

/-!
# Paths

A path is a list of segments, each after a slash. Segments are taken in one by
one: a single dot stays where it is, a double dot leaves the last segment, and
anything else is a new segment. A path that ends with dots still ends with a
slash, that is, with an empty segment.

A letter with a colon or a bar may be the name of a drive. A double dot does not
climb out of a drive, and in a file URL the first segment, if it is a drive,
is written with a colon and needs no host.
-/

namespace DirectoryClient.Url

namespace Path

/-- Whether an encoded segment stands for the same place. -/
def isDot (segment : List Char) : Bool :=
  let s := segment.map Char.toLower
  s == ['.'] || s == ['%', '2', 'e']

/-- Whether an encoded segment stands for the place above. -/
def isDoubleDot (segment : List Char) : Bool :=
  let s := segment.map Char.toLower
  s == ['.', '.'] || s == ['%', '2', 'e', '.'] || s == ['.', '%', '2', 'e'] ||
    s == ['%', '2', 'e', '%', '2', 'e']

/-- Whether a text is the name of a drive, colon or bar included. -/
def isDrive : List Char → Bool
  | [letter, mark] => letter.isAlpha && (mark = ':' || mark = '|')
  | _ => false

/-- Whether a segment is a drive as far as leaving it is concerned. -/
def blocksClimb (segment : List Char) : Bool :=
  isDrive (segment.take 2) && (segment.length = 2 || segment[2]? = some '\\')

def climb (path : List (List Char)) : List (List Char) :=
  match path.getLast? with
  | some last => if blocksClimb last then path else path.dropLast
  | none => path

/-- A path in the making, and whether it begins with a drive that needs no
host. -/
structure Partway where
  segments : List (List Char)
  hasDrive : Bool

/-- Takes in a segment that is not made of dots. -/
def push (isFile : Bool) (p : Partway) (segment : List Char) : Partway :=
  if isFile ∧ p.segments.isEmpty ∧ isDrive segment then
    ⟨[segment.take 1 ++ [':']], true⟩
  else { p with segments := p.segments ++ [segment] }

/-- Whether the first segment of a file URL goes on after the colon of a drive;
it is cut there. -/
def isDriveAndMore (isFile : Bool) (p : Partway) (segment : List Char) : Bool :=
  isFile && p.segments.isEmpty && isDrive (segment.take 2) && segment[1]? = some ':' &&
    2 < segment.length

/-- Takes in the raw segments of a path. -/
def build (isFile : Bool) (p : Partway) : List (List Char) → Partway
  | [] => p
  | raw :: rest =>
      let segment := percentEncode pathSet raw
      let closed := fun (segments : List (List Char)) =>
        { p with segments := if rest.isEmpty then segments ++ [[]] else segments }
      build isFile (
        if isDriveAndMore isFile p segment then
          { p with segments := [segment.take 2, segment.drop 2] }
        else if isDoubleDot segment then closed (climb p.segments)
        else if isDot segment then closed p.segments
        else push isFile p segment) rest

/-- The segments of a path of a file URL: empty ones in front do not count. -/
def trimFile (path : List (List Char)) : List (List Char) :=
  match path.dropWhile (·.isEmpty) with
  | [] => [[]]
  | segments => segments

end Path

end DirectoryClient.Url
