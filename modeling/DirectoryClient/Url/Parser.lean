import DirectoryClient.Url.Basic

/-!
# Reading URLs

The schemes of the web and the scheme of files have rules of their own: for
them a backslash is a slash, hosts are domain names, and a path is never empty.
All other schemes share one set of rules.

Control characters and spaces around a URL do not count, and neither do tabs
and line breaks anywhere in it.
-/

namespace DirectoryClient.Url

/-- The sets of rules for schemes. -/
inductive Kind
  | web
  | file
  | general
  deriving DecidableEq

def Kind.ofScheme (scheme : String) : Kind :=
  if scheme = "file" then .file
  else if ["http", "https", "ws", "wss", "ftp"].contains scheme then .web
  else .general

/-- The port that a scheme of the web uses where none is written. -/
def defaultPort? (scheme : String) : Option Nat :=
  [("http", 80), ("https", 443), ("ws", 80), ("wss", 443), ("ftp", 21)].lookup scheme

namespace Kind

/-- Whether a character separates segments. -/
def isSlash (kind : Kind) (c : Char) : Bool := c = '/' || (c = '\\' && kind != general)

/-- Whether a character ends the authority. -/
def endsAuthority (kind : Kind) (c : Char) : Bool := kind.isSlash c || c = '?' || c = '#'

end Kind

namespace Parser

/-! ## The ends of a text -/

/-- What counts of a text. -/
def clean (cs : List Char) : List Char :=
  let inner := ((cs.dropWhile (· ≤ ' ')).reverse.dropWhile (· ≤ ' ')).reverse
  inner.filter fun c => c ≠ '\t' ∧ c ≠ '\n' ∧ c ≠ '\r'

def isSchemeChar (c : Char) : Bool := c.isAlphanum || c = '+' || c = '-' || c = '.'

/-- The scheme, and what follows its colon. -/
def scheme? (cs : List Char) : Option (String × List Char) :=
  match cs with
  | c :: _ =>
      if c.isAlpha then
        match cs.dropWhile isSchemeChar with
        | ':' :: rest =>
            some (String.ofList ((cs.takeWhile isSchemeChar).map Char.toLower), rest)
        | _ => none
      else none
  | [] => none

/-! ## Query and fragment -/

/-- Splits off the query and the fragment. -/
def splitTail (cs : List Char) : List Char × Option (List Char) × Option (List Char) :=
  let (front, fragment) := Text.splitFirst '#' cs
  let (front, query) := Text.splitFirst '?' front
  (front, query, fragment)

/-- The URL with an encoded query and fragment. -/
def assemble (kind : Kind) (scheme : String) (authority : Option Authority) (location : Location)
    (query fragment : Option (List Char)) : Url :=
  let set := if kind = .general then querySet else webQuerySet
  ⟨scheme, authority, location, query.map (String.ofList ∘ percentEncode set),
    fragment.map (String.ofList ∘ percentEncode fragmentSet)⟩

/-! ## Paths -/

/-- The raw segments of a path whose first slash has been taken off. -/
def rawSegments (kind : Kind) (cs : List Char) : List (List Char) :=
  Text.split '/' (cs.map fun c => if kind.isSlash c then '/' else c)

/-- The path that follows an authority. Where nothing follows, it is empty, but
not for the schemes of the web. A slash in front is supplied. -/
def pathAfterAuthority (kind : Kind) (cs : List Char) : Path.Partway :=
  match cs with
  | [] => if kind = .general then ⟨[], false⟩ else ⟨[[]], false⟩
  | c :: rest =>
      Path.build (kind = .file) ⟨[], false⟩
        (rawSegments kind (if kind.isSlash c then rest else cs))

/-! ## Authorities -/

/-- The part of the text before the last at sign, and what follows it. -/
def splitUser (cs : List Char) : Option (List Char) × List Char :=
  let host := (cs.reverse.takeWhile (· ≠ '@')).reverse
  if host.length = cs.length then (none, cs)
  else (some (cs.take (cs.length - host.length - 1)), host)

/-- The user name and the password before a host; either may be missing. -/
def credentials (cs : List Char) : String × Option String :=
  let (user, password) := Text.splitFirst ':' cs
  let encode := fun (part : List Char) => String.ofList (percentEncode userSet part)
  (encode user, match password with
    | none | some [] => none
    | some p => some (encode p))

/-- Splits a text where the host ends: at the end of the authority, or at a colon
outside of brackets. -/
def splitHost (kind : Kind) (inside : Bool) : List Char → List Char × List Char
  | [] => ([], [])
  | c :: rest =>
      if kind.endsAuthority c || (c = ':' && !inside) then ([], c :: rest)
      else
        let inside := if c = '[' then true else if c = ']' then false else inside
        let (host, rest) := splitHost kind inside rest
        (c :: host, rest)

def maxPort : Nat := 65535

/-- Reads the port and gives what follows it. -/
def port (cs : List Char) : Except Fault (Option Nat × List Char) :=
  let digits := cs.takeWhile Char.isDigit
  let rest := cs.dropWhile Char.isDigit
  let ends := match rest with
    | [] => true
    | c :: _ => c = '/' || c = '\\' || c = '?' || c = '#'
  if maxPort < Text.digitsValue digits then .error .badPort
  else if ends then .ok (if digits.isEmpty then none else some (Text.digitsValue digits), rest)
  else .error .badPort

/-- Reads an authority and gives what follows it. -/
def authority (kind : Kind) (scheme : String) (cs : List Char) :
    Except Fault (Authority × List Char) := do
  let (user, front) := splitUser (cs.takeWhile (! kind.endsAuthority ·))
  let after := cs.dropWhile (! kind.endsAuthority ·)
  if user = some [] ∧ front.isEmpty ∧ !after.isEmpty then throw .emptyHost
  let (name, password) := credentials (user.getD [])
  let hasUser := !name.isEmpty || password.isSome
  let (hostText, rest) := splitHost kind false (front ++ after)
  if kind = .web ∧ hostText.isEmpty then throw .emptyHost
  let host ← if kind = .web then Host.parseWeb hostText else Host.parseFree hostText
  if hostText.isEmpty then
    if rest.head? = some ':' ∨ hasUser then throw .emptyHost
    return (⟨name, password, none, none⟩, rest)
  else
    match rest with
    | ':' :: rest =>
        let (port, rest) ← port rest
        let shown := if port = defaultPort? scheme then none else port
        return (⟨name, password, some host, shown⟩, rest)
    | _ => return (⟨name, password, some host, none⟩, rest)

/-! ## The three kinds -/

/-- The URL after `//`. -/
def afterSlashes (kind : Kind) (scheme : String) (cs : List Char) : Except Fault Url := do
  let (authority, rest) ← authority kind scheme cs
  let (path, query, fragment) := splitTail rest
  let built := pathAfterAuthority kind path
  return assemble kind scheme (some authority)
    (.segments (built.segments.map String.ofList)) query fragment

/-- The URL after the colon of a scheme without rules of its own. -/
def general (scheme : String) (cs : List Char) : Except Fault Url :=
  match cs with
  | '/' :: '/' :: rest => afterSlashes .general scheme rest
  | _ =>
      let (path, query, fragment) := splitTail cs
      let location := match path with
        | '/' :: _ => .segments ((pathAfterAuthority .general path).segments.map String.ofList)
        | _ => Location.flat (String.ofList (percentEncode controlSet path))
      .ok (assemble .general scheme none location query fragment)

/-- Splits off the host of a file URL; a drive is no host. -/
def splitFileHost (cs : List Char) : List Char × List Char :=
  let host := cs.takeWhile (! Kind.file.endsAuthority ·)
  if Path.isDrive host then ([], '/' :: cs)
  else (host, cs.dropWhile (! Kind.file.endsAuthority ·))

/-- Reads the host of a file URL; the host `localhost` is none. -/
def fileHost (cs : List Char) : Except Fault (Option Host) :=
  if cs.isEmpty then .ok none
  else (Host.parseWeb cs).map fun host =>
    if host = .name "localhost" then none else some host

/-- The URL after the colon of the scheme of files. -/
def file (cs : List Char) : Except Fault Url := do
  let (hostText, rest) := match cs with
    | a :: b :: rest =>
        if Kind.file.isSlash a && Kind.file.isSlash b then splitFileHost rest else ([], cs)
    | _ => ([], cs)
  let host ← fileHost hostText
  let (path, query, fragment) := splitTail rest
  let built := pathAfterAuthority .file path
  let authority : Authority := ⟨"", none, if built.hasDrive then none else host, none⟩
  return assemble .file "file" (some authority)
    (.segments ((Path.trimFile built.segments).map String.ofList)) query fragment

end Parser

def parse (text : String) : Except Fault Url :=
  match Parser.scheme? (Parser.clean text.toList) with
  | none => .error .noScheme
  | some (scheme, rest) =>
      match Kind.ofScheme scheme with
      | .file => Parser.file rest
      | .web => Parser.afterSlashes .web scheme (rest.dropWhile Kind.web.isSlash)
      | .general => Parser.general scheme rest

end DirectoryClient.Url
