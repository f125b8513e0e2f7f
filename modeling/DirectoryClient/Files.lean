import DirectoryClient.Error
import DirectoryClient.Text.Split
import DirectoryClient.Text.Utf8

/-!
# Files

The library reads a few files by path: LDIF streams and TLS material. All it
needs to know of a file system is one directory, its path, and what is in it;
nothing exists elsewhere. A path is walked part by part, and parts that are
empty or a single dot stand for staying where one is.
-/

namespace DirectoryClient

/-- What a name in the directory stands for. -/
inductive FileNode
  | file (content : Bytes)
  | directory

/-- A directory at a path, with the names in it. -/
structure Files where
  root : String
  nodes : List (String × FileNode)

namespace Files

/-- The parts of a path that lead somewhere. -/
def steps (path : List Char) : List String :=
  ((Text.split '/' path).filter fun part => part ≠ [] ∧ part ≠ ['.']).map String.ofList

/-- What remains of `path` after the path of the directory itself. -/
def below? (root path : List Char) : Option (List Char) :=
  if root.isPrefixOf path then
    match path.drop root.length with
    | [] => some []
    | c :: rest => if c = '/' then some (c :: rest) else none
  else none

def node (files : Files) (path : String) : Except IoKind FileNode :=
  match below? files.root.toList path.toList with
  | none => .error .missing
  | some rest =>
      match steps rest with
      | [] => .ok .directory
      | name :: more =>
          match files.nodes.lookup name with
          | none => .error .missing
          | some (.file content) =>
              if more.isEmpty ∧ rest.getLast? ≠ some '/' then .ok (.file content)
              else .error .notDirectory
          | some .directory => if more.isEmpty then .ok .directory else .error .missing

def read (files : Files) (path : String) : Except Error Bytes :=
  match files.node path with
  | .error kind => .error (.io kind)
  | .ok .directory => .error (.io .isDirectory)
  | .ok (.file content) => .ok content

end Files

end DirectoryClient
