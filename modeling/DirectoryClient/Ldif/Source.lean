import DirectoryClient.Error
import DirectoryClient.Text.Utf8

/-!
# Where LDIF comes from

A source hands out octets and then either ends or fails. The reader never sees
octets, only what arrives from them: lines of text, and at most one failure,
which is the last thing that arrives.

A line ends at a line feed. One carriage return belongs to the line feed, and
one more is forgiven, so a terminated line loses up to two of them and an
unterminated last line loses up to one. A last line that a failure cuts off is
lost, since nobody can know how it would have gone on.
-/

namespace DirectoryClient.Ldif

/-- The octets to be read, and the failure that follows them, if any. -/
structure Source where
  bytes : Bytes
  failure : Option IoKind

/-- What a source delivers, one piece at a time. -/
inductive Arrival
  | line (text : List Char)
  | failure (kind : IoKind)
  deriving DecidableEq

namespace Source

/-- Cuts octets at line feeds into terminated lines and the rest after them. -/
def cut : Bytes → List Bytes × Bytes
  | [] => ([], [])
  | b :: rest =>
      let (lines, tail) := cut rest
      if b = 10 then ([] :: lines, tail)
      else
        match lines with
        | [] => ([], b :: tail)
        | first :: more => ((b :: first) :: more, tail)

/-- Leaves out one carriage return at the end. -/
def dropReturn (text : List Char) : List Char :=
  if text.getLast? = some '\r' then text.dropLast else text

/-- The line that some octets hold, after a clean-up. -/
def arrival (clean : List Char → List Char) (line : Bytes) : Arrival :=
  match Text.ofBytes? line with
  | some text => .line (clean text.toList)
  | none => .failure .invalidData

/-- What follows the last line feed. -/
def lastArrivals (s : Source) (tail : Bytes) : List Arrival :=
  match s.failure with
  | some kind => [.failure kind]
  | none => if tail.isEmpty then [] else [arrival dropReturn tail]

/-- Everything that a source delivers, in order. -/
def arrivals (s : Source) : List Arrival :=
  let (lines, tail) := cut s.bytes
  lines.map (arrival (dropReturn ∘ dropReturn)) ++ s.lastArrivals tail

end Source

end DirectoryClient.Ldif
