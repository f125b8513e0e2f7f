import DirectoryClient.Text.Utf8

/-!
# Distinguished encoding

Certificates and keys are trees of elements. An element is a tag, the length of
its content, and the content. The encoding is distinguished: a length is written
in the shortest way, and so are whole numbers. Tags of more than one octet and
contents of 64 KiB or more do not occur.
-/

namespace DirectoryClient.Tls.Der

/-! ## Tags -/

def boolean : UInt8 := 0x01
def integer : UInt8 := 0x02
def bitString : UInt8 := 0x03
def octetString : UInt8 := 0x04
def objectId : UInt8 := 0x06
def sequence : UInt8 := 0x30

/-- A tag whose meaning depends on where it stands, around other elements. -/
def around (n : UInt8) : UInt8 := 0xA0 + n

/-- A tag whose meaning depends on where it stands, in the place of another. -/
def instead (n : UInt8) : UInt8 := 0x80 + n

/-! ## Elements -/

def length? : Bytes → Option (Nat × Bytes)
  | 0x81 :: a :: rest => if a < 0x80 then none else some (a.toNat, rest)
  | 0x82 :: a :: b :: rest => if a = 0 then none else some (a.toNat * 256 + b.toNat, rest)
  | b :: rest => if b < 0x80 then some (b.toNat, rest) else none
  | [] => none

/-- Reads an element: its tag, its content, and what follows. -/
def element? : Bytes → Option (UInt8 × Bytes × Bytes)
  | [] => none
  | tag :: rest =>
      if tag &&& 0x1F = 0x1F then none
      else
        match length? rest with
        | none => none
        | some (n, rest) =>
            if n ≤ rest.length then some (tag, rest.take n, rest.drop n) else none

theorem length?_length {s rest : Bytes} {n : Nat} (h : length? s = some (n, rest)) :
    rest.length < s.length := by
  unfold length? at h
  split at h <;> first | (split at h) | skip
  all_goals simp_all
  all_goals omega

theorem element?_length {s content rest : Bytes} {tag : UInt8}
    (h : element? s = some (tag, content, rest)) : rest.length < s.length := by
  unfold element? at h
  split at h
  · cases h
  · split at h
    · cases h
    · split at h
      · cases h
      · next hl =>
          have := length?_length hl
          split at h
          · simp only [Option.some.injEq, Prod.mk.injEq] at h
            rw [← h.2.2]
            simp only [List.length_drop, List.length_cons]
            omega
          · cases h

/-- Reads an element of a given tag: its content and what follows. -/
def take? (tag : UInt8) (s : Bytes) : Option (Bytes × Bytes) :=
  match element? s with
  | some (found, content, rest) => if found = tag then some (content, rest) else none
  | none => none

/-- Reads a text that is nothing but an element of a given tag. -/
def only? (tag : UInt8) (s : Bytes) : Option Bytes :=
  match take? tag s with
  | some (content, []) => some content
  | _ => none

/-- Reads a text as elements. -/
def elements? (s : Bytes) : Option (List (UInt8 × Bytes)) :=
  match s with
  | [] => some []
  | b :: more =>
      match h : element? (b :: more) with
      | none => none
      | some (tag, content, rest) =>
          have : rest.length < (b :: more).length := element?_length h
          (elements? rest).map ((tag, content) :: ·)
termination_by s.length
decreasing_by exact this

/-! ## Contents -/

/-- The number that octets stand for, the highest first. -/
def bigEndian (b : Bytes) : Nat := b.foldl (fun n d => n * 256 + d.toNat) 0

/-- The whole number in a content, unless it is negative or not written in the
shortest way. -/
def natural? : Bytes → Option Nat
  | [] => none
  | [b] => if b < 0x80 then some b.toNat else none
  | a :: b :: rest =>
      if a < 0x80 ∧ ¬(a = 0 ∧ b < 0x80) then some (bigEndian (a :: b :: rest)) else none

def takeNatural? (s : Bytes) : Option (Nat × Bytes) := do
  let (content, rest) ← take? integer s
  return (← natural? content, rest)

/-- The octets in a row of bits that fills them. -/
def fullOctets? : Bytes → Option Bytes
  | 0 :: octets => some octets
  | _ => none

end DirectoryClient.Tls.Der
