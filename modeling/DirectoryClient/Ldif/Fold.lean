/-!
# Folding long lines

A line of at most eighty octets stands as it is. A longer one is cut, and every
piece after the first follows a space on a line of its own, so those hold one
octet less. Cuts fall between characters, so a piece may be a little shorter
than there is room; since a character takes four octets at most, every piece
takes at least one character and the cutting ends.
-/

namespace DirectoryClient.Ldif

/-- The number of octets on a line. -/
def lineWidth : Nat := 80

/-- Cuts off the longest beginning of at most `room` octets. -/
def cutAt (room : Nat) : List Char → List Char × List Char
  | [] => ([], [])
  | c :: rest =>
      if c.utf8Size ≤ room then
        let (front, back) := cutAt (room - c.utf8Size) rest
        (c :: front, back)
      else ([], c :: rest)

theorem cutAt_append (room : Nat) (cs : List Char) :
    (cutAt room cs).1 ++ (cutAt room cs).2 = cs := by
  induction cs generalizing room with
  | nil => rfl
  | cons c rest ih =>
      unfold cutAt
      split
      · simp [ih]
      · rfl

theorem length_cutAt_lt {room : Nat} (h : 4 ≤ room) (c : Char) (rest : List Char) :
    (cutAt room (c :: rest)).2.length < (c :: rest).length := by
  have hc : c.utf8Size ≤ room := Nat.le_trans c.utf8Size_le_four h
  have happ := congrArg List.length (cutAt_append (room - c.utf8Size) rest)
  simp only [List.length_append] at happ
  simp only [cutAt, hc, ↓reduceIte, List.length_cons]
  omega

/-- Cuts what does not fit the first line into pieces for further lines. -/
def pieces : List Char → List (List Char)
  | [] => []
  | c :: rest =>
      have := @length_cutAt_lt (lineWidth - 1) (by decide) c rest
      (cutAt (lineWidth - 1) (c :: rest)).1 :: pieces (cutAt (lineWidth - 1) (c :: rest)).2
termination_by cs => cs.length
decreasing_by exact this

def fold (line : List Char) : List (List Char) :=
  let (first, rest) := cutAt lineWidth line
  first :: (pieces rest).map (' ' :: ·)

end DirectoryClient.Ldif
