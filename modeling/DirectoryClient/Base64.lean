import DirectoryClient.Text.Utf8

/-!
# Base64

Three octets are four letters of six bits each. A last group of one or two
octets is two or three letters, filled up to four with pads.

Reading is strict: nothing but letters and pads, pads only where a group ends,
and no bits set that no octet carries. What is wrong is reported together with
where it is. The text is looked at in two parts, a body of whole eights and a
tail of one to eight octets, because the two report a pad differently: in the
body it is a foreign octet where it stands, in the tail it may be the end of
the text, and then the first pad is the one that is blamed.
-/

namespace DirectoryClient.Base64

/-- Why a text is not base64. Offsets count octets from 0. -/
inductive Fault
  /-- An octet that is no letter, or a pad where none may stand. -/
  | foreignByte (byte : UInt8) (offset : Nat)
  /-- A last group of a single letter. -/
  | loneLetter
  /-- The last letter has bits that belong to no octet. -/
  | looseBits (byte : UInt8) (offset : Nat)
  /-- Pads are missing. -/
  | badPadding
  deriving DecidableEq

def Fault.message : Fault → String
  | .foreignByte byte offset =>
      "Invalid byte " ++ toString byte.toNat ++ ", offset " ++ toString offset ++ "."
  | .loneLetter => "Encoded text cannot have a 6-bit remainder."
  | .looseBits byte offset =>
      "Invalid last symbol " ++ toString byte.toNat ++ ", offset " ++ toString offset ++ "."
  | .badPadding => "Invalid padding"

/-- Whether a last group has to be filled up with pads. -/
inductive Padding
  | required
  | optional
  deriving DecidableEq

def pad : UInt8 := 61

/-- The letter for a number below 64. -/
def letter (n : Nat) : Char :=
  if n < 26 then Char.ofNat ('A'.toNat + n)
  else if n < 52 then Char.ofNat ('a'.toNat + (n - 26))
  else if n < 62 then Char.ofNat ('0'.toNat + (n - 52))
  else if n = 62 then '+'
  else '/'

/-- The number that a letter stands for. -/
def value? (b : UInt8) : Option Nat :=
  if 65 ≤ b ∧ b ≤ 90 then some (b.toNat - 65)
  else if 97 ≤ b ∧ b ≤ 122 then some (b.toNat - 97 + 26)
  else if 48 ≤ b ∧ b ≤ 57 then some (b.toNat - 48 + 52)
  else if b = 43 then some 62
  else if b = 47 then some 63
  else none

/-! ## Writing -/

def encode : Bytes → List Char
  | [] => []
  | [a] =>
      let n := a.toNat * 16
      [letter (n / 64), letter (n % 64), '=', '=']
  | [a, b] =>
      let n := (a.toNat * 256 + b.toNat) * 4
      [letter (n / 4096), letter (n / 64 % 64), letter (n % 64), '=']
  | a :: b :: c :: rest =>
      let n := (a.toNat * 256 + b.toNat) * 256 + c.toNat
      letter (n / 262144) :: letter (n / 4096 % 64) :: letter (n / 64 % 64) ::
        letter (n % 64) :: encode rest

/-! ## Reading -/

/-- The octets that some six-bit numbers carry; bits left over are dropped. -/
def join : List Nat → Bytes
  | a :: b :: c :: d :: rest =>
      let n := ((a * 64 + b) * 64 + c) * 64 + d
      UInt8.ofNat (n / 65536) :: UInt8.ofNat (n / 256) :: UInt8.ofNat n :: join rest
  | [a, b, c] =>
      let n := (a * 64 + b) * 64 + c
      [UInt8.ofNat (n / 1024), UInt8.ofNat (n / 4)]
  | [a, b] => [UInt8.ofNat ((a * 64 + b) / 16)]
  | _ => []

/-- Where the tail of a text of `size` octets starts: the last multiple of
eight before its end. -/
def tailStart (size : Nat) : Nat := (size - 1) / 8 * 8

/-- Finds the first octet of the body that is no letter. -/
def checkBody (offset : Nat) : Bytes → Except Fault Unit
  | [] => .ok ()
  | b :: rest =>
      if (value? b).isSome then checkBody (offset + 1) rest
      else .error (.foreignByte b offset)

/-- Checks the order of letters and pads in the tail. `i` counts from the start
of the tail, and `seen` is where its first pad stood. -/
def checkTail (start i : Nat) (seen : Option Nat) : Bytes → Except Fault Unit
  | [] => .ok ()
  | b :: rest =>
      if b = pad then
        if i % 4 < 2 then .error (.foreignByte pad (start + seen.getD i))
        else checkTail start (i + 1) (some (seen.getD i)) rest
      else
        match seen with
        | some first => .error (.foreignByte pad (start + first))
        | none =>
            if (value? b).isSome then checkTail start (i + 1) none rest
            else .error (.foreignByte b (start + i))

/-- Checks that the last letter sets no bits which no octet carries. -/
def checkBits (letters : Bytes) : Except Fault Unit :=
  match letters.getLast? with
  | none => .ok ()
  | some last =>
      let loose := match letters.length % 4 with
        | 2 => 16
        | 3 => 4
        | _ => 1
      if ((value? last).getD 0) % loose = 0 then .ok ()
      else .error (.looseBits last (letters.length - 1))

def decodeWith (padding : Padding) (text : Bytes) : Except Fault Bytes :=
  let size := text.length
  if size % 4 = 1 then
    let last := text.getLast?.getD pad
    if last = pad ∨ (value? last).isSome then .error .loneLetter
    else .error (.foreignByte last (size - 1))
  else do
    let start := tailStart size
    checkBody 0 (text.take start)
    checkTail start 0 none (text.drop start)
    if padding = .required ∧ size % 4 ≠ 0 then throw .badPadding
    let letters := text.takeWhile (· ≠ pad)
    checkBits letters
    return join (letters.filterMap value?)

/-- Reads a text whose last group has to be filled up with pads. -/
def decode (text : Bytes) : Except Fault Bytes := decodeWith .required text

end DirectoryClient.Base64
