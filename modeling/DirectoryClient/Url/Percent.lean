import DirectoryClient.Text.Ascii
import DirectoryClient.Text.Utf8

/-!
# Percent-encoding

Where a part of a URL may not hold an octet as it is, three characters stand
for it. Which octets those are depends on the part; octets outside of printable
ASCII are among them everywhere. A percent sign itself is left alone, so that
text which is encoded already stays as it is.
-/

namespace DirectoryClient.Url

/-- A set of characters that a part of a URL may not hold. -/
abbrev EncodeSet := Char → Bool

/-- Everything but printable ASCII. -/
def controlSet : EncodeSet := fun c => c < ' ' || '~' < c

def fragmentSet : EncodeSet := fun c =>
  controlSet c || [' ', '"', '<', '>', '\x60'].contains c

def querySet : EncodeSet := fun c => controlSet c || [' ', '"', '#', '<', '>'].contains c

/-- The characters encoded in a query of one of the schemes of the web. -/
def webQuerySet : EncodeSet := fun c => querySet c || c = Char.ofNat 39

def pathSet : EncodeSet := fun c => fragmentSet c || ['#', '?', '\x7b', '\x7d'].contains c

def userSet : EncodeSet := fun c =>
  pathSet c || ['/', ':', ';', '=', '@', '[', '\\', ']', '^', '|'].contains c

/-- A percent sign and the two large hexadecimal digits of an octet. -/
def percentOctet (b : UInt8) : List Char := '%' :: (Text.hexPair b).map Char.toUpper

/-- Encodes the characters of a set. -/
def percentEncode (set : EncodeSet) (cs : List Char) : List Char :=
  cs.flatMap fun c =>
    if set c then (Text.bytes (String.ofList [c])).flatMap percentOctet else [c]

/-- The octets that percent-encoded text stands for; a percent sign without two
hexadecimal digits after it stands for itself. -/
def percentDecode : List Char → Bytes
  | [] => []
  | '%' :: a :: b :: rest =>
      match Text.hexDigit? a, Text.hexDigit? b with
      | some high, some low => UInt8.ofNat (high * 16 + low) :: percentDecode rest
      | _, _ => 37 :: percentDecode (a :: b :: rest)
  | c :: rest => Text.bytes (String.ofList [c]) ++ percentDecode rest

end DirectoryClient.Url
