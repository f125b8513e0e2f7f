/-!
# Text and its bytes

Attribute values travel as octets, and most of them are text. The two
directions are `Text.bytes`, which always succeeds, and `Text.ofBytes?`, which
succeeds exactly on the octets that some text encodes to; so a value can be
carried either way without loss.

`Text.lossy` is for showing octets that may have been cut off in the middle of
a character: every longest beginning of a character that cannot be completed
becomes one replacement character, and everything else is decoded as usual.
-/

namespace DirectoryClient

abbrev Bytes := List UInt8

namespace Text

/-- The UTF-8 encoding of a text. -/
def bytes (s : String) : Bytes := s.toUTF8.data.toList

/-- The text with this UTF-8 encoding, if there is one. -/
def ofBytes? (b : Bytes) : Option String := String.fromUTF8? ⟨b.toArray⟩

theorem ofBytes?_bytes (s : String) : ofBytes? (bytes s) = some s := by
  have hv : (⟨(bytes s).toArray⟩ : ByteArray).IsValidUTF8 := by
    simpa [bytes] using s.isValidUTF8
  simp only [ofBytes?, String.fromUTF8?, hv, ↓reduceDIte, Option.some.injEq]
  exact String.toByteArray_inj.1 (by simp [String.fromUTF8, bytes])

theorem ofBytes?_eq_some_iff {b : Bytes} {s : String} :
    ofBytes? b = some s ↔ b = bytes s := by
  constructor
  · intro h
    simp only [ofBytes?, String.fromUTF8?] at h
    split at h
    · have hs := Option.some.inj h
      rw [← hs]
      simp [bytes, String.fromUTF8]
    · cases h
  · rintro rfl
    exact ofBytes?_bytes s

/-- What a beginning of a character still needs: the value of the bits read so
far, how many octets are missing, and the range the next one has to lie in. -/
structure Unfinished where
  code : Nat
  missing : Nat
  low : UInt8
  high : UInt8

/-- Reads the first octet of a character: either the character is complete, or
more octets are needed, or the octet begins no character. -/
def start (b : UInt8) : List Char × Option Unfinished :=
  let n := b.toNat
  if b < 0x80 then ([Char.ofNat n], none)
  else if 0xC2 ≤ b ∧ b ≤ 0xDF then ([], some ⟨n - 0xC0, 1, 0x80, 0xBF⟩)
  else if b = 0xE0 then ([], some ⟨0, 2, 0xA0, 0xBF⟩)
  else if b = 0xED then ([], some ⟨0xD, 2, 0x80, 0x9F⟩)
  else if 0xE1 ≤ b ∧ b ≤ 0xEF then ([], some ⟨n - 0xE0, 2, 0x80, 0xBF⟩)
  else if b = 0xF0 then ([], some ⟨0, 3, 0x90, 0xBF⟩)
  else if 0xF1 ≤ b ∧ b ≤ 0xF3 then ([], some ⟨n - 0xF0, 3, 0x80, 0xBF⟩)
  else if b = 0xF4 then ([], some ⟨4, 3, 0x80, 0x8F⟩)
  else ([replacement], none)
where
  /-- The character that stands for undecodable octets. -/
  replacement : Char := '\uFFFD'

/-- Decodes octets after a possibly unfinished character. -/
def lossyFrom : Option Unfinished → Bytes → List Char
  | none, [] => []
  | some _, [] => [start.replacement]
  | none, b :: rest => (start b).1 ++ lossyFrom (start b).2 rest
  | some u, b :: rest =>
      if u.low ≤ b ∧ b ≤ u.high then
        let code := u.code * 64 + (b.toNat - 0x80)
        if u.missing ≤ 1 then Char.ofNat code :: lossyFrom none rest
        else lossyFrom (some ⟨code, u.missing - 1, 0x80, 0xBF⟩) rest
      else start.replacement :: (start b).1 ++ lossyFrom (start b).2 rest

/-- The text of some octets, with one replacement character for every
beginning of a character that is never completed. -/
def lossy (b : Bytes) : String := String.ofList (lossyFrom none b)

end Text

end DirectoryClient
