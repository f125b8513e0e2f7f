import DirectoryClient.Text.Utf8

/-!
# Attribute values

A value is either text or octets of no known form. The two kinds stay apart:
the text `a` is not the single octet 97, although both have the same octets and
both read as the text `a`.
-/

namespace DirectoryClient

inductive Value
  | text (s : String)
  | binary (b : Bytes)
  deriving DecidableEq

namespace Value

def bytes : Value → Bytes
  | text s => Text.bytes s
  | binary b => b

/-- The value as text, if its octets are the encoding of one. -/
def text? : Value → Option String
  | text s => some s
  | binary b => Text.ofBytes? b

/-- The value that octets read from outside stand for: text where possible. -/
def ofBytes (b : Bytes) : Value :=
  match Text.ofBytes? b with
  | some s => text s
  | none => binary b

theorem text?_eq_ofBytes? (v : Value) : v.text? = Text.ofBytes? v.bytes := by
  cases v with
  | text s => simp [text?, bytes, Text.ofBytes?_bytes]
  | binary b => rfl

theorem bytes_ofBytes (b : Bytes) : (ofBytes b).bytes = b := by
  unfold ofBytes
  split
  · next s h => exact (Text.ofBytes?_eq_some_iff.1 h).symm
  · rfl

end Value

end DirectoryClient
