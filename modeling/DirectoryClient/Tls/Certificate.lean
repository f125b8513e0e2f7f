import DirectoryClient.Tls.Der

/-!
# Certificates

A certificate that is to be trusted has to have the form of one; whether its
signature is good does not matter. Of the versions, the third has extensions, and
the first is older and shorter. An extension that is marked as critical has to be
of a kind that is understood, and those kinds may occur only once.
-/

namespace DirectoryClient.Tls.Certificate

/-! ## Extensions -/

structure Extension where
  id : Bytes
  critical : Bool
  value : Bytes

namespace Extension

/-- Reads whether an extension is critical; it is not unless this is said. -/
def takeCritical? (s : Bytes) : Option (Bool × Bytes) :=
  if s.head? = some Der.boolean then
    match Der.take? Der.boolean s with
    | some ([0xFF], rest) => some (true, rest)
    | some ([0x00], rest) => some (false, rest)
    | _ => none
  else some (false, s)

def parse? (s : Bytes) : Option Extension := do
  let (id, rest) ← Der.take? Der.objectId s
  let (critical, rest) ← takeCritical? rest
  return ⟨id, critical, ← Der.only? Der.octetString rest⟩

/-- The identifier of what a key may be used for. -/
def keyUsage : Bytes := [0x55, 0x1D, 15]

/-- The identifiers of the understood extensions whose value is a sequence: other
names, whether the subject may certify, which names it may certify, and what for. -/
def structured : List Bytes :=
  [[0x55, 0x1D, 17], [0x55, 0x1D, 19], [0x55, 0x1D, 30], [0x55, 0x1D, 37]]

/-- Whether an extension is of a kind that is understood. -/
def isKnown (e : Extension) : Bool := e.id = keyUsage || structured.contains e.id

/-- Whether an extension can be accepted on its own. -/
def isAcceptable (e : Extension) : Bool :=
  if structured.contains e.id then (Der.only? Der.sequence e.value).isSome
  else e.isKnown || !e.critical

end Extension

/-- Whether the known ones among some extensions have different identifiers. -/
def areDistinct (es : List Extension) : Bool :=
  let known := (es.filter Extension.isKnown).map Extension.id
  known.eraseDups.length = known.length

/-- Reads the extensions of a certificate. There is at least one. -/
def extensions? (s : Bytes) : Option (List Extension) := do
  let inner ← Der.only? Der.sequence (← Der.only? (Der.around 3) s)
  let items ← Der.elements? inner
  if items.isEmpty ∨ items.any (·.1 ≠ Der.sequence) then none
  items.mapM fun item => Extension.parse? item.2

/-! ## The body of a certificate -/

/-- Reads sequences, and gives the contents and what follows. -/
def takeSequences? : Nat → Bytes → Option (List Bytes × Bytes)
  | 0, s => some ([], s)
  | n + 1, s => do
      let (content, rest) ← Der.take? Der.sequence s
      let (more, rest) ← takeSequences? n rest
      return (content :: more, rest)

/-- Whether a body after its version is one of the third version: a serial number,
the algorithm of the signature, issuer, validity, subject, key, and extensions. -/
def isThirdVersion (algorithm body : Bytes) : Bool :=
  match (do
    let (_, rest) ← Der.take? Der.integer body
    takeSequences? 5 rest) with
  | none => false
  | some (fields, rest) =>
      fields.head? = some algorithm &&
        (rest.isEmpty ||
          match extensions? rest with
          | some es => es.all Extension.isAcceptable && areDistinct es
          | none => false)

/-- Whether a body is one of the first version. -/
def isFirstVersion (body : Bytes) : Bool :=
  match (do
    let (_, rest) ← Der.take? Der.integer body
    takeSequences? 5 rest) with
  | some (_, []) => true
  | _ => false

/-- Whether a body is one of a certificate signed with this algorithm. -/
def isBody (algorithm body : Bytes) : Bool :=
  match Der.take? (Der.around 0) body with
  | some (version, rest) =>
      ((Der.only? Der.integer version).bind Der.natural?) = some 2 && isThirdVersion algorithm rest
  | none => isFirstVersion body

/-- Whether octets have the form of a certificate. -/
def isReadable (der : Bytes) : Bool :=
  match (do
    let inner ← Der.only? Der.sequence der
    let (body, rest) ← Der.take? Der.sequence inner
    let (algorithm, rest) ← Der.take? Der.sequence rest
    let signature ← Der.only? Der.bitString rest
    let _ ← Der.fullOctets? signature
    return isBody algorithm body : Option Bool) with
  | some readable => readable
  | none => false

end DirectoryClient.Tls.Certificate
