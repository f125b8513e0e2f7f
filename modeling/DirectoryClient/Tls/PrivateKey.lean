import DirectoryClient.Tls.EdwardsCurve
import DirectoryClient.Tls.PrimeCurve
import DirectoryClient.Tls.RsaKey

/-!
# Private keys

A private key comes in a container that says what kind of key it holds. Keys of
two primes and of prime curves may also come without it. A key that carries its
public key is usable only if the two belong together, and one of a prime curve has
to carry it.
-/

namespace DirectoryClient.Tls.PrivateKey

/-! ## The container -/

/-- What a container holds. -/
structure Container where
  version : Nat
  algorithm : Bytes
  secret : Bytes
  /-- What follows the secret and the attributes. -/
  rest : Bytes
  deriving DecidableEq

/-- Leaves out attributes, which do not matter. -/
def withoutAttributes? (s : Bytes) : Option Bytes :=
  if s.head? = some (Der.around 0) then (Der.take? (Der.around 0) s).map (·.2) else some s

def Container.parse? (der : Bytes) : Option Container := do
  let s ← Der.only? Der.sequence der
  let (version, s) ← Der.takeNatural? s
  let (algorithm, s) ← Der.take? Der.sequence s
  let (secret, s) ← Der.take? Der.octetString s
  return ⟨version, algorithm, secret, ← withoutAttributes? s⟩

/-- The secret of a container of the first version, which has no public key. -/
def secretOf? (algorithm : Bytes) (der : Bytes) : Option Bytes := do
  let c ← Container.parse? der
  if c.version = 0 ∧ c.algorithm = algorithm ∧ c.rest.isEmpty then some c.secret else none

/-! ## Keys of two primes -/

/-- The algorithm of keys of two primes. -/
def rsaAlgorithm : Bytes :=
  [0x06, 0x09, 0x2A, 0x86, 0x48, 0x86, 0xF7, 0x0D, 0x01, 0x01, 0x01, 0x05, 0x00]

/-- Whether octets are a usable key of two primes. -/
def isRsa (der : Bytes) : Bool := (RsaKey.parse? der).any RsaKey.isUsable

/-! ## Keys of prime curves -/

/-- The algorithm of keys of a prime curve. -/
def curveAlgorithm (c : PrimeCurve) : Bytes :=
  [0x06, 0x07, 0x2A, 0x86, 0x48, 0xCE, 0x3D, 0x02, 0x01] ++ c.oid

/-- Reads the name of the curve, if it is given, and leaves it out if it is right. -/
def withoutCurve? (c : PrimeCurve) (s : Bytes) : Option Bytes :=
  if s.head? = some (Der.around 0) then do
    let (name, rest) ← Der.take? (Der.around 0) s
    if name = c.oid then some rest else none
  else some s

/-- Reads a key of a prime curve: the secret and the public key. -/
def curveParts? (c : PrimeCurve) (der : Bytes) : Option (Bytes × Bytes) := do
  let s ← Der.only? Der.sequence der
  let (version, s) ← Der.takeNatural? s
  guard (version = 1)
  let (secret, s) ← Der.take? Der.octetString s
  let bits ← Der.only? Der.bitString (← Der.only? (Der.around 1) (← withoutCurve? c s))
  return (secret, ← Der.fullOctets? bits)

/-- Whether octets are a usable key of a prime curve. -/
def isOnCurve (c : PrimeCurve) (der : Bytes) : Bool :=
  match curveParts? c der with
  | none => false
  | some (secret, publicKey) =>
      let n := Der.bigEndian secret
      secret.length = c.width && 0 < n && n < c.order && publicKey = c.publicKey n

/-! ## Keys of the twisted curve -/

/-- The algorithm of keys of the twisted curve. -/
def edwardsAlgorithm : Bytes := [0x06, 0x03, 0x2B, 0x65, 0x70]

/-- Reads the public key after a secret; there are two ways to write it. -/
def attachedKey? (s : Bytes) : Option Bytes :=
  if s.head? = some (Der.around 1) then do
    Der.fullOctets? (← Der.only? Der.bitString (← Der.only? (Der.around 1) s))
  else do
    Der.fullOctets? (← Der.only? (Der.instead 1) s)

/-- Whether a container holds a usable key of the twisted curve. -/
def isEdwards (der : Bytes) : Bool :=
  match (do
    let c ← Container.parse? der
    guard (c.algorithm = edwardsAlgorithm)
    let seed ← Der.only? Der.octetString c.secret
    guard (seed.length = 32)
    if c.version = 0 then guard c.rest.isEmpty
    else
      guard (c.version = 1)
      guard ((← attachedKey? c.rest) = EdwardsCurve.publicKey seed)
    return () : Option Unit) with
  | some () => true
  | none => false

/-! ## Keys of any kind -/

/-- Whether octets are a private key that can be used. -/
def isUsable (der : Bytes) : Bool :=
  isRsa der || (secretOf? rsaAlgorithm der).any isRsa ||
    [PrimeCurve.p256, PrimeCurve.p384].any (fun c =>
      isOnCurve c der || (secretOf? (curveAlgorithm c) der).any (isOnCurve c)) ||
    isEdwards der

end DirectoryClient.Tls.PrivateKey
