import DirectoryClient.Tls.Der
import DirectoryClient.Tls.Modular

/-!
# Keys of two primes

A private key consists of a modulus that is the product of two primes, exponents
to lock and to unlock, and what makes unlocking fast. A key is accepted if its
numbers have fitting sizes and belong together as far as this can be seen without
factoring or testing primes.
-/

namespace DirectoryClient.Tls

/-- The numbers of a private key. -/
structure RsaKey where
  modulus : Nat
  publicExponent : Nat
  privateExponent : Nat
  prime1 : Nat
  prime2 : Nat
  exponent1 : Nat
  exponent2 : Nat
  /-- The inverse of the second prime modulo the first. -/
  coefficient : Nat
  deriving DecidableEq

namespace RsaKey

def parse? (der : Bytes) : Option RsaKey := do
  let s ← Der.only? Der.sequence der
  let (version, s) ← Der.takeNatural? s
  guard (version = 0)
  let (modulus, s) ← Der.takeNatural? s
  let (publicExponent, s) ← Der.takeNatural? s
  let (privateExponent, s) ← Der.takeNatural? s
  let (prime1, s) ← Der.takeNatural? s
  let (prime2, s) ← Der.takeNatural? s
  let (exponent1, s) ← Der.takeNatural? s
  let (exponent2, s) ← Der.takeNatural? s
  let (coefficient, s) ← Der.takeNatural? s
  guard s.isEmpty
  return ⟨modulus, publicExponent, privateExponent, prime1, prime2, exponent1, exponent2,
    coefficient⟩

/-- The key with the larger prime in the first place; then the coefficient is the
inverse of the smaller one. -/
def ordered (k : RsaKey) : RsaKey :=
  if k.prime2 < k.prime1 then k
  else
    { k with
      prime1 := k.prime2
      prime2 := k.prime1
      exponent1 := k.exponent2
      exponent2 := k.exponent1
      coefficient := Modular.inverse k.prime2 (k.prime1 % k.prime2) }

/-- The sizes of the public numbers: a modulus of 2041 to 4096 bits, and an
exponent from 65537 to 33 bits; both are odd. -/
def hasPublicSizes (k : RsaKey) : Bool :=
  let bits := Modular.bitLength k.modulus
  k.modulus % 2 = 1 && 2041 ≤ bits && bits ≤ 4096 &&
    k.publicExponent % 2 = 1 && 65537 ≤ k.publicExponent && k.publicExponent < Nat.pow 2 33

/-- Whether a prime has half the bits of the modulus, and they fill blocks of 512. -/
def isHalf (k : RsaKey) (prime : Nat) : Bool :=
  let bits := Modular.bitLength prime
  prime % 2 = 1 && bits = (Modular.bitLength k.modulus + 1) / 2 && bits % 512 = 0

/-- Whether the private numbers fit each other. -/
def isConsistent (k : RsaKey) : Bool :=
  k.prime1 * k.prime2 % k.modulus = 0 &&
    k.privateExponent % 2 = 1 && k.privateExponent < k.modulus &&
    (Modular.bitLength k.modulus + 1) / 2 < Modular.bitLength k.privateExponent &&
    k.exponent1 % 2 = 1 && k.exponent1 < k.prime1 &&
    k.exponent2 % 2 = 1 && k.exponent2 < k.prime2 &&
    k.coefficient < k.prime1 && k.coefficient * k.prime2 % k.prime1 = 1

def isUsable (k : RsaKey) : Bool :=
  k.hasPublicSizes && k.isHalf k.prime1 && k.isHalf k.prime2 && k.ordered.isConsistent

end RsaKey

end DirectoryClient.Tls
