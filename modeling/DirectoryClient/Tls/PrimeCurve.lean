import DirectoryClient.Tls.Der
import DirectoryClient.Tls.Modular

/-!
# Curves over prime fields

The points of the curve `y² = x³ - 3x + b` over a prime field form a group. A
private key is a number, and its public key is that multiple of a fixed point.
Points are kept as `(X, Y, Z)` for `x = X / Z²` and `y = Y / Z³`, so that only
the last step has to divide; `Z = 0` is the neutral element.
-/

namespace DirectoryClient.Tls

/-- A curve with a point that generates a group of prime order. -/
structure PrimeCurve where
  /-- How many octets a coordinate has. -/
  width : Nat
  prime : Nat
  order : Nat
  generator : Nat × Nat
  /-- The identifier of the curve, as an element. -/
  oid : Bytes

namespace PrimeCurve

def p256 : PrimeCurve where
  width := 32
  prime := Nat.pow 2 256 - Nat.pow 2 224 + Nat.pow 2 192 + Nat.pow 2 96 - 1
  order := 0xffffffff00000000ffffffffffffffffbce6faada7179e84f3b9cac2fc632551
  generator :=
    (0x6b17d1f2e12c4247f8bce6e563a440f277037d812deb33a0f4a13945d898c296,
      0x4fe342e2fe1a7f9b8ee7eb4a7c0f9e162bce33576b315ececbb6406837bf51f5)
  oid := [0x06, 0x08, 0x2A, 0x86, 0x48, 0xCE, 0x3D, 0x03, 0x01, 0x07]

def p384 : PrimeCurve where
  width := 48
  prime := Nat.pow 2 384 - Nat.pow 2 128 - Nat.pow 2 96 + Nat.pow 2 32 - 1
  order :=
    0xffffffffffffffffffffffffffffffffffffffffffffffffc7634d81f4372ddf581a0db248b0a77aecec196accc52973
  generator :=
    (0xaa87ca22be8b05378eb1c71ef320ad746e1d3b628ba79b9859f741e082542a385502f25dbf55296c3a545e3872760ab7,
      0x3617de4a96262c6f5d9e98bf9292dc29f8f41dbd289a147ce9da3113b5f0b8c00a60b1ce1d7e819d7a431d7c90ea0e5f)
  oid := [0x06, 0x05, 0x2B, 0x81, 0x04, 0x00, 0x22]

structure Point where
  x : Nat
  y : Nat
  z : Nat
  deriving DecidableEq

def Point.zero : Point := ⟨1, 1, 0⟩

variable (c : PrimeCurve)

def minus (a b : Nat) : Nat := Modular.sub c.prime a b

def double (p : Point) : Point :=
  let zz := p.z * p.z % c.prime
  let yy := p.y * p.y % c.prime
  let s := 4 * p.x * yy % c.prime
  let slope := 3 * (c.minus p.x zz * (p.x + zz) % c.prime) % c.prime
  let x := c.minus (slope * slope % c.prime) (2 * s)
  ⟨x, c.minus (slope * c.minus s x % c.prime) (8 * yy * yy), 2 * p.y * p.z % c.prime⟩

def add (p q : Point) : Point :=
  if p.z = 0 then q
  else if q.z = 0 then p
  else
    let pzz := p.z * p.z % c.prime
    let qzz := q.z * q.z % c.prime
    let u := p.x * qzz % c.prime
    let v := p.y * qzz * q.z % c.prime
    let du := c.minus (q.x * pzz % c.prime) u
    let dv := c.minus (q.y * pzz * p.z % c.prime) v
    if du = 0 then (if dv = 0 then c.double p else .zero)
    else
      let square := du * du % c.prime
      let cube := du * square % c.prime
      let x := c.minus (dv * dv % c.prime) (cube + 2 * u * square)
      ⟨x, c.minus (dv * c.minus (u * square % c.prime) x % c.prime) (v * cube),
        p.z * q.z * du % c.prime⟩

def multiple (p : Point) (n : Nat) : Point :=
  if n = 0 then .zero
  else
    let half := multiple (c.double p) (n / 2)
    if n % 2 = 1 then c.add p half else half
termination_by n

/-- The `width` lowest octets of a number, the highest of them first. -/
def octets : (width : Nat) → Nat → Bytes
  | 0, _ => []
  | width + 1, n => octets width (n / 256) ++ [UInt8.ofNat n]

/-- The public key of a private key, written with both coordinates. -/
def publicKey (secret : Nat) : Bytes :=
  let p := c.multiple ⟨c.generator.1, c.generator.2, 1⟩ secret
  let inverse := Modular.inverse c.prime p.z
  let square := inverse * inverse % c.prime
  4 :: octets c.width (p.x * square % c.prime) ++
    octets c.width (p.y * square * inverse % c.prime)

end PrimeCurve

end DirectoryClient.Tls
