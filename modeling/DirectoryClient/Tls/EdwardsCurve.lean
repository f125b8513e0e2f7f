import DirectoryClient.Tls.Modular
import DirectoryClient.Tls.Sha512

/-!
# The twisted curve of 255 bits

The points of the curve `-x² + y² = 1 + d x² y²` form a group with a single
formula for all sums. The private key is a seed: the lower half of its hash, with
a few bits fixed, says which multiple of the generator the public key is. Points
are kept as `(X, Y, Z)` for `x = X / Z` and `y = Y / Z`.
-/

namespace DirectoryClient.Tls.EdwardsCurve

def prime : Nat := Nat.pow 2 255 - 19

/-- The constant of the curve. -/
def d : Nat := (prime - 121665) * Modular.inverse prime 121666 % prime

structure Point where
  x : Nat
  y : Nat
  z : Nat
  deriving DecidableEq

/-- The generator: four fifths are its second coordinate. -/
def generator : Point :=
  ⟨0x216936d3cd6e53fec0a4e231fdd6dc5c692cc7609525a7b2c9562d608f25d51a,
    4 * Modular.inverse prime 5 % prime, 1⟩

def add (p q : Point) : Point :=
  let a := p.z * q.z % prime
  let b := a * a % prime
  let xx := p.x * q.x % prime
  let yy := p.y * q.y % prime
  let e := d * (xx * yy % prime) % prime
  let f := Modular.sub prime b e
  let g := (b + e) % prime
  let cross := Modular.sub prime ((p.x + p.y) * (q.x + q.y)) (xx + yy)
  ⟨a * f % prime * cross % prime, a * g % prime * (xx + yy) % prime, f * g % prime⟩

def multiple (p : Point) (n : Nat) : Point :=
  if n = 0 then ⟨0, 1, 1⟩
  else
    let half := multiple (add p p) (n / 2)
    if n % 2 = 1 then add p half else half
termination_by n

/-- The number that octets stand for, the lowest first. -/
def littleEndian (b : Bytes) : Nat := b.foldr (fun d n => d.toNat + 256 * n) 0

/-- The number that a seed stands for. -/
def scalar (seed : Bytes) : Nat :=
  let low := littleEndian ((Sha512.hash seed).take 32)
  Nat.pow 2 254 + low % Nat.pow 2 254 / 8 * 8

/-- The public key of a seed: the second coordinate, and whether the first is odd. -/
def publicKey (seed : Bytes) : Bytes :=
  let p := multiple generator (scalar seed)
  let inverse := Modular.inverse prime p.z
  let n := p.y * inverse % prime + p.x * inverse % prime % 2 * Nat.pow 2 255
  (List.range 32).map fun i => UInt8.ofNat (n / Nat.pow 256 i)

end DirectoryClient.Tls.EdwardsCurve
