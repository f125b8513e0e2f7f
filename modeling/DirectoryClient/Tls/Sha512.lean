import DirectoryClient.Tls.Der

/-!
# A hash of 512 bits

The message is filled up to whole blocks of 128 octets and stirred into eight
words, block by block. The constants are what follows the point in the square
roots of the first eight primes and in the cube roots of the first eighty.
-/

namespace DirectoryClient.Tls.Sha512

/-! ## Constants -/

/-- The largest number below `2 ^ bits` whose power does not exceed `n`. -/
def root (exponent n : Nat) (bits : Nat) : Nat :=
  (List.range bits).reverse.foldl (fun r bit =>
    let next := r + Nat.pow 2 bit
    if Nat.pow next exponent ≤ n then next else r) 0

/-- The first 64 bits after the point in a root of `n`. -/
def fraction (exponent n : Nat) : UInt64 :=
  UInt64.ofNat (root exponent (n * Nat.pow 2 (64 * exponent)) 72)

/-- The first primes below 410; there are eighty. -/
def primes : List Nat :=
  (List.range 410).filter fun n => 2 ≤ n ∧ (List.range n).all fun d => d < 2 ∨ n % d ≠ 0

/-- The words to start with. -/
def start : List UInt64 := (primes.take 8).map (fraction 2)

/-- The word for each round. -/
def rounds : List UInt64 := primes.map (fraction 3)

/-! ## Stirring -/

def turn (w : UInt64) (n : UInt64) : UInt64 := (w >>> n) ||| (w <<< (64 - n))

/-- The further words of a block. The last sixteen words are kept, the latest
first. -/
def schedule : Nat → List UInt64 → List UInt64
  | 0, _ => []
  | n + 1, recent =>
      let a := recent.getD 14 0
      let b := recent.getD 1 0
      let w := recent.getD 15 0 + (turn a 1 ^^^ turn a 8 ^^^ (a >>> 7)) + recent.getD 6 0 +
        (turn b 19 ^^^ turn b 61 ^^^ (b >>> 6))
      w :: schedule n (w :: recent.take 15)

/-- One round on the eight words. -/
def stir (s : List UInt64) (input : UInt64) : List UInt64 :=
  match s with
  | [a, b, c, d, e, f, g, h] =>
      let x := h + (turn e 14 ^^^ turn e 18 ^^^ turn e 41) + ((e &&& f) ^^^ (~~~e &&& g)) + input
      let y := (turn a 28 ^^^ turn a 34 ^^^ turn a 39) + ((a &&& b) ^^^ (a &&& c) ^^^ (b &&& c))
      [x + y, a, b, c, d + x, e, f, g]
  | s => s

/-- Stirs a block into the eight words. -/
def block (s : List UInt64) (words : List UInt64) : List UInt64 :=
  let all := words ++ schedule 64 words.reverse
  let mixed := (List.zipWith (· + ·) rounds all).foldl stir s
  List.zipWith (· + ·) s mixed

/-! ## Hashing -/

def words : Bytes → List UInt64
  | a :: b :: c :: d :: e :: f :: g :: h :: rest =>
      UInt64.ofNat (Der.bigEndian [a, b, c, d, e, f, g, h]) :: words rest
  | _ => []

/-- Stirs blocks of sixteen words into the eight words. -/
def blocks : Nat → List UInt64 → List UInt64 → List UInt64
  | 0, s, _ => s
  | n + 1, s, ws => blocks n (block s (ws.take 16)) (ws.drop 16)

/-- A message filled up to whole blocks: a single bit, zeros, and the length in
bits. -/
def padded (message : Bytes) : Bytes :=
  let zeros := (239 - message.length % 128) % 128
  let bits := message.length * 8
  message ++ 0x80 :: List.replicate zeros 0 ++
    (List.range 16).reverse.map fun i => UInt8.ofNat (bits / Nat.pow 256 i)

def hash (message : Bytes) : Bytes :=
  let ws := words (padded message)
  (blocks (ws.length / 16) start ws).flatMap fun w =>
    (List.range 8).reverse.map fun i => UInt8.ofNat (w.toNat / Nat.pow 256 i)

end DirectoryClient.Tls.Sha512
