import MachineImage.Text.Decimal

/-!
SHA-256 and the keyed hash HMAC built on it.
-/
namespace MachineImage.Sha256

abbrev Word := UInt32

/-- The first 32 bits of the fractional parts of the cube roots of the first 64 primes. -/
def roundConstants : List Word := [
    0x428a2f98, 0x71374491, 0xb5c0fbcf, 0xe9b5dba5, 0x3956c25b, 0x59f111f1, 0x923f82a4, 0xab1c5ed5,
    0xd807aa98, 0x12835b01, 0x243185be, 0x550c7dc3, 0x72be5d74, 0x80deb1fe, 0x9bdc06a7, 0xc19bf174,
    0xe49b69c1, 0xefbe4786, 0x0fc19dc6, 0x240ca1cc, 0x2de92c6f, 0x4a7484aa, 0x5cb0a9dc, 0x76f988da,
    0x983e5152, 0xa831c66d, 0xb00327c8, 0xbf597fc7, 0xc6e00bf3, 0xd5a79147, 0x06ca6351, 0x14292967,
    0x27b70a85, 0x2e1b2138, 0x4d2c6dfc, 0x53380d13, 0x650a7354, 0x766a0abb, 0x81c2c92e, 0x92722c85,
    0xa2bfe8a1, 0xa81a664b, 0xc24b8b70, 0xc76c51a3, 0xd192e819, 0xd6990624, 0xf40e3585, 0x106aa070,
    0x19a4c116, 0x1e376c08, 0x2748774c, 0x34b0bcb5, 0x391c0cb3, 0x4ed8aa4a, 0x5b9cca4f, 0x682e6ff3,
    0x748f82ee, 0x78a5636f, 0x84c87814, 0x8cc70208, 0x90befffa, 0xa4506ceb, 0xbef9a3f7, 0xc67178f2]

/-- The eight chaining words. -/
structure Chain where
  a : Word
  b : Word
  c : Word
  d : Word
  e : Word
  f : Word
  g : Word
  h : Word

/-- The first 32 bits of the fractional parts of the square roots of the first eight primes. -/
def initial : Chain :=
  ⟨0x6a09e667, 0xbb67ae85, 0x3c6ef372, 0xa54ff53a, 0x510e527f, 0x9b05688c, 0x1f83d9ab, 0x5be0cd19⟩

def rotate (x n : Word) : Word := (x >>> n) ||| (x <<< (32 - n))

def smallSigma0 (x : Word) : Word := rotate x 7 ^^^ rotate x 18 ^^^ (x >>> 3)

def smallSigma1 (x : Word) : Word := rotate x 17 ^^^ rotate x 19 ^^^ (x >>> 10)

def bigSigma0 (x : Word) : Word := rotate x 2 ^^^ rotate x 13 ^^^ rotate x 22

def bigSigma1 (x : Word) : Word := rotate x 6 ^^^ rotate x 11 ^^^ rotate x 25

def choose (x y z : Word) : Word := (x &&& y) ^^^ (~~~x &&& z)

def majority (x y z : Word) : Word := (x &&& y) ^^^ (x &&& z) ^^^ (y &&& z)

/-- Big-endian words of the octets, four to a word. -/
def words : Octets → List Word
  | p :: q :: r :: s :: more =>
    ((p.toUInt32 <<< 24) ||| (q.toUInt32 <<< 16) ||| (r.toUInt32 <<< 8) ||| s.toUInt32) ::
      words more
  | _ => []

def octetsOf (w : Word) : Octets :=
  [(w >>> 24).toUInt8, (w >>> 16).toUInt8, (w >>> 8).toUInt8, w.toUInt8]

/-- The 64 words that a block of 16 expands to. -/
def schedule (block : List Word) : Array Word :=
  (List.range 48).foldl
    (fun w i => w.push
      (smallSigma1 (w.getD (i + 14) 0) + w.getD (i + 9) 0 + smallSigma0 (w.getD (i + 1) 0) +
        w.getD i 0))
    block.toArray

def round (s : Chain) (k w : Word) : Chain :=
  let t1 := s.h + bigSigma1 s.e + choose s.e s.f s.g + k + w
  let t2 := bigSigma0 s.a + majority s.a s.b s.c
  ⟨t1 + t2, s.a, s.b, s.c, s.d + t1, s.e, s.f, s.g⟩

def compress (s : Chain) (block : List Word) : Chain :=
  let t := (roundConstants.zip (schedule block).toList).foldl (fun t p => round t p.1 p.2) s
  ⟨s.a + t.a, s.b + t.b, s.c + t.c, s.d + t.d, s.e + t.e, s.f + t.f, s.g + t.g, s.h + t.h⟩

/-- A one bit, zeros up to eight octets short of a whole block, and the length in bits. -/
def padding (length : Nat) : Octets :=
  (0x80 : UInt8) :: List.replicate ((119 - length % 64) % 64) 0 ++
    (List.range 8).reverse.map fun i => UInt8.ofNat ((8 * length) >>> (8 * i))

/-- Compresses the blocks of 64 octets one after the other. -/
def absorb (s : Chain) (b : Octets) : Chain :=
  match _last : b.drop 63 with
  | [] => s
  | _ :: rest => absorb (compress s (words (b.take 64))) rest
termination_by b.length
decreasing_by
  have := congrArg List.length _last
  simp at this
  omega

def digest (b : Octets) : Octets :=
  let s := absorb initial (b ++ padding b.length)
  [s.a, s.b, s.c, s.d, s.e, s.f, s.g, s.h].flatMap octetsOf

/-- The key filled up to one block, a longer one hashed first. -/
def blockKey (key : Octets) : Octets :=
  let key := if 64 < key.length then digest key else key
  key ++ List.replicate (64 - key.length) 0

def hmac (key data : Octets) : Octets :=
  let key := blockKey key
  digest (key.map (· ^^^ 0x5c) ++ digest (key.map (· ^^^ 0x36) ++ data))

/-- The hash in hexadecimal. -/
def hexDigest (b : Octets) : Text := Hex.encode (digest b)

end MachineImage.Sha256
