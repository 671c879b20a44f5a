import WebProof.Lib.Wire

/-!
# SHA-256

The hash function of FIPS 180-4 on byte strings. Words are naturals below
`2 ^ 32`; every sum is reduced where the standard adds modulo `2 ^ 32`, so the
kernel can evaluate the function with its natural-number arithmetic.
-/
namespace Lib.Sha256

open Lib.Wire (Bytes Block)

def word (n : Nat) : Nat := n % 4294967296

def rotr (x n : Nat) : Nat := word (x >>> n ||| x <<< (32 - n))

def ch (x y z : Nat) : Nat := (x &&& y) ^^^ ((4294967295 ^^^ x) &&& z)

def maj (x y z : Nat) : Nat := (x &&& y) ^^^ (x &&& z) ^^^ (y &&& z)

def bigSigma0 (x : Nat) : Nat := rotr x 2 ^^^ rotr x 13 ^^^ rotr x 22

def bigSigma1 (x : Nat) : Nat := rotr x 6 ^^^ rotr x 11 ^^^ rotr x 25

def smallSigma0 (x : Nat) : Nat := rotr x 7 ^^^ rotr x 18 ^^^ x >>> 3

def smallSigma1 (x : Nat) : Nat := rotr x 17 ^^^ rotr x 19 ^^^ x >>> 10

/-- The first 32 bits of the fractional parts of the cube roots of the first 64 primes. -/
def roundConstants : List Nat :=
  [0x428a2f98, 0x71374491, 0xb5c0fbcf, 0xe9b5dba5, 0x3956c25b, 0x59f111f1, 0x923f82a4, 0xab1c5ed5,
   0xd807aa98, 0x12835b01, 0x243185be, 0x550c7dc3, 0x72be5d74, 0x80deb1fe, 0x9bdc06a7, 0xc19bf174,
   0xe49b69c1, 0xefbe4786, 0x0fc19dc6, 0x240ca1cc, 0x2de92c6f, 0x4a7484aa, 0x5cb0a9dc, 0x76f988da,
   0x983e5152, 0xa831c66d, 0xb00327c8, 0xbf597fc7, 0xc6e00bf3, 0xd5a79147, 0x06ca6351, 0x14292967,
   0x27b70a85, 0x2e1b2138, 0x4d2c6dfc, 0x53380d13, 0x650a7354, 0x766a0abb, 0x81c2c92e, 0x92722c85,
   0xa2bfe8a1, 0xa81a664b, 0xc24b8b70, 0xc76c51a3, 0xd192e819, 0xd6990624, 0xf40e3585, 0x106aa070,
   0x19a4c116, 0x1e376c08, 0x2748774c, 0x34b0bcb5, 0x391c0cb3, 0x4ed8aa4a, 0x5b9cca4f, 0x682e6ff3,
   0x748f82ee, 0x78a5636f, 0x84c87814, 0x8cc70208, 0x90befffa, 0xa4506ceb, 0xbef9a3f7, 0xc67178f2]

structure State where
  a : Nat
  b : Nat
  c : Nat
  d : Nat
  e : Nat
  f : Nat
  g : Nat
  h : Nat

/-- The first 32 bits of the fractional parts of the square roots of the first 8 primes. -/
def initial : State :=
  ⟨0x6a09e667, 0xbb67ae85, 0x3c6ef372, 0xa54ff53a, 0x510e527f, 0x9b05688c, 0x1f83d9ab, 0x5be0cd19⟩

/-- The next schedule word from the last sixteen, oldest first. -/
def nextWord (w : List Nat) : Nat :=
  word (smallSigma1 (w.getD 14 0) + w.getD 9 0 + smallSigma0 (w.getD 1 0) + w.getD 0 0)

def round (s : State) (k w : Nat) : State :=
  let t1 := word (s.h + bigSigma1 s.e + ch s.e s.f s.g + k + w)
  let t2 := word (bigSigma0 s.a + maj s.a s.b s.c)
  ⟨word (t1 + t2), s.a, s.b, s.c, word (s.d + t1), s.e, s.f, s.g⟩

/-- The rounds over the constants, with the window of the last sixteen schedule words. -/
def rounds : List Nat → List Nat → State → State
  | [], _, s => s
  | k :: ks, w, s => rounds ks (w.tail ++ [nextWord w]) (round s k (w.headD 0))

def compress (s : State) (block : List Nat) : State :=
  let t := rounds roundConstants block s
  ⟨word (s.a + t.a), word (s.b + t.b), word (s.c + t.c), word (s.d + t.d),
    word (s.e + t.e), word (s.f + t.f), word (s.g + t.g), word (s.h + t.h)⟩

/-- Big-endian words of four bytes. -/
def wordsOf : Bytes → List Nat
  | a :: b :: c :: d :: bs =>
    (a.toNat <<< 24 ||| b.toNat <<< 16 ||| c.toNat <<< 8 ||| d.toNat) :: wordsOf bs
  | _ => []

def bytesOfWord (n : Nat) : Bytes :=
  [UInt8.ofNat (n >>> 24), UInt8.ofNat (n >>> 16), UInt8.ofNat (n >>> 8), UInt8.ofNat n]

/-- One bit, zeros to 56 modulo 64, and the bit length in eight bytes. -/
def padding (bs : Bytes) : Bytes :=
  bs ++ 0x80 :: List.replicate ((119 - bs.length % 64) % 64) 0 ++
    bytesOfWord (word (bs.length * 8 / 4294967296)) ++ bytesOfWord (word (bs.length * 8))

def blocks : Nat → List Nat → State → State
  | 0, _, s => s
  | n + 1, w, s => blocks n (w.drop 16) (compress s (w.take 16))

def digest (bs : Bytes) : State :=
  let w := wordsOf (padding bs)
  blocks (w.length / 16) w initial

/-- The 32-byte hash. -/
@[irreducible] def sha256 (bs : Bytes) : Block 32 :=
  let s := digest bs
  ⟨bytesOfWord s.a ++ bytesOfWord s.b ++ bytesOfWord s.c ++ bytesOfWord s.d ++
    bytesOfWord s.e ++ bytesOfWord s.f ++ bytesOfWord s.g ++ bytesOfWord s.h, rfl⟩

end Lib.Sha256
