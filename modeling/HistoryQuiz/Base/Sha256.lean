import Mathlib.Data.BitVec

/-!
# SHA-256

The hash function of FIPS 180-4 over lists of bytes, as an executable
definition: padding to whole blocks, the message schedule as a window of
sixteen words that slides once a round, and the sixty-four rounds.
-/

namespace Sha256

abbrev Byte := BitVec 8
abbrev Word := BitVec 32

/-- The working variables `a` to `h`. -/
structure Vars where
  a : Word
  b : Word
  c : Word
  d : Word
  e : Word
  f : Word
  g : Word
  h : Word
deriving DecidableEq

/-- The initial hash value. -/
def initial : Vars :=
  ⟨0x6a09e667, 0xbb67ae85, 0x3c6ef372, 0xa54ff53a, 0x510e527f, 0x9b05688c, 0x1f83d9ab, 0x5be0cd19⟩

/-- The round constants. -/
def constants : List Word :=
  [0x428a2f98, 0x71374491, 0xb5c0fbcf, 0xe9b5dba5, 0x3956c25b, 0x59f111f1, 0x923f82a4, 0xab1c5ed5,
   0xd807aa98, 0x12835b01, 0x243185be, 0x550c7dc3, 0x72be5d74, 0x80deb1fe, 0x9bdc06a7, 0xc19bf174,
   0xe49b69c1, 0xefbe4786, 0x0fc19dc6, 0x240ca1cc, 0x2de92c6f, 0x4a7484aa, 0x5cb0a9dc, 0x76f988da,
   0x983e5152, 0xa831c66d, 0xb00327c8, 0xbf597fc7, 0xc6e00bf3, 0xd5a79147, 0x06ca6351, 0x14292967,
   0x27b70a85, 0x2e1b2138, 0x4d2c6dfc, 0x53380d13, 0x650a7354, 0x766a0abb, 0x81c2c92e, 0x92722c85,
   0xa2bfe8a1, 0xa81a664b, 0xc24b8b70, 0xc76c51a3, 0xd192e819, 0xd6990624, 0xf40e3585, 0x106aa070,
   0x19a4c116, 0x1e376c08, 0x2748774c, 0x34b0bcb5, 0x391c0cb3, 0x4ed8aa4a, 0x5b9cca4f, 0x682e6ff3,
   0x748f82ee, 0x78a5636f, 0x84c87814, 0x8cc70208, 0x90befffa, 0xa4506ceb, 0xbef9a3f7, 0xc67178f2]

/-- The `n` low bytes of a number, most significant first. -/
def bigEndian (n value : ℕ) : List Byte :=
  (List.range n).map fun i => BitVec.ofNat 8 (value >>> (8 * (n - 1 - i)))

/-- The number that a list of bytes denotes, most significant first. -/
def ofBigEndian (bytes : List Byte) : ℕ :=
  bytes.foldl (fun acc b => acc * 256 + b.toNat) 0

/-- A one bit, zeros up to eight bytes short of a block, and the bit length. -/
def pad (message : List Byte) : List Byte :=
  message ++ 0x80#8 :: List.replicate ((119 - message.length % 64) % 64) 0#8 ++
    bigEndian 8 (8 * message.length)

/-- The first `count` groups of `size` elements. -/
def groups {α : Type} (size : ℕ) : ℕ → List α → List (List α)
  | 0, _ => []
  | count + 1, l => l.take size :: groups size count (l.drop size)

/-- The sixteen words of a block. -/
def words (block : List Byte) : List Word :=
  (groups 4 16 block).map fun bytes => BitVec.ofNat 32 (ofBigEndian bytes)

/-- The message schedule: `n` words from a window of sixteen. -/
def schedule : ℕ → List Word → List Word
  | 0, _ => []
  | n + 1, window =>
      let w0 := window.getD 0 0
      let w1 := window.getD 1 0
      let w9 := window.getD 9 0
      let w14 := window.getD 14 0
      let s0 := w1.rotateRight 7 ^^^ w1.rotateRight 18 ^^^ (w1 >>> 3)
      let s1 := w14.rotateRight 17 ^^^ w14.rotateRight 19 ^^^ (w14 >>> 10)
      w0 :: schedule n (window.tail ++ [w0 + s0 + w9 + s1])

/-- One round, with its constant and its schedule word. -/
def round (v : Vars) (kw : Word × Word) : Vars :=
  let s1 := v.e.rotateRight 6 ^^^ v.e.rotateRight 11 ^^^ v.e.rotateRight 25
  let ch := (v.e &&& v.f) ^^^ (~~~v.e &&& v.g)
  let t1 := v.h + s1 + ch + kw.1 + kw.2
  let s0 := v.a.rotateRight 2 ^^^ v.a.rotateRight 13 ^^^ v.a.rotateRight 22
  let maj := (v.a &&& v.b) ^^^ (v.a &&& v.c) ^^^ (v.b &&& v.c)
  ⟨t1 + (s0 + maj), v.a, v.b, v.c, v.d + t1, v.e, v.f, v.g⟩

/-- Absorb one block. -/
def compress (v : Vars) (block : List Byte) : Vars :=
  let v' := (constants.zip (schedule 64 (words block))).foldl round v
  ⟨v.a + v'.a, v.b + v'.b, v.c + v'.c, v.d + v'.d,
   v.e + v'.e, v.f + v'.f, v.g + v'.g, v.h + v'.h⟩

/-- The digest of a message: thirty-two bytes. -/
def sum256 (message : List Byte) : List Byte :=
  let padded := pad message
  let v := (groups 64 (padded.length / 64) padded).foldl compress initial
  [v.a, v.b, v.c, v.d, v.e, v.f, v.g, v.h].flatMap fun w => bigEndian 4 w.toNat

/-- The digest of `abc`. -/
example : ofBigEndian (sum256 [0x61, 0x62, 0x63]) =
    0xba7816bf8f01cfea414140de5dae2223b00361a396177a9cb410ff61f20015ad := by decide +kernel

end Sha256
