import Purse.Bytes

/-!
# SHA-512

The message is padded to whole blocks of 128 bytes, whose compressions are chained.
-/

namespace Purse.Sha512

def roundConstants : Vector UInt64 80 :=
  ⟨#[0x428a2f98d728ae22, 0x7137449123ef65cd, 0xb5c0fbcfec4d3b2f, 0xe9b5dba58189dbbc,
     0x3956c25bf348b538, 0x59f111f1b605d019, 0x923f82a4af194f9b, 0xab1c5ed5da6d8118,
     0xd807aa98a3030242, 0x12835b0145706fbe, 0x243185be4ee4b28c, 0x550c7dc3d5ffb4e2,
     0x72be5d74f27b896f, 0x80deb1fe3b1696b1, 0x9bdc06a725c71235, 0xc19bf174cf692694,
     0xe49b69c19ef14ad2, 0xefbe4786384f25e3, 0x0fc19dc68b8cd5b5, 0x240ca1cc77ac9c65,
     0x2de92c6f592b0275, 0x4a7484aa6ea6e483, 0x5cb0a9dcbd41fbd4, 0x76f988da831153b5,
     0x983e5152ee66dfab, 0xa831c66d2db43210, 0xb00327c898fb213f, 0xbf597fc7beef0ee4,
     0xc6e00bf33da88fc2, 0xd5a79147930aa725, 0x06ca6351e003826f, 0x142929670a0e6e70,
     0x27b70a8546d22ffc, 0x2e1b21385c26c926, 0x4d2c6dfc5ac42aed, 0x53380d139d95b3df,
     0x650a73548baf63de, 0x766a0abb3c77b2a8, 0x81c2c92e47edaee6, 0x92722c851482353b,
     0xa2bfe8a14cf10364, 0xa81a664bbc423001, 0xc24b8b70d0f89791, 0xc76c51a30654be30,
     0xd192e819d6ef5218, 0xd69906245565a910, 0xf40e35855771202a, 0x106aa07032bbd1b8,
     0x19a4c116b8d2d0c8, 0x1e376c085141ab53, 0x2748774cdf8eeb99, 0x34b0bcb5e19b48a8,
     0x391c0cb3c5c95a63, 0x4ed8aa4ae3418acb, 0x5b9cca4f7763e373, 0x682e6ff3d6b2b8a3,
     0x748f82ee5defb2fc, 0x78a5636f43172f60, 0x84c87814a1f0ab72, 0x8cc702081a6439ec,
     0x90befffa23631e28, 0xa4506cebde82bde9, 0xbef9a3f7b2c67915, 0xc67178f2e372532b,
     0xca273eceea26619c, 0xd186b8c721c0c207, 0xeada7dd6cde0eb1e, 0xf57d4f7fee6ed178,
     0x06f067aa72176fba, 0x0a637dc5a2c898a6, 0x113f9804bef90dae, 0x1b710b35131c471b,
     0x28db77f523047d84, 0x32caab7b40c72493, 0x3c9ebe0a15c9bebc, 0x431d67c49c100d4c,
     0x4cc5d4becb3e42b6, 0x597f299cfc657e2a, 0x5fcb6fab3ad6faec, 0x6c44198c4a475817], rfl⟩

/-- The eight chained words. -/
structure State where
  a : UInt64
  b : UInt64
  c : UInt64
  d : UInt64
  e : UInt64
  f : UInt64
  g : UInt64
  h : UInt64

def initialState : State :=
  ⟨0x6a09e667f3bcc908, 0xbb67ae8584caa73b, 0x3c6ef372fe94f82b, 0xa54ff53a5f1d36f1,
   0x510e527fade682d1, 0x9b05688c2b3e6c1f, 0x1f83d9abfb41bd6b, 0x5be0cd19137e2179⟩

def rotateRight (word : UInt64) (count : UInt64) : UInt64 :=
  (word >>> count) ||| (word <<< (64 - count))

def smallSigma0 (word : UInt64) : UInt64 :=
  rotateRight word 1 ^^^ rotateRight word 8 ^^^ (word >>> 7)

def smallSigma1 (word : UInt64) : UInt64 :=
  rotateRight word 19 ^^^ rotateRight word 61 ^^^ (word >>> 6)

def bigSigma0 (word : UInt64) : UInt64 :=
  rotateRight word 28 ^^^ rotateRight word 34 ^^^ rotateRight word 39

def bigSigma1 (word : UInt64) : UInt64 :=
  rotateRight word 14 ^^^ rotateRight word 18 ^^^ rotateRight word 41

def choose (x y z : UInt64) : UInt64 :=
  (x &&& y) ^^^ (~~~x &&& z)

def majority (x y z : UInt64) : UInt64 :=
  (x &&& y) ^^^ (x &&& z) ^^^ (y &&& z)

/-- One round with its message word and round constant. -/
def round (state : State) (word constant : UInt64) : State :=
  let first := state.h + bigSigma1 state.e + choose state.e state.f state.g + constant + word
  let second := bigSigma0 state.a + majority state.a state.b state.c
  ⟨first + second, state.a, state.b, state.c, state.d + first, state.e, state.f, state.g⟩

abbrev Window := Vector UInt64 16

/-- The window slides by one word over the message schedule. -/
def slide (window : Window) : Window :=
  let word (position : Nat) : UInt64 := window.getD position 0
  let next := word 0 + smallSigma0 (word 1) + word 9 + smallSigma1 (word 14)
  (window.push next).drop 1

def rounds : (constants : List UInt64) → State → Window → State
  | [], state, _ => state
  | constant :: rest, state, window =>
      rounds rest (round state (window.getD 0 0) constant) (slide window)

def wordOfBytes (bytes : Bytes) : UInt64 :=
  bytes.foldl (fun word byte => (word <<< 8) ||| byte.toUInt64) 0

def windowOfBytes (block : Bytes) : Window :=
  Vector.ofFn fun i : Fin 16 => wordOfBytes ((block.drop (8 * i)).take 8)

def compress (state : State) (block : Bytes) : State :=
  let next := rounds roundConstants.toList state (windowOfBytes block)
  ⟨state.a + next.a, state.b + next.b, state.c + next.c, state.d + next.d,
   state.e + next.e, state.f + next.f, state.g + next.g, state.h + next.h⟩

/-- A one bit, zeros up to whole blocks, and the length in bits as a big-endian 128-bit number. -/
def padding (length : Nat) : Bytes :=
  0x80 :: List.replicate ((239 - length % 128) % 128) 0 ++ (Bytes.ofNat 16 (8 * length)).reverse

def absorb (state : State) (bytes : Bytes) : State :=
  if bytes.length = 0 then state
  else absorb (compress state (bytes.take 128)) (bytes.drop 128)
termination_by bytes.length
decreasing_by simp only [List.length_drop]; omega

def bytesOfWord (word : UInt64) : FixedBytes 8 :=
  ⟨(Bytes.ofNat 8 word.toNat).reverse, by simp⟩

def hash (input : Bytes) : FixedBytes 64 :=
  let state := absorb initialState (input ++ padding input.length)
  let words := [state.a, state.b, state.c, state.d, state.e, state.f, state.g, state.h]
  ⟨words.flatMap fun word => (bytesOfWord word).toBytes, by
    simp [words, (bytesOfWord _).length_toBytes]⟩

end Purse.Sha512
