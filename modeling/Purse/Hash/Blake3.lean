import Purse.Bytes

/-!
# BLAKE3

The hash and key-derivation modes of BLAKE3 with 32-byte output. The input is cut into chunks of
1024 bytes, which are the leaves of a binary tree; the left subtree of every node is complete and
as large as possible. Each node is a pending compression, so that the root can be marked before it
is compressed.
-/

namespace Purse.Blake3

abbrev ChainingValue := Vector UInt32 8
abbrev Block := Vector UInt32 16

def initialValue : ChainingValue :=
  ⟨#[0x6A09E667, 0xBB67AE85, 0x3C6EF372, 0xA54FF53A,
     0x510E527F, 0x9B05688C, 0x1F83D9AB, 0x5BE0CD19], rfl⟩

def chunkStart : UInt32 := 1
def chunkEnd : UInt32 := 2
def parentNode : UInt32 := 4
def rootNode : UInt32 := 8
def deriveKeyContext : UInt32 := 32
def deriveKeyMaterial : UInt32 := 64

/-- Where each word of the next round's message comes from. -/
def permutation : Vector (Fin 16) 16 :=
  ⟨#[2, 6, 3, 10, 7, 0, 4, 13, 1, 11, 12, 5, 9, 14, 15, 8], rfl⟩

def rotateRight (word : UInt32) (count : UInt32) : UInt32 :=
  (word >>> count) ||| (word <<< (32 - count))

/-- The quarter round on four words of the state, with two message words. -/
def mix (state : Block) (a b c d : Fin 16) (x y : UInt32) : Block :=
  let va := state.get a + state.get b + x
  let vd := rotateRight (state.get d ^^^ va) 16
  let vc := state.get c + vd
  let vb := rotateRight (state.get b ^^^ vc) 12
  let va := va + vb + y
  let vd := rotateRight (vd ^^^ va) 8
  let vc := vc + vd
  let vb := rotateRight (vb ^^^ vc) 7
  (((state.set a va).set b vb).set c vc).set d vd

/-- One round mixes the columns, then the diagonals. -/
def round (state message : Block) : Block :=
  let state := mix state 0 4 8 12 message[0] message[1]
  let state := mix state 1 5 9 13 message[2] message[3]
  let state := mix state 2 6 10 14 message[4] message[5]
  let state := mix state 3 7 11 15 message[6] message[7]
  let state := mix state 0 5 10 15 message[8] message[9]
  let state := mix state 1 6 11 12 message[10] message[11]
  let state := mix state 2 7 8 13 message[12] message[13]
  mix state 3 4 9 14 message[14] message[15]

def permute (message : Block) : Block :=
  permutation.map message.get

def rounds : (count : Nat) → (state message : Block) → Block
  | 0, state, _ => state
  | count + 1, state, message => rounds count (round state message) (permute message)

/-- A compression that has not been carried out yet. -/
structure Node where
  chain : ChainingValue
  block : Block
  counter : UInt64
  length : UInt32
  flags : UInt32

namespace Node

def compress (node : Node) : ChainingValue :=
  let chain := node.chain
  let iv := initialValue
  let state : Block :=
    ⟨#[chain[0], chain[1], chain[2], chain[3], chain[4], chain[5], chain[6], chain[7],
       iv[0], iv[1], iv[2], iv[3],
       node.counter.toUInt32, (node.counter >>> 32).toUInt32, node.length, node.flags], rfl⟩
  let state := rounds 7 state node.block
  Vector.ofFn fun i : Fin 8 => state.get (i.castLE (by decide)) ^^^ state.get (i.natAdd 8)

/-- The output of the node as the root of its tree. -/
def root (node : Node) : ChainingValue :=
  compress { node with counter := 0, flags := node.flags ||| rootNode }

end Node

/-- The sixteen little-endian words of a block, padded with zeros. -/
def blockOfBytes (bytes : Bytes) : Block :=
  Vector.ofFn fun i : Fin 16 => UInt32.ofNat (Bytes.toNat ((bytes.drop (4 * i)).take 4))

/-- The last block of a chunk, the blocks before it compressed into `chain`. -/
def chunkNode (flags : UInt32) (counter : UInt64) (chain : ChainingValue) (start : UInt32)
    (bytes : Bytes) : Node :=
  if bytes.length ≤ 64 then
    ⟨chain, blockOfBytes bytes, counter, UInt32.ofNat bytes.length, flags ||| start ||| chunkEnd⟩
  else
    let node : Node := ⟨chain, blockOfBytes (bytes.take 64), counter, 64, flags ||| start⟩
    chunkNode flags counter node.compress 0 (bytes.drop 64)
termination_by bytes.length
decreasing_by simp only [List.length_drop]; omega

/-- How many of `length` bytes, more than one chunk of them, go to the left subtree: the largest
power of two of chunks that leaves something for the right. -/
def leftLength (length : Nat) : Nat :=
  1024 <<< Nat.log2 ((length - 1) / 1024)

theorem leftLength_pos (length : Nat) : 0 < leftLength length := by
  rw [leftLength, Nat.shiftLeft_eq]
  exact Nat.mul_pos (by decide) (Nat.two_pow_pos _)

theorem leftLength_lt {length : Nat} (hlong : 1024 < length) : leftLength length < length := by
  have hchunks : (length - 1) / 1024 ≠ 0 := by omega
  have hlog := Nat.log2_self_le hchunks
  rw [leftLength, Nat.shiftLeft_eq]
  omega

/-- The tree over the bytes that start at chunk `counter`. -/
def treeNode (flags : UInt32) (key : ChainingValue) (counter : Nat) (bytes : Bytes) : Node :=
  if bytes.length ≤ 1024 then
    chunkNode flags (UInt64.ofNat counter) key chunkStart bytes
  else
    let cut := leftLength bytes.length
    let left := (treeNode flags key counter (bytes.take cut)).compress
    let right := (treeNode flags key (counter + cut / 1024) (bytes.drop cut)).compress
    ⟨key, left ++ right, 0, 64, flags ||| parentNode⟩
termination_by bytes.length
decreasing_by
  · have := @leftLength_lt bytes.length (by omega)
    simp only [List.length_take]
    omega
  · have := leftLength_pos bytes.length
    simp only [List.length_drop]
    omega

def bytesOfChain (chain : ChainingValue) : FixedBytes 32 :=
  ⟨(List.ofFn fun i : Fin 32 =>
      UInt8.ofNat ((chain.get ⟨i / 4, by omega⟩).toNat >>> (8 * (i.val % 4)))), by simp⟩

def hash (input : Bytes) : FixedBytes 32 :=
  bytesOfChain (treeNode 0 initialValue 0 input).root

/-- A key derived from `material`, for the one purpose that `context` names. -/
def deriveKey (context : String) (material : Bytes) : FixedBytes 32 :=
  let key := (treeNode deriveKeyContext initialValue 0 (Bytes.ofText context)).root
  bytesOfChain (treeNode deriveKeyMaterial key 0 material).root

end Purse.Blake3
