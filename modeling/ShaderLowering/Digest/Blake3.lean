import ShaderLowering.Word

/-!
# BLAKE3

The BLAKE3 hash of a list of bytes, 32 bytes long. The bytes are cut into chunks of 1024 bytes, and
the chunks are the leaves of a binary tree whose left subtrees are as large as a power of two
allows. Every node of the tree is one application of the compression function, described by a
`Node`; the root is compressed once more under a flag of its own.

The 16 words of the compression state are four columns of four words. A round mixes the columns, and
then the diagonals, which are columns again once the rows are rotated against each other.
-/

namespace ShaderLowering.Blake3

/-! ## Compression -/

/-- A word rotated to the right. -/
def rotateRight (w : Word) (count : Word) : Word :=
  (w >>> count) ||| (w <<< (32 - count))

/-- A column of the compression state. -/
structure Column where
  /-- The word in the first row. -/
  a : Word
  /-- The word in the second row. -/
  b : Word
  /-- The word in the third row. -/
  c : Word
  /-- The word in the fourth row. -/
  d : Word

namespace Column

/-- One half of the mixing of a column, with a message word. -/
def mixHalf (k : Column) (m rotateD rotateB : Word) : Column :=
  let a := k.a + k.b + m
  let d := rotateRight (k.d ^^^ a) rotateD
  let c := k.c + d
  let b := rotateRight (k.b ^^^ c) rotateB
  ⟨a, b, c, d⟩

/-- Mixes a column with two message words. -/
def mix (k : Column) (x y : Word) : Column :=
  (k.mixHalf x 16 12).mixHalf y 8 7

end Column

/-- Mixes each column with two message words. -/
def mixColumns : List Column → List Word → List Column
  | k :: ks, x :: y :: ms => k.mix x y :: mixColumns ks ms
  | ks, _ => ks

/-- Columns from their rows. -/
def ofRows : List Word → List Word → List Word → List Word → List Column
  | a :: as, b :: bs, c :: cs, d :: ds => ⟨a, b, c, d⟩ :: ofRows as bs cs ds
  | _, _, _, _ => []

/-- The diagonals of four columns. -/
def diagonals (ks : List Column) : List Column :=
  ofRows (ks.map (·.a)) ((ks.map (·.b)).rotateLeft 1) ((ks.map (·.c)).rotateLeft 2)
    ((ks.map (·.d)).rotateLeft 3)

/-- The columns that four columns are the diagonals of. -/
def undiagonals (ks : List Column) : List Column :=
  ofRows (ks.map (·.a)) ((ks.map (·.b)).rotateRight 1) ((ks.map (·.c)).rotateRight 2)
    ((ks.map (·.d)).rotateRight 3)

/-- The order of the message words in the next round. -/
def permutation : List Nat := [2, 6, 3, 10, 7, 0, 4, 13, 1, 11, 12, 5, 9, 14, 15, 8]

/-- The message words in the order of the next round. -/
def permute (message : List Word) : List Word := permutation.map (message.getD · 0)

/-- The given number of rounds. -/
def rounds : Nat → List Column → List Word → List Column
  | 0, ks, _ => ks
  | n + 1, ks, message =>
    let columns := mixColumns ks (message.take 8)
    let mixed := undiagonals (mixColumns (diagonals columns) (message.drop 8))
    rounds n mixed (permute message)

/-- The initial words. -/
def initial : List Word :=
  [0x6a09e667, 0xbb67ae85, 0x3c6ef372, 0xa54ff53a, 0x510e527f, 0x9b05688c, 0x1f83d9ab, 0x5be0cd19]

/-- One application of the compression function. -/
structure Node where
  /-- The eight words that it starts from. -/
  chaining : List Word
  /-- The sixteen message words. -/
  message : List Word
  /-- The number of the chunk. -/
  counter : Nat
  /-- How many bytes of the message count. -/
  length : Nat
  /-- The flags. -/
  flags : Word

namespace Node

/-- The flag of the first block of a chunk. -/
def chunkStart : Word := 1

/-- The flag of the last block of a chunk. -/
def chunkEnd : Word := 2

/-- The flag of a node with two children. -/
def parent : Word := 4

/-- The flag of the root. -/
def root : Word := 8

/-- The eight words that the compression function gives. -/
def compress (n : Node) : List Word :=
  let last := [UInt32.ofNat n.counter, UInt32.ofNat (n.counter >>> 32), UInt32.ofNat n.length,
    n.flags]
  let start := ofRows (n.chaining.take 4) (n.chaining.drop 4) (initial.take 4) last
  let ks := rounds 7 start n.message
  ks.map (fun k => k.a ^^^ k.c) ++ ks.map (fun k => k.b ^^^ k.d)

end Node

/-! ## Chunks -/

/-- The sixteen words of a block of at most 64 bytes. -/
def blockWords (bytes : List UInt8) : List Word :=
  (bytesWords? (bytes ++ List.replicate (64 - bytes.length) 0)).getD []

/-- The last node of a chunk, from the chaining words behind the blocks before these bytes. -/
def chunkFrom (counter : Nat) (chaining : List Word) (flags : Word) (bytes : List UInt8) : Node :=
  if bytes.length ≤ 64 then
    ⟨chaining, blockWords bytes, counter, bytes.length, flags ||| Node.chunkEnd⟩
  else
    let block : Node := ⟨chaining, blockWords (bytes.take 64), counter, 64, flags⟩
    chunkFrom counter block.compress 0 (bytes.drop 64)
termination_by bytes.length
decreasing_by simp; omega

/-- The last node of a chunk. -/
def chunk (counter : Nat) (bytes : List UInt8) : Node :=
  chunkFrom counter initial Node.chunkStart bytes

/-! ## The tree -/

/-- How many bytes a chunk has. -/
def chunkLength : Nat := 1024

/-- How many bytes the left subtree has: the largest power of two of chunks that leaves at least one
byte to the right subtree. -/
def leftLength (length : Nat) : Nat :=
  chunkLength <<< ((length - 1) / chunkLength).log2

theorem leftLength_lt {length : Nat} (h : chunkLength < length) : leftLength length < length := by
  have h₁ : (length - 1) / chunkLength ≠ 0 := by
    have := Nat.div_pos (show chunkLength ≤ length - 1 by omega) (by decide)
    omega
  have h₂ := Nat.log2_self_le h₁
  have h₃ := Nat.mul_div_le (length - 1) chunkLength
  have h₄ := Nat.mul_le_mul_left chunkLength h₂
  unfold leftLength
  omega

theorem leftLength_pos (length : Nat) : 0 < leftLength length := by
  rw [leftLength, Nat.shiftLeft_eq]
  exact Nat.mul_pos (by decide) (Nat.two_pow_pos _)

/-- The top node over bytes whose first chunk has a number. -/
def tree (counter : Nat) (bytes : List UInt8) : Node :=
  if h : bytes.length ≤ chunkLength then chunk counter bytes
  else
    let left := leftLength bytes.length
    have : left < bytes.length := leftLength_lt (Nat.lt_of_not_le h)
    have : 0 < left := leftLength_pos _
    let message := (tree counter (bytes.take left)).compress
      ++ (tree (counter + left / chunkLength) (bytes.drop left)).compress
    ⟨initial, message, 0, 64, Node.parent⟩
termination_by bytes.length
decreasing_by all_goals simp; omega

/-- The BLAKE3 hash of a list of bytes. -/
def digest (bytes : List UInt8) : List UInt8 :=
  let top := tree 0 bytes
  wordBytes { top with flags := top.flags ||| Node.root }.compress

end ShaderLowering.Blake3
