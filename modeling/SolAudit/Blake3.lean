/-!
# BLAKE3

The hash of a text. The bytes are cut into chunks of 1024, each chunk is compressed in blocks of 64, and the chunks are
the leaves of a tree whose left branches are complete.
-/

namespace SolAudit.Blake3

abbrev Words := Array UInt32

def initial : Words :=
  #[0x6A09E667, 0xBB67AE85, 0x3C6EF372, 0xA54FF53A, 0x510E527F, 0x9B05688C, 0x1F83D9AB, 0x5BE0CD19]

/-- The order in which the next round takes the words of a block. -/
def permutation : List Nat := [2, 6, 3, 10, 7, 0, 4, 13, 1, 11, 12, 5, 9, 14, 15, 8]

def chunkStart : UInt32 := 1
def chunkEnd : UInt32 := 2
def parentNode : UInt32 := 4
def rootNode : UInt32 := 8

def rotateRight (x : UInt32) (n : UInt32) : UInt32 := (x >>> n) ||| (x <<< (32 - n))

def word (words : Words) (i : Nat) : UInt32 := words.getD i 0

/-- Mixes two words of a block into four words of the state. -/
def mix (state : Words) (a b c d : Nat) (x y : UInt32) : Words :=
  let va := word state a + word state b + x
  let vd := rotateRight (word state d ^^^ va) 16
  let vc := word state c + vd
  let vb := rotateRight (word state b ^^^ vc) 12
  let va := va + vb + y
  let vd := rotateRight (vd ^^^ va) 8
  let vc := vc + vd
  let vb := rotateRight (vb ^^^ vc) 7
  (((state.setIfInBounds a va).setIfInBounds b vb).setIfInBounds c vc).setIfInBounds d vd

/-- The columns and then the diagonals of the state. -/
def lanes : List (Nat × Nat × Nat × Nat) :=
  [(0, 4, 8, 12), (1, 5, 9, 13), (2, 6, 10, 14), (3, 7, 11, 15),
    (0, 5, 10, 15), (1, 6, 11, 12), (2, 7, 8, 13), (3, 4, 9, 14)]

def round (state block : Words) : Words :=
  lanes.zipIdx.foldl (fun state ((a, b, c, d), i) ↦
    mix state a b c d (word block (2 * i)) (word block (2 * i + 1))) state

def permute (block : Words) : Words := (permutation.map (word block)).toArray

def rounds : Nat → Words → Words → Words
  | 0, state, _ => state
  | n + 1, state, block => rounds n (round state block) (permute block)

/-- Compresses a block to eight words. -/
def compress (chain block : Words) (counter : Nat) (length flags : UInt32) : Words :=
  let low := counter.toUInt32
  let high := (counter / Nat.pow 2 32).toUInt32
  let state := chain ++ initial.extract 0 4 ++ #[low, high, length, flags]
  let mixed := rounds 7 state block
  ((List.range 8).map fun i ↦ word mixed i ^^^ word mixed (i + 8)).toArray

/-- The words of a block, filled up with zeros. -/
def blockWords (bytes : List UInt8) : Words :=
  let byte (i : Nat) : UInt32 := (bytes.getD i 0).toUInt32
  ((List.range 16).map fun i ↦
    byte (4 * i) ||| (byte (4 * i + 1) <<< 8) ||| (byte (4 * i + 2) <<< 16) ||| (byte (4 * i + 3) <<< 24)).toArray

/-- Lists of a length, the last one possibly shorter. There is always one. -/
def pieces (length : Nat) : Nat → List UInt8 → List (List UInt8)
  | 0, bytes => [bytes]
  | fuel + 1, bytes =>
    if bytes.length ≤ length then [bytes] else bytes.take length :: pieces length fuel (bytes.drop length)

/-- Compresses the blocks of a chunk. The last block bears the flags of the end. -/
def chunkBlocks (counter : Nat) (start ending : UInt32) (chain : Words) : List (List UInt8) → Words
  | [] => chain
  | [block] => compress chain (blockWords block) counter block.length.toUInt32 (start ||| chunkEnd ||| ending)
  | block :: rest =>
    chunkBlocks counter 0 ending (compress chain (blockWords block) counter block.length.toUInt32 start) rest

def chunk (ending : UInt32) (counter : Nat) (bytes : List UInt8) : Words :=
  chunkBlocks counter chunkStart ending initial (pieces 64 bytes.length bytes)

/-- The greatest power of two below a number. -/
def leftSize (n : Nat) : Nat := Nat.pow 2 (n - 1).log2

/-- The node over chunks that are numbered from a counter on. -/
def tree (ending : UInt32) : Nat → Nat → List (List UInt8) → Words
  | 0, _, _ => initial
  | _ + 1, counter, [bytes] => chunk ending counter bytes
  | fuel + 1, counter, chunks =>
    let left := leftSize chunks.length
    let children := tree 0 fuel counter (chunks.take left) ++ tree 0 fuel (counter + left) (chunks.drop left)
    compress initial children 0 64 (parentNode ||| ending)

def digits : List Char := "0123456789abcdef".toList

/-- A word in hexadecimal, its lowest byte first. -/
def hexWord (w : UInt32) : List Char :=
  ([0, 8, 16, 24] : List UInt32).flatMap fun shift ↦
    let byte := ((w >>> shift) &&& 0xFF).toNat
    [digits.getD (byte / 16) '0', digits.getD (byte % 16) '0']

/-- The hash of bytes in hexadecimal. -/
def hashBytes (bytes : List UInt8) : String :=
  let chunks := pieces 1024 bytes.length bytes
  String.ofList ((tree rootNode (chunks.length + 1) 0 chunks).toList.flatMap hexWord)

/-- The hash of a text. -/
def hash (text : String) : String := hashBytes text.toUTF8.toList

end SolAudit.Blake3
