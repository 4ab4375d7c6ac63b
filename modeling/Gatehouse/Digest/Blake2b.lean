import Gatehouse.Digest.Words

/-!
# BLAKE2b

A digest of 1 to 64 bytes without a key. A message is cut into blocks of 128
bytes, the last one filled up with zeros; each is mixed with the chaining words
and the number of bytes passed in twelve rounds. Words are written with their
low byte first.
-/

namespace Gatehouse.Blake2b

/-- The constants that the words start from. -/
def initial : Array UInt64 :=
  #[0x6A09E667F3BCC908, 0xBB67AE8584CAA73B, 0x3C6EF372FE94F82B, 0xA54FF53A5F1D36F1,
    0x510E527FADE682D1, 0x9B05688C2B3E6C1F, 0x1F83D9ABFB41BD6B, 0x5BE0CD19137E2179]

/-- The order in which each round takes the message words. -/
def orders : List (List Nat) :=
  [[0, 1, 2, 3, 4, 5, 6, 7, 8, 9, 10, 11, 12, 13, 14, 15],
    [14, 10, 4, 8, 9, 15, 13, 6, 1, 12, 0, 2, 11, 7, 5, 3],
    [11, 8, 12, 0, 5, 2, 15, 13, 10, 14, 3, 6, 7, 1, 9, 4],
    [7, 9, 3, 1, 13, 12, 11, 14, 2, 6, 5, 10, 4, 0, 15, 8],
    [9, 0, 5, 7, 2, 4, 10, 15, 14, 1, 11, 12, 6, 8, 3, 13],
    [2, 12, 6, 10, 0, 11, 8, 3, 4, 13, 7, 5, 15, 14, 1, 9],
    [12, 5, 1, 15, 14, 13, 4, 10, 0, 7, 6, 3, 9, 2, 8, 11],
    [13, 11, 7, 14, 12, 1, 3, 9, 5, 0, 15, 4, 8, 6, 2, 10],
    [6, 15, 14, 9, 11, 3, 0, 8, 12, 2, 13, 7, 1, 4, 10, 5],
    [10, 2, 8, 4, 7, 6, 1, 5, 15, 11, 9, 14, 3, 12, 13, 0],
    [0, 1, 2, 3, 4, 5, 6, 7, 8, 9, 10, 11, 12, 13, 14, 15],
    [14, 10, 4, 8, 9, 15, 13, 6, 1, 12, 0, 2, 11, 7, 5, 3]]

/-- The places of the four words that each step of a round mixes: the columns
of a square of sixteen words, then its diagonals. -/
def places : List (Nat × Nat × Nat × Nat) :=
  [(0, 4, 8, 12), (1, 5, 9, 13), (2, 6, 10, 14), (3, 7, 11, 15),
    (0, 5, 10, 15), (1, 6, 11, 12), (2, 7, 8, 13), (3, 4, 9, 14)]

/-- Mix four words with two words of the message. -/
def mix (words : Array UInt64) (place : Nat × Nat × Nat × Nat) (x y : UInt64) : Array UInt64 :=
  let (i, j, k, l) := place
  let a := words.getD i 0 + words.getD j 0 + x
  let d := rotateRight (words.getD l 0 ^^^ a) 32
  let c := words.getD k 0 + d
  let b := rotateRight (words.getD j 0 ^^^ c) 24
  let a := a + b + y
  let d := rotateRight (d ^^^ a) 16
  let c := c + d
  let b := rotateRight (b ^^^ c) 63
  (((words.setIfInBounds i a).setIfInBounds j b).setIfInBounds k c).setIfInBounds l d

/-- One round over the words of a message block. -/
def round (message : Array UInt64) (words : Array UInt64) (order : List Nat) : Array UInt64 :=
  (places.zip (pieces 2 order)).foldl
    (fun words step =>
      match step.2 with
      | [x, y] => mix words step.1 (message.getD x 0) (message.getD y 0)
      | _ => words)
    words

/-- Mix a block into the chaining words; `passed` counts the message bytes up
to its end. -/
def compress (chain : Array UInt64) (block : Bytes) (passed : Nat) (last : Bool) : Array UInt64 :=
  let message := ((pieces 8 block).map wordLowFirst).toArray
  let marks : List UInt64 :=
    [0, 0, 0, 0, passed.toUInt64, (passed >>> 64).toUInt64,
      if last then 0xFFFFFFFFFFFFFFFF else 0, 0]
  let words := chain ++ (initial.zip marks.toArray).map fun pair => pair.1 ^^^ pair.2
  let mixed := orders.foldl (round message) words
  (Array.range 8).map fun i => chain.getD i 0 ^^^ mixed.getD i 0 ^^^ mixed.getD (i + 8) 0

/-- Mix all blocks into the chaining words. -/
def absorb (chain : Array UInt64) (passed : Nat) : List Bytes → Array UInt64
  | [] => compress chain (List.replicate 128 0) passed true
  | [block] =>
      compress chain (block ++ List.replicate (128 - block.length) 0) (passed + block.length) true
  | block :: rest => absorb (compress chain block (passed + 128) false) (passed + 128) rest

/-- The digest of a message in so many bytes. -/
def digest (length : Nat) (message : Bytes) : Bytes :=
  let chain := initial.setIfInBounds 0 (initial.getD 0 0 ^^^ 0x01010000 ^^^ length.toUInt64)
  ((absorb chain 0 (pieces 128 message)).toList.flatMap bytesLowFirst).take length

end Gatehouse.Blake2b
