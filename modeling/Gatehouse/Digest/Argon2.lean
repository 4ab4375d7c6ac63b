import Gatehouse.Digest.Blake2b

/-!
# Argon2

A digest of a password that takes a given amount of memory and a given number
of passes over it. Memory is a matrix of blocks of 128 words, one row for each
lane, and a row has four slices. Every block is mixed from the block in front
of it and a block that was filled earlier; which one is decided by the contents
of memory, by the position alone, or by the one after the other, according to
the variant.
-/

namespace Gatehouse.Argon2

/-- How earlier blocks are chosen. -/
inductive Variant where
  /-- By the contents of memory. -/
  | dependent
  /-- By the position. -/
  | independent
  /-- By the position in the first half of the first pass, then by contents. -/
  | hybrid
  deriving DecidableEq, Repr, Inhabited

/-- The number of a variant. -/
def Variant.code : Variant → Nat
  | .dependent => 0
  | .independent => 1
  | .hybrid => 2

/-- The costs and the form of a digest. -/
structure Params where
  variant : Variant
  /-- The version: 16, or 19 whose later passes keep what they overwrite. -/
  version : Nat
  /-- Memory in units of a block. -/
  memory : Nat
  passes : Nat
  lanes : Nat
  length : Nat
  /-- Data that goes into the digest beside password and salt. -/
  data : Bytes
  deriving DecidableEq, Inhabited

/-- A block of 128 words. -/
abbrev Block := Array UInt64

/-- Some bytes behind their number. -/
def counted (bytes : Bytes) : Bytes := bytesOfNat32 bytes.length ++ bytes

/-- The digest that everything else is derived from. -/
def seed (params : Params) (password salt : Bytes) : Bytes :=
  Blake2b.digest 64 <|
    bytesOfNat32 params.lanes ++ bytesOfNat32 params.length ++ bytesOfNat32 params.memory ++
      bytesOfNat32 params.passes ++ bytesOfNat32 params.version ++
      bytesOfNat32 params.variant.code ++ counted password ++ counted salt ++ counted [] ++
      counted params.data

/-- Halves of a chain of digests: `links` of them and then a last one in full. -/
def chained (length : Nat) : Nat → Bytes → Bytes
  | 0, link => link.take length
  | 1, link => link.take 32 ++ Blake2b.digest (length - 32) link
  | links + 2, link => link.take 32 ++ chained (length - 32) (links + 1) (Blake2b.digest 64 link)

/-- A digest of any length. -/
def longDigest (length : Nat) (input : Bytes) : Bytes :=
  let input := bytesOfNat32 length ++ input
  if length ≤ 64 then Blake2b.digest length input
  else chained length ((length + 31) / 32 - 2) (Blake2b.digest 64 input)

/-- The block that 1024 bytes spell. -/
def blockOfBytes (bytes : Bytes) : Block := ((pieces 8 bytes).map wordLowFirst).toArray

/-- The bytes of a block. -/
def bytesOfBlock (block : Block) : Bytes := block.toList.flatMap bytesLowFirst

/-- The block of zeros. -/
def zeroBlock : Block := Array.replicate 128 0

/-- The blocks with each pair of words added without carry. -/
def xorBlocks (x y : Block) : Block := Array.zipWith (· ^^^ ·) x y

/-- A sum that also takes in the product of the low halves. -/
@[inline] def blend (x y : UInt64) : UInt64 :=
  x + y + 2 * ((x &&& 0xFFFFFFFF) * (y &&& 0xFFFFFFFF))

/-- Mix four words and pass them on. -/
@[inline] def mix {α : Type} (a b c d : UInt64) (next : UInt64 → UInt64 → UInt64 → UInt64 → α) :
    α :=
  let a := blend a b
  let d := rotateRight (d ^^^ a) 32
  let c := blend c d
  let b := rotateRight (b ^^^ c) 24
  let a := blend a b
  let d := rotateRight (d ^^^ a) 16
  let c := blend c d
  let b := rotateRight (b ^^^ c) 63
  next a b c d

/-- Mix the sixteen words of a block that stand in pairs, the first pair at
`first` and each next one `step` further on. -/
def mixPairs (block : Block) (first step : Nat) : Block :=
  let word (i : Nat) : UInt64 := block.getD (first + i / 2 * step + i % 2) 0
  mix (word 0) (word 4) (word 8) (word 12) fun a0 b0 c0 d0 =>
  mix (word 1) (word 5) (word 9) (word 13) fun a1 b1 c1 d1 =>
  mix (word 2) (word 6) (word 10) (word 14) fun a2 b2 c2 d2 =>
  mix (word 3) (word 7) (word 11) (word 15) fun a3 b3 c3 d3 =>
  mix a0 b1 c2 d3 fun a0 b1 c2 d3 =>
  mix a1 b2 c3 d0 fun a1 b2 c3 d0 =>
  mix a2 b3 c0 d1 fun a2 b3 c0 d1 =>
  mix a3 b0 c1 d2 fun a3 b0 c1 d2 =>
  let place (i : Nat) : Nat := first + i / 2 * step + i % 2
  let block := block.setIfInBounds (place 0) a0
  let block := block.setIfInBounds (place 1) a1
  let block := block.setIfInBounds (place 2) a2
  let block := block.setIfInBounds (place 3) a3
  let block := block.setIfInBounds (place 4) b0
  let block := block.setIfInBounds (place 5) b1
  let block := block.setIfInBounds (place 6) b2
  let block := block.setIfInBounds (place 7) b3
  let block := block.setIfInBounds (place 8) c0
  let block := block.setIfInBounds (place 9) c1
  let block := block.setIfInBounds (place 10) c2
  let block := block.setIfInBounds (place 11) c3
  let block := block.setIfInBounds (place 12) d0
  let block := block.setIfInBounds (place 13) d1
  let block := block.setIfInBounds (place 14) d2
  block.setIfInBounds (place 15) d3

/-- Mix two blocks into one: the rows of their sum, then its columns, and the
sum once more. -/
def compress (x y : Block) : Block :=
  let sum := xorBlocks x y
  let rows := (List.range 8).foldl (fun block i => mixPairs block (16 * i) 2) sum
  let columns := (List.range 8).foldl (fun block i => mixPairs block (2 * i) 16) rows
  xorBlocks columns sum

/-- The shape of memory. -/
structure Layout where
  lanes : Nat
  /-- The number of blocks in a slice of a lane. -/
  segment : Nat

namespace Layout

/-- The number of blocks in a lane. -/
def columns (layout : Layout) : Nat := 4 * layout.segment

/-- The number of blocks. -/
def size (layout : Layout) : Nat := layout.lanes * layout.columns

/-- The place of a column of a lane. -/
def place (layout : Layout) (lane column : Nat) : Nat := lane * layout.columns + column

end Layout

/-- The layout of the memory that is used: its size is brought down to a
multiple of four blocks for each lane. -/
def Params.layout (params : Params) : Layout := ⟨params.lanes, params.memory / (4 * params.lanes)⟩

/-- Where a block is to be filled. -/
structure Position where
  pass : Nat
  slice : Nat
  lane : Nat
  index : Nat

/-- Whether the earlier block is chosen by the position. -/
def Params.isPositional (params : Params) (pass slice : Nat) : Bool :=
  match params.variant with
  | .dependent => false
  | .independent => true
  | .hybrid => pass == 0 && slice < 2

/-- The words that choose the earlier blocks of a segment by position. -/
def positionWords (params : Params) (pass slice lane : Nat) : Array Block :=
  let layout := params.layout
  (Array.range ((layout.segment + 127) / 128)).map fun counter =>
    let input : List Nat :=
      [pass, lane, slice, layout.size, params.passes, params.variant.code, counter + 1]
    let block := (input.map Nat.toUInt64).toArray ++ Array.replicate 121 0
    compress zeroBlock (compress zeroBlock block)

/-- The number of blocks that may be chosen. -/
def candidates (layout : Layout) (position : Position) (sameLane : Bool) : Nat :=
  let finished :=
    if position.pass = 0 then position.slice * layout.segment
    else layout.columns - layout.segment
  if sameLane then finished + position.index - 1
  else if position.index = 0 then finished - 1
  else finished

/-- The place of the earlier block that a word chooses. -/
def chosen (layout : Layout) (position : Position) (word : UInt64) : Nat :=
  let low := (word &&& 0xFFFFFFFF).toNat
  let high := (word >>> 32).toNat
  let lane :=
    if position.pass = 0 ∧ position.slice = 0 then position.lane else high % layout.lanes
  let count := candidates layout position (lane == position.lane)
  let distance := (count * ((low * low) >>> 32)) >>> 32
  let first :=
    if position.pass = 0 ∨ position.slice = 3 then 0 else (position.slice + 1) * layout.segment
  layout.place lane ((first + (count - 1 - distance)) % layout.columns)

/-- Fill one block. -/
def fillBlock (params : Params) (words : Array Block) (position : Position)
    (memory : Array Block) : Array Block :=
  let layout := params.layout
  let column := position.slice * layout.segment + position.index
  let before := layout.place position.lane ((column + layout.columns - 1) % layout.columns)
  let previous := memory.getD before zeroBlock
  let word :=
    if params.isPositional position.pass position.slice then
      (words.getD (position.index / 128) zeroBlock).getD (position.index % 128) 0
    else previous.getD 0 0
  let mixed := compress previous (memory.getD (chosen layout position word) zeroBlock)
  let here := layout.place position.lane column
  let block :=
    if position.pass = 0 ∨ params.version = 16 then mixed
    else xorBlocks mixed (memory.getD here zeroBlock)
  memory.setIfInBounds here block

/-- Fill a segment, of which the first two blocks of all are already there. -/
def fillSegment (params : Params) (pass slice : Nat) (memory : Array Block) (lane : Nat) :
    Array Block :=
  let first := if pass = 0 ∧ slice = 0 then 2 else 0
  let words :=
    if params.isPositional pass slice then positionWords params pass slice lane else #[]
  (List.range' first (params.layout.segment - first)).foldl
    (fun memory index => fillBlock params words ⟨pass, slice, lane, index⟩ memory) memory

/-- Fill all of memory in one pass. -/
def fillPass (params : Params) (memory : Array Block) (pass : Nat) : Array Block :=
  (List.range 4).foldl
    (fun memory slice => (List.range params.lanes).foldl (fillSegment params pass slice) memory)
    memory

/-- Memory with the first two blocks of each lane. -/
def firstBlocks (params : Params) (seed : Bytes) : Array Block :=
  let layout := params.layout
  (List.range params.lanes).foldl
    (fun memory lane =>
      let block (column : Nat) : Block :=
        blockOfBytes (longDigest 1024 (seed ++ bytesOfNat32 column ++ bytesOfNat32 lane))
      (memory.setIfInBounds (layout.place lane 0) (block 0)).setIfInBounds (layout.place lane 1)
        (block 1))
    (Array.replicate layout.size zeroBlock)

/-- The digest of a password with a salt. -/
def digest (params : Params) (password salt : Bytes) : Bytes :=
  let layout := params.layout
  let memory := (List.range params.passes).foldl (fillPass params)
    (firstBlocks params (seed params password salt))
  let last := (List.range params.lanes).map fun lane =>
    memory.getD (layout.place lane (layout.columns - 1)) zeroBlock
  longDigest params.length (bytesOfBlock (last.foldl xorBlocks zeroBlock))

end Gatehouse.Argon2
