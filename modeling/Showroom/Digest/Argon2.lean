import Showroom.Digest.Blake2b

/-!
# Showroom.Digest.Argon2

The memory-hard password hash Argon2 in its three variants and both versions. The memory is a
matrix of blocks of 1024 bytes, one row to a lane. Each block is mixed from the one before it in
its lane and one other, which is chosen by the contents of the memory (variant d), by a counter
(variant i), or first one way and then the other (variant id).

* `Argon2.hash`   the hash of a password with a salt.
-/

namespace Showroom.Digest.Argon2

inductive Variant where
  | d
  | i
  | id
deriving DecidableEq, Inhabited

def Variant.number : Variant → Nat
  | d => 0
  | i => 1
  | id => 2

/-- The first version overwrites blocks on later passes, the second mixes them in. -/
inductive Version where
  | first
  | second
deriving DecidableEq, Inhabited

def Version.number : Version → Nat
  | first => 16
  | second => 19

/-- What a hash is computed with. `memory` counts blocks of 1024 bytes. -/
structure Params where
  variant : Variant
  version : Version
  memory : Nat
  passes : Nat
  lanes : Nat
  size : Nat
  data : Bytes
deriving DecidableEq, Inhabited

/-- A block of memory, as eight rows of sixteen words. -/
structure Block where
  r0 : Words
  r1 : Words
  r2 : Words
  r3 : Words
  r4 : Words
  r5 : Words
  r6 : Words
  r7 : Words
deriving Inhabited

namespace Block

def zero : Block :=
  ⟨.zero, .zero, .zero, .zero, .zero, .zero, .zero, .zero⟩

def xor (a b : Block) : Block :=
  ⟨a.r0.xor b.r0, a.r1.xor b.r1, a.r2.xor b.r2, a.r3.xor b.r3, a.r4.xor b.r4, a.r5.xor b.r5,
   a.r6.xor b.r6, a.r7.xor b.r7⟩

def rows (b : Block) : List Words := [b.r0, b.r1, b.r2, b.r3, b.r4, b.r5, b.r6, b.r7]

def row (b : Block) : Nat → Words
  | 0 => b.r0
  | 1 => b.r1
  | 2 => b.r2
  | 3 => b.r3
  | 4 => b.r4
  | 5 => b.r5
  | 6 => b.r6
  | _ => b.r7

/-- The word at a place below 128. -/
def word (b : Block) (place : Nat) : UInt64 := (b.row (place / 16)).get (place % 16)

def ofWords (ws : List UInt64) : Block :=
  ⟨.ofList ws, .ofList (ws.drop 16), .ofList (ws.drop 32), .ofList (ws.drop 48),
   .ofList (ws.drop 64), .ofList (ws.drop 80), .ofList (ws.drop 96), .ofList (ws.drop 112)⟩

def bytes (b : Block) : Bytes := b.rows.flatMap fun r => r.toList.flatMap wordBytes64

/-- Seen as eight by eight pairs of words, the block with its rows as columns. -/
def transpose (b : Block) : Block :=
  let ⟨a, b, c, d, e, f, g, h⟩ := b
  ⟨⟨a.w0, a.w1, b.w0, b.w1, c.w0, c.w1, d.w0, d.w1, e.w0, e.w1, f.w0, f.w1, g.w0, g.w1, h.w0, h.w1⟩,
   ⟨a.w2, a.w3, b.w2, b.w3, c.w2, c.w3, d.w2, d.w3, e.w2, e.w3, f.w2, f.w3, g.w2, g.w3, h.w2, h.w3⟩,
   ⟨a.w4, a.w5, b.w4, b.w5, c.w4, c.w5, d.w4, d.w5, e.w4, e.w5, f.w4, f.w5, g.w4, g.w5, h.w4, h.w5⟩,
   ⟨a.w6, a.w7, b.w6, b.w7, c.w6, c.w7, d.w6, d.w7, e.w6, e.w7, f.w6, f.w7, g.w6, g.w7, h.w6, h.w7⟩,
   ⟨a.w8, a.w9, b.w8, b.w9, c.w8, c.w9, d.w8, d.w9, e.w8, e.w9, f.w8, f.w9, g.w8, g.w9, h.w8, h.w9⟩,
   ⟨a.w10, a.w11, b.w10, b.w11, c.w10, c.w11, d.w10, d.w11, e.w10, e.w11, f.w10, f.w11, g.w10, g.w11,
    h.w10, h.w11⟩,
   ⟨a.w12, a.w13, b.w12, b.w13, c.w12, c.w13, d.w12, d.w13, e.w12, e.w13, f.w12, f.w13, g.w12, g.w13,
    h.w12, h.w13⟩,
   ⟨a.w14, a.w15, b.w14, b.w15, c.w14, c.w15, d.w14, d.w15, e.w14, e.w15, f.w14, f.w15, g.w14, g.w15,
    h.w14, h.w15⟩⟩

end Block

/-- The sum of two words and twice the product of their lower halves. -/
@[inline] def blend (x y : UInt64) : UInt64 :=
  x + y + 2 * (x &&& 0xffffffff) * (y &&& 0xffffffff)

@[inline] def mix {α : Type} (a b c d : UInt64) (next : UInt64 → UInt64 → UInt64 → UInt64 → α) : α :=
  let a := blend a b
  let d := rotateRight (d ^^^ a) 32
  let c := blend c d
  let b := rotateRight (b ^^^ c) 24
  let a := blend a b
  let d := rotateRight (d ^^^ a) 16
  let c := blend c d
  let b := rotateRight (b ^^^ c) 63
  next a b c d

def permute (v : Words) : Words :=
  mix v.w0 v.w4 v.w8 v.w12 fun v0 v4 v8 v12 =>
  mix v.w1 v.w5 v.w9 v.w13 fun v1 v5 v9 v13 =>
  mix v.w2 v.w6 v.w10 v.w14 fun v2 v6 v10 v14 =>
  mix v.w3 v.w7 v.w11 v.w15 fun v3 v7 v11 v15 =>
  mix v0 v5 v10 v15 fun v0 v5 v10 v15 =>
  mix v1 v6 v11 v12 fun v1 v6 v11 v12 =>
  mix v2 v7 v8 v13 fun v2 v7 v8 v13 =>
  mix v3 v4 v9 v14 fun v3 v4 v9 v14 =>
  ⟨v0, v1, v2, v3, v4, v5, v6, v7, v8, v9, v10, v11, v12, v13, v14, v15⟩

def Block.permuteRows (b : Block) : Block :=
  ⟨permute b.r0, permute b.r1, permute b.r2, permute b.r3, permute b.r4, permute b.r5,
   permute b.r6, permute b.r7⟩

def compress (x y : Block) : Block :=
  let r := x.xor y
  r.xor r.permuteRows.transpose.permuteRows.transpose

def word32 (n : Nat) : Bytes := Bytes.littleEndian 4 n

/-- The next `n` links of a chain in which each is the hash of the one before, 32 bytes of each;
the last link is as long as it needs to be. -/
def chain (lastSize : Nat) : (n : Nat) → Bytes → Bytes
  | 0, v => Blake2b.hash lastSize v
  | n + 1, v =>
    let next := Blake2b.hash 64 v
    next.take 32 ++ chain lastSize n next

def longHash (size : Nat) (message : Bytes) : Bytes :=
  let message := word32 size ++ message
  if size ≤ 64 then Blake2b.hash size message
  else
    let links := (size + 31) / 32 - 2
    let v := Blake2b.hash 64 message
    v.take 32 ++ chain (size - 32 * links) (links - 1) v

def counted (bs : Bytes) : Bytes := word32 bs.length ++ bs

def seed (p : Params) (password salt : Bytes) : Bytes :=
  Blake2b.hash 64 <|
    word32 p.lanes ++ word32 p.size ++ word32 p.memory ++ word32 p.passes
      ++ word32 p.version.number ++ word32 p.variant.number
      ++ counted password ++ counted salt ++ counted [] ++ counted p.data

def segmentLength (p : Params) : Nat := p.memory / (4 * p.lanes)

def laneLength (p : Params) : Nat := 4 * segmentLength p

/-- Which part of the memory is being filled. -/
structure Segment where
  pass : Nat
  slice : Nat
  lane : Nat

/-- Whether the other block is chosen by a counter. -/
def byCounter (p : Params) (s : Segment) : Bool :=
  match p.variant with
  | .d => false
  | .i => true
  | .id => s.pass = 0 && s.slice < 2

def choices (p : Params) (s : Segment) (n : Nat) : Block :=
  let input := Block.ofWords
    ([s.pass, s.lane, s.slice, p.lanes * laneLength p, p.passes, p.variant.number, n].map .ofNat)
  compress .zero (compress .zero input)

/-- How many blocks the other block is chosen from. -/
def areaSize (p : Params) (s : Segment) (sameLane : Bool) (index : Nat) : Nat :=
  let first := if index = 0 then 1 else 0
  if s.pass = 0 then
    if s.slice = 0 then index - 1
    else if sameLane then s.slice * segmentLength p + index - 1
    else s.slice * segmentLength p - first
  else if sameLane then laneLength p - segmentLength p + index - 1
  else laneLength p - segmentLength p - first

/-- Place of the other block in the memory, chosen by a word. -/
def otherPlace (p : Params) (s : Segment) (index : Nat) (choice : UInt64) : Nat :=
  let lane :=
    if s.pass = 0 && s.slice = 0 then s.lane else (choice >>> 32).toNat % p.lanes
  let area := areaSize p s (lane = s.lane) index
  let x := (choice &&& 0xffffffff).toNat
  let back := area * (x * x / UInt32.size) / UInt32.size
  let start := if s.pass = 0 ∨ s.slice = 3 then 0 else (s.slice + 1) * segmentLength p
  lane * laneLength p + (start + (area - 1 - back)) % laneLength p

/-- Fills the next `n` blocks of a segment from the block `index` on. -/
def fillBlocks (p : Params) (s : Segment) :
    (n : Nat) → (index : Nat) → (chosen : Block) → Array Block → Array Block
  | 0, _, _, memory => memory
  | n + 1, index, chosen, memory =>
    let counter := byCounter p s
    let chosen := if counter && index % 128 = 0 then choices p s (index / 128 + 1) else chosen
    let column := s.slice * segmentLength p + index
    let place := s.lane * laneLength p + column
    let before := if column = 0 then place + laneLength p - 1 else place - 1
    let last := memory.getD before .zero
    let choice := if counter then chosen.word (index % 128) else last.r0.w0
    let other := memory.getD (otherPlace p s index choice) .zero
    let mixed := compress last other
    let block :=
      if s.pass ≠ 0 && p.version = .second then mixed.xor (memory.getD place .zero) else mixed
    fillBlocks p s n (index + 1) chosen (memory.setIfInBounds place block)

/-- Fills a segment. The first two blocks of every lane are there from the start. -/
def fillSegment (p : Params) (memory : Array Block) (s : Segment) : Array Block :=
  let skipped := if s.pass = 0 && s.slice = 0 then 2 else 0
  let chosen := if byCounter p s && skipped ≠ 0 then choices p s 1 else .zero
  fillBlocks p s (segmentLength p - skipped) skipped chosen memory

/-- All segments, in the order in which they are filled. -/
def segments (p : Params) : List Segment :=
  (List.range p.passes).flatMap fun pass =>
    (List.range 4).flatMap fun slice =>
      (List.range p.lanes).map fun lane => ⟨pass, slice, lane⟩

/-- One of the first two blocks of a lane. -/
def firstBlock (seed : Bytes) (column lane : Nat) : Block :=
  .ofWords (wordsOf (longHash 1024 (seed ++ word32 column ++ word32 lane)))

/-- The memory before the first pass. -/
def initial (p : Params) (seed : Bytes) : Array Block :=
  (List.range p.lanes).foldl (fun memory lane =>
    let start := lane * laneLength p
    (memory.setIfInBounds start (firstBlock seed 0 lane)).setIfInBounds (start + 1)
      (firstBlock seed 1 lane))
    (Array.replicate (p.lanes * laneLength p) .zero)

def hash (p : Params) (password salt : Bytes) : Bytes :=
  let memory := (segments p).foldl (fillSegment p) (initial p (seed p password salt))
  let lastBlocks := (List.range p.lanes).map fun lane =>
    memory.getD (lane * laneLength p + laneLength p - 1) .zero
  longHash p.size (lastBlocks.foldl Block.xor .zero).bytes

end Showroom.Digest.Argon2
