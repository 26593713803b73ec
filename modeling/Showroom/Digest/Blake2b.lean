import Showroom.Digest.Words

/-!
# Showroom.Digest.Blake2b

The hash BLAKE2b without a key, for results of up to 64 bytes.
-/

namespace Showroom.Digest.Blake2b

def initial : List UInt64 :=
  [0x6a09e667f3bcc908, 0xbb67ae8584caa73b, 0x3c6ef372fe94f82b, 0xa54ff53a5f1d36f1,
   0x510e527fade682d1, 0x9b05688c2b3e6c1f, 0x1f83d9abfb41bd6b, 0x5be0cd19137e2179]

/-- In which order each of the twelve rounds takes the words of the message. -/
def orders : List (List Nat) :=
  [[0, 1, 2, 3, 4, 5, 6, 7, 8, 9, 10, 11, 12, 13, 14, 15],
   [14, 10, 4, 8, 9, 15, 13, 6, 1, 12, 0, 2, 11, 7, 5, 3],
   [11, 8, 12, 0, 5, 2, 15, 13, 10, 14, 3, 6, 7, 1, 9, 4],
   [7, 9, 3, 1, 13, 12, 11, 14, 2, 6, 5, 10, 4, 0, 15, 8],
   [9, 0, 5, 7, 2, 4, 10, 15, 14, 1, 11, 12, 6, 8, 3, 13],
   [2, 12, 6, 10, 0, 11, 8, 3, 4, 13, 7, 5, 15, 14, 1, 9],
   [12, 5, 1, 15, 14, 13, 4, 10, 0, 7, 6, 3, 9, 2, 8, 11],
   [13, 11, 7, 14, 12, 1, 3, 9, 5, 0, 15, 4, 8, 6, 2, 10],
   [6, 15, 14, 9, 11, 3, 0, 8, 12, 2, 13, 7, 1, 4, 10, 5],
   [10, 2, 8, 4, 7, 6, 1, 5, 15, 11, 9, 14, 3, 12, 13, 0],
   [0, 1, 2, 3, 4, 5, 6, 7, 8, 9, 10, 11, 12, 13, 14, 15],
   [14, 10, 4, 8, 9, 15, 13, 6, 1, 12, 0, 2, 11, 7, 5, 3]]

/-- Mixes four words with two words of the message. -/
@[inline] def mix {α : Type} (a b c d x y : UInt64)
    (next : UInt64 → UInt64 → UInt64 → UInt64 → α) : α :=
  let a := a + b + x
  let d := rotateRight (d ^^^ a) 32
  let c := c + d
  let b := rotateRight (b ^^^ c) 24
  let a := a + b + y
  let d := rotateRight (d ^^^ a) 16
  let c := c + d
  let b := rotateRight (b ^^^ c) 63
  next a b c d

/-- One round: columns, then diagonals. The words of the message come in the round's order. -/
def round (v m : Words) : Words :=
  mix v.w0 v.w4 v.w8 v.w12 m.w0 m.w1 fun v0 v4 v8 v12 =>
  mix v.w1 v.w5 v.w9 v.w13 m.w2 m.w3 fun v1 v5 v9 v13 =>
  mix v.w2 v.w6 v.w10 v.w14 m.w4 m.w5 fun v2 v6 v10 v14 =>
  mix v.w3 v.w7 v.w11 v.w15 m.w6 m.w7 fun v3 v7 v11 v15 =>
  mix v0 v5 v10 v15 m.w8 m.w9 fun v0 v5 v10 v15 =>
  mix v1 v6 v11 v12 m.w10 m.w11 fun v1 v6 v11 v12 =>
  mix v2 v7 v8 v13 m.w12 m.w13 fun v2 v7 v8 v13 =>
  mix v3 v4 v9 v14 m.w14 m.w15 fun v3 v4 v9 v14 =>
  ⟨v0, v1, v2, v3, v4, v5, v6, v7, v8, v9, v10, v11, v12, v13, v14, v15⟩

/-- Takes in one block of 128 bytes. `count` is the number of message bytes so far. -/
def compress (state : List UInt64) (block : Bytes) (count : Nat) (isLast : Bool) : List UInt64 :=
  let m := Words.ofList (wordsOf block)
  let flag : UInt64 := if isLast then 0xffffffffffffffff else 0
  let tail := initial.drop 4
  let v := Words.ofList (state ++ initial.take 4 ++
    [tail.getD 0 0 ^^^ UInt64.ofNat count, tail.getD 1 0 ^^^ UInt64.ofNat (count / UInt64.size),
     tail.getD 2 0 ^^^ flag, tail.getD 3 0])
  let v := orders.foldl (fun v order => round v (Words.ofList (order.map m.get))) v
  let ws := v.toList
  List.zipWith (· ^^^ ·) state (List.zipWith (· ^^^ ·) (ws.take 8) (ws.drop 8))

/-- Takes in the blocks that `message` is divided into, `blocks` of them before the last one. The
last block is filled up with zeros. -/
def absorb : (blocks : Nat) → (count : Nat) → Bytes → List UInt64 → List UInt64
  | 0, count, message, state =>
    compress state (message ++ List.replicate (128 - message.length) 0) (count + message.length) true
  | blocks + 1, count, message, state =>
    absorb blocks (count + 128) (message.drop 128)
      (compress state (message.take 128) (count + 128) false)

def hash (size : Nat) (message : Bytes) : Bytes :=
  let start := match initial with
    | h :: hs => (h ^^^ 0x01010000 ^^^ UInt64.ofNat size) :: hs
    | [] => []
  ((absorb ((message.length - 1) / 128) 0 message start).flatMap wordBytes64).take size

end Showroom.Digest.Blake2b
