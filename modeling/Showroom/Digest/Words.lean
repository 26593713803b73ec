import Showroom.Bytes

/-!
# Showroom.Digest.Words

Sixteen words of 64 bits, the unit in which BLAKE2b and Argon2 mix their state: seen as a square of
four by four, first the columns are mixed and then the diagonals.
-/

namespace Showroom.Digest

/-- Sixteen words, row by row of a square. -/
structure Words where
  w0 : UInt64
  w1 : UInt64
  w2 : UInt64
  w3 : UInt64
  w4 : UInt64
  w5 : UInt64
  w6 : UInt64
  w7 : UInt64
  w8 : UInt64
  w9 : UInt64
  w10 : UInt64
  w11 : UInt64
  w12 : UInt64
  w13 : UInt64
  w14 : UInt64
  w15 : UInt64
deriving Inhabited

namespace Words

def zero : Words := ⟨0, 0, 0, 0, 0, 0, 0, 0, 0, 0, 0, 0, 0, 0, 0, 0⟩

def toList (m : Words) : List UInt64 :=
  [m.w0, m.w1, m.w2, m.w3, m.w4, m.w5, m.w6, m.w7, m.w8, m.w9, m.w10, m.w11, m.w12, m.w13, m.w14,
   m.w15]

def ofList (ws : List UInt64) : Words :=
  let a := ws.toArray
  ⟨a.getD 0 0, a.getD 1 0, a.getD 2 0, a.getD 3 0, a.getD 4 0, a.getD 5 0, a.getD 6 0, a.getD 7 0,
   a.getD 8 0, a.getD 9 0, a.getD 10 0, a.getD 11 0, a.getD 12 0, a.getD 13 0, a.getD 14 0,
   a.getD 15 0⟩

def get (m : Words) : Nat → UInt64
  | 0 => m.w0
  | 1 => m.w1
  | 2 => m.w2
  | 3 => m.w3
  | 4 => m.w4
  | 5 => m.w5
  | 6 => m.w6
  | 7 => m.w7
  | 8 => m.w8
  | 9 => m.w9
  | 10 => m.w10
  | 11 => m.w11
  | 12 => m.w12
  | 13 => m.w13
  | 14 => m.w14
  | _ => m.w15

def xor (a b : Words) : Words :=
  ⟨a.w0 ^^^ b.w0, a.w1 ^^^ b.w1, a.w2 ^^^ b.w2, a.w3 ^^^ b.w3, a.w4 ^^^ b.w4, a.w5 ^^^ b.w5,
   a.w6 ^^^ b.w6, a.w7 ^^^ b.w7, a.w8 ^^^ b.w8, a.w9 ^^^ b.w9, a.w10 ^^^ b.w10, a.w11 ^^^ b.w11,
   a.w12 ^^^ b.w12, a.w13 ^^^ b.w13, a.w14 ^^^ b.w14, a.w15 ^^^ b.w15⟩

end Words

@[inline] def rotateRight (x n : UInt64) : UInt64 := (x >>> n) ||| (x <<< (64 - n))

/-- The 64-bit words of bytes, least significant byte first. -/
def wordsOf : Bytes → List UInt64
  | a :: b :: c :: d :: e :: f :: g :: h :: rest =>
    (a.toUInt64 ||| (b.toUInt64 <<< 8) ||| (c.toUInt64 <<< 16) ||| (d.toUInt64 <<< 24)
      ||| (e.toUInt64 <<< 32) ||| (f.toUInt64 <<< 40) ||| (g.toUInt64 <<< 48)
      ||| (h.toUInt64 <<< 56)) :: wordsOf rest
  | _ => []

/-- The bytes of a 64-bit word, least significant first. -/
def wordBytes64 (w : UInt64) : Bytes :=
  [w.toUInt8, (w >>> 8).toUInt8, (w >>> 16).toUInt8, (w >>> 24).toUInt8, (w >>> 32).toUInt8,
   (w >>> 40).toUInt8, (w >>> 48).toUInt8, (w >>> 56).toUInt8]

end Showroom.Digest
