/-
The hash XXH64 with seed zero.

Four running words each take eight bytes of every block of thirty-two; what is left over after the
last block is mixed in by words of eight, then four, then single bytes.

Main definitions:

* `DataTier.Xxh64.hash` — the hash of a list of bytes.
-/

import DataTier.Text.Utf8

set_option relaxedAutoImplicit false
set_option autoImplicit false

namespace DataTier.Xxh64

/-- The first mixing constant. -/
def prime1 : UInt64 := 0x9E3779B185EBCA87

/-- The second mixing constant. -/
def prime2 : UInt64 := 0xC2B2AE3D27D4EB4F

/-- The third mixing constant. -/
def prime3 : UInt64 := 0x165667B19E3779F9

/-- The fourth mixing constant. -/
def prime4 : UInt64 := 0x85EBCA77C2B2AE63

/-- The fifth mixing constant. -/
def prime5 : UInt64 := 0x27D4EB2F165667C5

/-- A word turned left by `n` places, for `n` from 1 to 63. -/
def rotate (x n : UInt64) : UInt64 := (x <<< n) ||| (x >>> (64 - n))

/-- The number that bytes spell, the lowest byte first. -/
def littleEndian (bs : Bytes) : UInt64 :=
  bs.foldr (fun b total => (total <<< 8) ||| b.toUInt64) 0

/-- One word of input taken into a running word. -/
def round (acc input : UInt64) : UInt64 := rotate (acc + input * prime2) 31 * prime1

/-- A running word folded into the hash at the end of the blocks. -/
def merge (acc lane : UInt64) : UInt64 := (acc ^^^ round 0 lane) * prime1 + prime4

/-- The four running words. -/
structure Lanes where
  /-- Takes the first eight bytes of each block. -/
  a : UInt64
  /-- Takes the second eight bytes. -/
  b : UInt64
  /-- Takes the third eight bytes. -/
  c : UInt64
  /-- Takes the last eight bytes. -/
  d : UInt64

/-- The running words before the first block. -/
def Lanes.start : Lanes := ⟨prime1 + prime2, prime2, 0, 0 - prime1⟩

/-- The running words after one more block. -/
def Lanes.absorb (l : Lanes) (block : Bytes) : Lanes :=
  let word (i : Nat) := littleEndian ((block.drop (8 * i)).take 8)
  ⟨round l.a (word 0), round l.b (word 1), round l.c (word 2), round l.d (word 3)⟩

/-- The hash that the running words stand for. -/
def Lanes.join (l : Lanes) : UInt64 :=
  let sum := rotate l.a 1 + rotate l.b 7 + rotate l.c 12 + rotate l.d 18
  merge (merge (merge (merge sum l.a) l.b) l.c) l.d

/-- The running words after all whole blocks, and the bytes left over. -/
def blocks (l : Lanes) (bs : Bytes) : Lanes × Bytes :=
  if 32 ≤ bs.length then blocks (l.absorb (bs.take 32)) (bs.drop 32) else (l, bs)
termination_by bs.length
decreasing_by simp only [List.length_drop]; omega

/-- The bytes left over mixed in: words of eight, then one of four, then single bytes. -/
def tail (h : UInt64) (bs : Bytes) : UInt64 :=
  match bs with
  | [] => h
  | b :: rest =>
    if 8 ≤ bs.length then
      tail (rotate (h ^^^ round 0 (littleEndian (bs.take 8))) 27 * prime1 + prime4) (rest.drop 7)
    else if 4 ≤ bs.length then
      tail (rotate (h ^^^ (littleEndian (bs.take 4) * prime1)) 23 * prime2 + prime3) (rest.drop 3)
    else tail (rotate (h ^^^ (b.toUInt64 * prime5)) 11 * prime1) rest
termination_by bs.length
decreasing_by all_goals simp only [List.length_drop, List.length_cons]; omega

/-- The last mixing, after which every bit of input has touched every bit of the hash. -/
def avalanche (h : UInt64) : UInt64 :=
  let h := (h ^^^ (h >>> 33)) * prime2
  let h := (h ^^^ (h >>> 29)) * prime3
  h ^^^ (h >>> 32)

/-- The hash of a list of bytes. -/
def hash (bs : Bytes) : UInt64 :=
  let length := UInt64.ofNat bs.length
  let (lanes, rest) := blocks .start bs
  let start := if bs.length < 32 then prime5 else lanes.join
  avalanche (tail (start + length) rest)

end DataTier.Xxh64
