/-
Bytes and the characters they spell in UTF-8.

Bytes that come from outside need not be text.  `Utf8.units` reads them as a list in which a
character stands for itself and bytes that belong to no character stand as gaps, so a reader can
accept a gap in one place and refuse it in another.  Bytes that begin a character but do not finish
it are one gap together; any other byte is a gap of its own.

Main definitions:

* `DataTier.Utf8.encode` — the bytes of a list of characters;
* `DataTier.Utf8.decodeFirst` — the character that a list of bytes begins with, and the rest;
* `DataTier.Utf8.units` — all characters and gaps of a list of bytes;
* `DataTier.Utf8.text?` — the text that the bytes spell, when they have no gap.
-/

set_option relaxedAutoImplicit false
set_option autoImplicit false

namespace DataTier

/-- Stored or transmitted data. -/
abbrev Bytes := List UInt8

namespace Utf8

/-- The bytes that spell a list of characters. -/
def encode (cs : List Char) : Bytes := cs.flatMap String.utf8EncodeChar

@[simp] theorem encode_nil : encode [] = [] := rfl

@[simp] theorem encode_cons (c : Char) (cs : List Char) :
    encode (c :: cs) = String.utf8EncodeChar c ++ encode cs := rfl

/-- The bytes of a text. -/
def ofString (s : String) : Bytes := encode s.toList

/-- The six bits that a continuation byte carries. -/
def continuation? (b : UInt8) : Option Nat :=
  if 0x80 ≤ b.toNat ∧ b.toNat ≤ 0xBF then some (b.toNat - 0x80) else none

/-- A lead value followed by `n` continuation bytes, as one number. -/
def gather : Nat → Nat → Bytes → Option (Nat × Bytes)
  | 0, code, bs => some (code, bs)
  | _ + 1, _, [] => none
  | n + 1, code, b :: bs =>
    match continuation? b with
    | some bits => gather n (code * 64 + bits) bs
    | none => none

/-- The character of a code that is at least `least`: a longer spelling than needed is none. -/
def charAtLeast? (least code : Nat) : Option Char :=
  if h : least ≤ code ∧ code.isValidChar then some (Char.ofNatAux code h.2) else none

/-- The character that the bytes begin with, and the bytes after it. -/
def decodeFirst : Bytes → Option (Char × Bytes)
  | [] => none
  | b :: bs =>
    let lead := b.toNat
    if lead < 0x80 then (charAtLeast? 0 lead).map (·, bs)
    else if 0xC0 ≤ lead ∧ lead < 0xE0 then continued 1 (lead - 0xC0) 0x80 bs
    else if 0xE0 ≤ lead ∧ lead < 0xF0 then continued 2 (lead - 0xE0) 0x800 bs
    else if 0xF0 ≤ lead ∧ lead < 0xF8 then continued 3 (lead - 0xF0) 0x10000 bs
    else none
where
  /-- The character made of a lead value and `n` continuation bytes. -/
  continued (n lead least : Nat) (bs : Bytes) : Option (Char × Bytes) :=
    (gather n lead bs).bind fun (code, rest) => (charAtLeast? least code).map (·, rest)

/-- Whether a character of three or four bytes can begin with the two bytes `lead` and `second`. -/
def isStart (lead second : Nat) : Bool :=
  let least := if lead = 0xE0 then 0xA0 else if lead = 0xF0 then 0x90 else 0x80
  let most := if lead = 0xED then 0x9F else if lead = 0xF4 then 0x8F else 0xBF
  0xE0 ≤ lead && lead ≤ 0xF4 && least ≤ second && second ≤ most

/-- The bytes after the gap that a byte opens when it begins no character, given the bytes after
it. -/
def afterGap (b : UInt8) : Bytes → Bytes
  | [] => []
  | c :: bs =>
    if isStart b.toNat c.toNat then bs.dropWhile fun d => (continuation? d).isSome else c :: bs

/-- Characters and gaps, with at most `fuel` of them read. -/
def unitsWithin : Nat → Bytes → List (Option Char)
  | 0, _ => []
  | _ + 1, [] => []
  | fuel + 1, b :: bs =>
    match decodeFirst (b :: bs) with
    | some (c, rest) => some c :: unitsWithin fuel rest
    | none => none :: unitsWithin fuel (afterGap b bs)

/-- The characters of the bytes, with gaps for the bytes that belong to no character. -/
def units (bs : Bytes) : List (Option Char) := unitsWithin bs.length bs

/-- The characters that the bytes spell, when they have no gap. -/
def decode? (bs : Bytes) : Option (List Char) := (units bs).mapM id

/-- The text that the bytes spell, when they have no gap. -/
def text? (bs : Bytes) : Option String := (decode? bs).map String.ofList

end Utf8

end DataTier
