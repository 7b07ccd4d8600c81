/-
**A string between quotation marks reads back.**

Every character is spelled so that it can be told where it ends and which one it is: as it stands,
by a short escape, or by the four digits of its code.

Main definitions:

* `DataTier.Json.piece` — the piece that a character's spelling is read as.

Main results:

* `DataTier.Json.readPieces_escape` — a spelled character is read as its piece;
* `DataTier.Json.readStringBody_spelled` — a string is read back, and the rest is left;
* `DataTier.Json.quote_inj` — the text determines string and rest.
-/

import DataTier.Json.Printer
import DataTier.Json.Reader
import DataTier.Proofs.Text.Hex
import Mathlib

set_option relaxedAutoImplicit false
set_option autoImplicit false

namespace DataTier.Json

/-- Characters as input without gaps. -/
abbrev whole (cs : List Char) : Input := cs.map some

/-- Whether a character is spelled by the digits of its code. -/
def Coded (c : Char) : Prop :=
  c.toNat < 0x20 ∧ c ≠ '\x08' ∧ c ≠ '\t' ∧ c ≠ '\n' ∧ c ≠ '\x0c' ∧ c ≠ '\r'

instance (c : Char) : Decidable (Coded c) := inferInstanceAs (Decidable (_ ∧ _))

/-- The piece that the spelling of a character is read as. -/
def piece (c : Char) : Piece := if Coded c then .unit c.toNat else .plain c

/-- **A spelled character is read as its piece.** -/
theorem readPieces_escape (c : Char) (s : Input) :
    readPieces (whole (escape c) ++ s) =
      (readPieces s).map fun (pieces, s) => (piece c :: pieces, s) := by
  have hbind : ∀ p, (do let (pieces, s) ← readPieces s; return (p :: pieces, s)) =
      (readPieces s).map fun (pieces, s) => (p :: pieces, s) := by
    intro p
    cases readPieces s <;> rfl
  -- Seven characters have spellings of their own, and read back by evaluation.
  unfold escape
  split
  · next h => subst h; exact hbind (.plain '"')
  split
  · next h => subst h; exact hbind (.plain '\\')
  split
  · next h => subst h; exact hbind (.plain '\x08')
  split
  · next h => subst h; exact hbind (.plain '\t')
  split
  · next h => subst h; exact hbind (.plain '\n')
  split
  · next h => subst h; exact hbind (.plain '\x0c')
  split
  · next h => subst h; exact hbind (.plain '\r')
  split
  · -- Four digits are enough for a code below the blank.
    next hb ht hn hf hr hlow =>
    have hcoded : Coded c := ⟨hlow, hb, ht, hn, hf, hr⟩
    have hvalue := Hex.value?_fixed 4 c.toNat
    rw [Nat.mod_eq_of_lt (by omega)] at hvalue
    have hpiece : piece c = .unit c.toNat := if_pos hcoded
    obtain ⟨d₁, d₂, d₃, d₄, hfixed⟩ :
        ∃ d₁ d₂ d₃ d₄, Hex.fixed 4 c.toNat = [d₁, d₂, d₃, d₄] := ⟨_, _, _, _, rfl⟩
    rw [hfixed] at hvalue ⊢
    rw [hpiece, ← hbind]
    show (do
      let n ← Hex.value? [d₁, d₂, d₃, d₄]
      let (pieces, s) ← readPieces s
      return (Piece.unit n :: pieces, s)) = _
    rw [hvalue]
    rfl
  · next hquote hback hb ht hn hf hr hlow =>
    have hcoded : ¬Coded c := fun h => hlow h.1
    have hpiece : piece c = .plain c := if_neg hcoded
    rw [hpiece, ← hbind]
    show readPieces (some c :: s) = _
    rw [readPieces, if_neg (not_or.2 ⟨hlow, hback⟩)]
    · exact hquote
    · intros
      contradiction
    · intros
      contradiction

/-- A string is read as the pieces of its characters. -/
theorem readPieces_spelled (cs rest : List Char) :
    readPieces (whole (cs.flatMap escape ++ '"' :: rest)) =
      some (cs.map piece, whole rest) := by
  induction cs with
  | nil => rfl
  | cons c cs ih =>
      rw [List.flatMap_cons, List.append_assoc, whole, List.map_append, readPieces_escape]
      rw [whole] at ih
      rw [ih]
      rfl

/-- The pieces of characters spell these. -/
theorem joinPieces_piece (cs : List Char) : joinPieces (cs.map piece) = some cs := by
  induction cs with
  | nil => rfl
  | cons c cs ih =>
      rw [List.map_cons, piece]
      split
      · next h =>
        have hvalid : c.toNat.isValidChar := c.valid
        unfold joinPieces
        rw [dif_pos hvalid, ih]
        rfl
      · rw [joinPieces, ih]
        rfl

/-- **A string is read back**, and what stands after it is left. -/
theorem readStringBody_spelled (s : String) (rest : List Char) :
    readStringBody (whole (s.toList.flatMap escape ++ '"' :: rest)) = some (s, whole rest) := by
  rw [readStringBody, readPieces_spelled]
  show (do
    let cs ← joinPieces (s.toList.map piece)
    return (String.ofList cs, whole rest)) = _
  rw [joinPieces_piece]
  simp

/-- **The text determines string and rest.** -/
theorem quote_inj {s t : String} {r r' : List Char} (h : quote s r = quote t r') :
    s = t ∧ r = r' := by
  have hread := readStringBody_spelled s r
  rw [(List.cons.inj h).2, readStringBody_spelled, Option.some.injEq, Prod.mk.injEq] at hread
  obtain ⟨hstring, hrest⟩ := hread
  exact ⟨hstring.symm, ((List.map_inj_right fun _ _ => Option.some.inj).1 hrest).symm⟩

end DataTier.Json
