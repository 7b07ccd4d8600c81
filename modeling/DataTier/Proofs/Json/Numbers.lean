/-
**Numbers in front of more text.**

A number is read as far as it goes, so what it is read as does not depend on what follows, as long
as that is a comma, a closing bracket or nothing.  Integers are read back from their digits.  For a
floating-point number this depends on how exactly its decimal is scaled, which is rounded in more
than one step; that one reads back is a property of its own.

Main definitions:

* `DataTier.Json.Delimited` — a comma, a closing bracket or nothing comes first;
* `DataTier.Json.Keeps` — what is read is read in front of more text as well;
* `DataTier.Json.Number.ReadsBack` — a number is what its text is read as.

Main results:

* `DataTier.Json.keeps_readNumeral` — what follows a number does not matter;
* `DataTier.Json.Number.readsBack_of_integer` — **integers read back**;
* `DataTier.Json.Number.ReadsBack.readNumber` — a number that reads back does so in front of more
  text.
-/

import DataTier.Proofs.Json.Text
import DataTier.Proofs.Text.Decimal

set_option relaxedAutoImplicit false
set_option autoImplicit false

namespace DataTier.Json

open FloatLayout (isNumeral)

/-- What comes first ends any value: a comma, a closing bracket or the end. -/
def Delimited (rest : List Char) : Prop := ∀ c ∈ rest.head?, c = ',' ∨ c = ']' ∨ c = '}'

theorem delimited_nil : Delimited [] := nofun

theorem delimited_cons {c : Char} (h : c = ',' ∨ c = ']' ∨ c = '}') (rest : List Char) :
    Delimited (c :: rest) := by
  intro d hd
  rwa [← Option.some.inj hd]

/-! ### The parts of a number -/

section Append

variable {α β : Type} {rest : List Char} {s : Input}

/-- What is read is read in front of more text as well, which is left. -/
def Keeps (rest : List Char) (reader : Input → Option (α × Input)) : Prop :=
  ∀ s x s', reader s = some (x, s') → reader (s ++ whole rest) = some (x, s' ++ whole rest)

theorem Keeps.map {reader : Input → Option (α × Input)} (h : Keeps rest reader) (f : α → β) :
    Keeps rest fun s => (reader s).map fun (x, s) => (f x, s) := by
  intro s y s' hread
  obtain ⟨⟨x, t⟩, hx, heq⟩ := Option.map_eq_some_iff.1 hread
  obtain ⟨rfl, rfl⟩ := Prod.mk.inj heq
  simp only [h s x t hx, Option.map_some]

/-- A text that what follows completes begins with a delimiter, unless it is not empty. -/
theorem head_of_append (hrest : Delimited rest) {c : Char} (hc : c ≠ ',' ∧ c ≠ ']' ∧ c ≠ '}')
    {t : Input} (h : s ++ whole rest = some c :: t) : ∃ t', s = some c :: t' := by
  cases s with
  | nil =>
      cases rest with
      | nil => cases h
      | cons d rest =>
          obtain rfl := Option.some.inj (List.cons.inj h).1
          obtain ⟨hcomma, hbracket, hbrace⟩ := hc
          rcases hrest d rfl with heq | heq | heq <;> contradiction
  | cons d s => exact ⟨s, by rw [(List.cons.inj h).1]⟩

theorem spanDigits_append (hrest : Delimited rest) (s : Input) :
    spanDigits (s ++ whole rest) = ((spanDigits s).1, (spanDigits s).2 ++ whole rest) := by
  induction s with
  | nil =>
      cases rest with
      | nil => rfl
      | cons c rest =>
          have hdigit : ¬c.isDigit = true := by
            rcases hrest c rfl with rfl | rfl | rfl <;> decide
          simp only [List.nil_append, whole, List.map_cons, spanDigits, if_neg hdigit]
  | cons c s ih =>
      cases c with
      | none => rfl
      | some c =>
          by_cases hdigit : c.isDigit = true
          · simp only [List.cons_append, spanDigits, if_pos hdigit, ih]
          · simp only [List.cons_append, spanDigits, if_neg hdigit]

theorem keeps_readDigits (hrest : Delimited rest) : Keeps rest readDigits := by
  intro s digits s' h
  rw [readDigits] at h ⊢
  rw [spanDigits_append hrest]
  cases hspan : spanDigits s with
  | mk ds t =>
      rw [hspan] at h
      cases ds with
      | nil => cases h
      | cons d ds =>
          obtain ⟨rfl, rfl⟩ := Prod.mk.inj (Option.some.inj h)
          rfl

theorem keeps_readFraction (hrest : Delimited rest) : Keeps rest readFraction := by
  intro s fraction s' h
  rw [readFraction.eq_def] at h
  split at h
  · rw [List.cons_append, readFraction]
    exact (keeps_readDigits hrest).map some _ _ _ h
  · next hpoint =>
    obtain ⟨rfl, rfl⟩ := Prod.mk.inj (Option.some.inj h)
    rw [readFraction]
    intro t ht
    obtain ⟨t', rfl⟩ := head_of_append hrest (by decide) ht
    exact hpoint t' rfl

theorem keeps_readExponent (hrest : Delimited rest) : Keeps rest readExponent := by
  intro s e s' h
  rw [readExponent.eq_def] at h
  split at h
  · rw [List.cons_append, readExponent]
    exact (keeps_readDigits hrest).map (fun digits => -(Digits.value digits : Int)) _ _ _ h
  · rw [List.cons_append, readExponent]
    exact (keeps_readDigits hrest).map (fun digits => (Digits.value digits : Int)) _ _ _ h
  · next hminus hplus =>
    rw [readExponent]
    · exact (keeps_readDigits hrest).map (fun digits => (Digits.value digits : Int)) _ _ _ h
    · intro t ht
      obtain ⟨t', rfl⟩ := head_of_append hrest (by decide) ht
      exact hminus t' rfl
    · intro t ht
      obtain ⟨t', rfl⟩ := head_of_append hrest (by decide) ht
      exact hplus t' rfl

theorem keeps_readScale (hrest : Delimited rest) : Keeps rest readScale := by
  intro s e s' h
  rw [readScale.eq_def] at h
  split at h
  · rw [List.cons_append, readScale]
    exact (keeps_readExponent hrest).map some _ _ _ h
  · rw [List.cons_append, readScale]
    exact (keeps_readExponent hrest).map some _ _ _ h
  · next hsmall hbig =>
    obtain ⟨rfl, rfl⟩ := Prod.mk.inj (Option.some.inj h)
    rw [readScale]
    · intro t ht
      obtain ⟨t', rfl⟩ := head_of_append hrest (by decide) ht
      exact hsmall t' rfl
    · intro t ht
      obtain ⟨t', rfl⟩ := head_of_append hrest (by decide) ht
      exact hbig t' rfl

/-- Whether there is a minus sign, and the input after it. -/
def unsigned : Input → Bool × Input
  | some '-' :: s => (true, s)
  | s => (false, s)

theorem unsigned_append (hrest : Delimited rest) (s : Input) :
    unsigned (s ++ whole rest) = ((unsigned s).1, (unsigned s).2 ++ whole rest) := by
  rw [unsigned.eq_def s]
  split
  · rfl
  · next hminus =>
    rw [unsigned]
    intro t ht
    obtain ⟨t', rfl⟩ := head_of_append hrest (by decide) ht
    exact hminus t' rfl

/-- **What a number is read as**: a sign, digits, a fraction and an exponent. -/
theorem readNumeral_eq_some_iff {s s' : Input} {n : Numeral} :
    readNumeral s = some (n, s') ↔ ∃ digits s₁ fraction s₂ exponent,
      readDigits (unsigned s).2 = some (digits, s₁) ∧
      ¬(digits.head? = some '0' ∧ 1 < digits.length) ∧
      readFraction s₁ = some (fraction, s₂) ∧ readScale s₂ = some (exponent, s') ∧
      n = ⟨(unsigned s).1, digits, fraction.getD [], exponent,
        fraction.isNone && exponent.isNone⟩ := by
  have hsteps : readNumeral s = (readDigits (unsigned s).2).bind fun x =>
      if x.1.head? = some '0' ∧ 1 < x.1.length then none
      else (readFraction x.2).bind fun y => (readScale y.2).bind fun z =>
        some (⟨(unsigned s).1, x.1, y.1.getD [], z.1, y.1.isNone && z.1.isNone⟩, z.2) := rfl
  simp only [hsteps, Option.bind_eq_some_iff, Option.ite_none_left_eq_some, Option.some.injEq,
    Prod.exists, Prod.mk.injEq]
  constructor
  · rintro ⟨digits, s₁, hdigits, hzero, fraction, s₂, hfraction, exponent, s₃, hscale, hn, rfl⟩
    exact ⟨digits, s₁, fraction, s₂, exponent, hdigits, hzero, hfraction, hscale, hn.symm⟩
  · rintro ⟨digits, s₁, fraction, s₂, exponent, hdigits, hzero, hfraction, hscale, rfl⟩
    exact ⟨digits, s₁, hdigits, hzero, fraction, s₂, hfraction, exponent, s', hscale, rfl, rfl⟩

/-- **What follows a number does not matter.** -/
theorem keeps_readNumeral (hrest : Delimited rest) : Keeps rest readNumeral := by
  intro s n s' h
  obtain ⟨digits, s₁, fraction, s₂, exponent, hdigits, hzero, hfraction, hscale, hn⟩ :=
    readNumeral_eq_some_iff.1 h
  rw [readNumeral_eq_some_iff, unsigned_append hrest]
  exact ⟨digits, s₁ ++ whole rest, fraction, s₂ ++ whole rest, exponent,
    keeps_readDigits hrest _ _ _ hdigits, hzero, keeps_readFraction hrest _ _ _ hfraction,
    keeps_readScale hrest _ _ _ hscale, hn⟩

end Append

/-! ### Numbers that read back -/

theorem skipBlank_of_not_blank {c : Char} (h : ¬(c = ' ' ∨ c = '\t' ∨ c = '\n' ∨ c = '\r'))
    (s : Input) : skipBlank (some c :: s) = some c :: s := by
  rw [skipBlank, if_neg h]

namespace Number

/-- A number is what its text is read as. -/
def ReadsBack (n : Number) : Prop := readNumber 0 (whole n.chars) = some (n, [])

/-- The text of a number begins with a character of a number, which is no blank. -/
theorem skipBlank_chars (n : Number) (s : Input) :
    skipBlank (whole n.chars ++ s) = whole n.chars ++ s := by
  have hfirst := n.isNumeral_chars
  cases hchars : n.chars with
  | nil => exact absurd hchars n.chars_ne_nil
  | cons c cs =>
      have hc : isNumeral c = true := hfirst c (hchars ▸ List.mem_cons_self)
      refine skipBlank_of_not_blank ?_ _
      rintro (rfl | rfl | rfl | rfl) <;> exact absurd hc (by decide)

theorem readNumber_eq_some_iff {depth : Nat} {s s' : Input} {n : Number} :
    readNumber depth s = some (n, s') ↔
      ∃ numeral, readNumeral (skipBlank s) = some (numeral, s') ∧ numeral.number? = some n := by
  simp only [readNumber, Option.bind_eq_bind, Option.bind_eq_some_iff, Prod.exists,
    Option.pure_def, Option.some.injEq, Prod.mk.injEq]
  constructor
  · rintro ⟨numeral, t, hnumeral, n, hn, rfl, rfl⟩
    exact ⟨numeral, hnumeral, hn⟩
  · rintro ⟨numeral, hnumeral, hn⟩
    exact ⟨numeral, s', hnumeral, n, hn, rfl, rfl⟩

/-- **A number that reads back does so in front of more text**, at any depth. -/
theorem ReadsBack.readNumber {n : Number} (h : n.ReadsBack) {rest : List Char}
    (hrest : Delimited rest) (depth : Nat) :
    readNumber depth (whole (n.chars ++ rest)) = some (n, whole rest) := by
  obtain ⟨numeral, hnumeral, hn⟩ := readNumber_eq_some_iff.1 h
  rw [← List.append_nil (whole n.chars), skipBlank_chars, List.append_nil] at hnumeral
  rw [readNumber_eq_some_iff, whole, List.map_append, skipBlank_chars]
  exact ⟨numeral, keeps_readNumeral hrest _ _ _ hnumeral, hn⟩

/-! ### Integers -/

theorem spanDigits_of_digits {digits : List Char} (h : ∀ c ∈ digits, c.isDigit = true) :
    spanDigits (whole digits) = (digits, []) := by
  induction digits with
  | nil => rfl
  | cons c digits ih =>
      obtain ⟨hc, hdigits⟩ := List.forall_mem_cons.1 h
      simp only [whole, List.map_cons, spanDigits, if_pos hc]
      rw [show List.map some digits = whole digits from rfl, ih hdigits]

/-- Digits of a number are read as they stand. -/
theorem readNumeral_of_digits {s : Input} {n : Nat} {negative : Bool}
    (h : unsigned s = (negative, whole (Nat.toDigits 10 n))) :
    readNumeral s = some (⟨negative, Nat.toDigits 10 n, [], none, true⟩, []) := by
  have hdigit : ∀ c ∈ Nat.toDigits 10 n, c.isDigit = true := fun c hc =>
    Digits.isDigit_toDigits hc
  refine readNumeral_eq_some_iff.2 ⟨Nat.toDigits 10 n, [], none, [], none, ?_, ?_, rfl, rfl, ?_⟩
  · rw [h, readDigits, spanDigits_of_digits hdigit]
    cases hchars : Nat.toDigits 10 n with
    | nil => exact absurd hchars Nat.toDigits_ne_nil
    | cons c cs => rfl
  · rintro ⟨hhead, hlong⟩
    -- Only zero itself begins with a zero.
    by_cases hzero : n = 0
    · subst hzero
      exact absurd hlong (by decide)
    · exact head?_toDigits hzero hhead
  · rw [h]
    rfl

/-- **Integers read back.** -/
theorem readsBack_of_integer {n : Number} (h : ∀ x, n ≠ .real x) : n.ReadsBack := by
  refine readNumber_eq_some_iff.2 ?_
  rw [← List.append_nil (whole n.chars), skipBlank_chars, List.append_nil]
  cases n with
  | natural n =>
      have hunsigned : unsigned (whole (Nat.toDigits 10 n.toNat)) =
          (false, whole (Nat.toDigits 10 n.toNat)) := by
        rw [unsigned]
        intro t ht
        cases hchars : Nat.toDigits 10 n.toNat with
        | nil => exact absurd hchars Nat.toDigits_ne_nil
        | cons c cs =>
            rw [hchars] at ht
            obtain rfl := Option.some.inj (List.cons.inj ht).1
            exact digits_ne_minus _ _ hchars
      refine ⟨_, readNumeral_of_digits hunsigned, ?_⟩
      have hinteger : ofInt? (n.toNat : Int) = some (.natural n) := by
        show (if n.toNat < Word.size then some (natural (UInt64.ofNat n.toNat)) else none) = _
        rw [if_pos n.toNat_lt, UInt64.ofNat_toNat]
      simp only [Numeral.number?, Digits.value_toDigits, hinteger]
      rfl
  | negSucc n =>
      have hunsigned : unsigned (whole (negSucc n).chars) =
          (true, whole (Nat.toDigits 10 (n.val + 1))) := rfl
      refine ⟨_, readNumeral_of_digits hunsigned, ?_⟩
      have hinteger : ofInt? (-((n.val + 1 : Nat) : Int)) = some (.negSucc n) := by
        show (if h : n.val < Word.signedSize then some (negSucc ⟨n.val, h⟩) else none) = _
        rw [dif_pos n.isLt]
      simp only [Numeral.number?, Digits.value_toDigits, hinteger]
      rfl
  | real x => exact absurd rfl (h x)

/-! ### One half -/

/-- One half, by its place among all magnitudes. -/
def half : Double := ⟨false, 4602678819172646912, by decide⟩

theorem readsBack_half : (real half).ReadsBack := by
  show readNumber 0 (whole (real half).chars) = some (real half, [])
  decide +kernel

example : half.chars = ['0', '.', '5'] := by decide +kernel

end Number

end DataTier.Json
