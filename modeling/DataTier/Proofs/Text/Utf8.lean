/-
**Bytes are read as characters exactly when they spell them.**

The first byte of a character tells how many follow it, and each of those carries six bits of the
character's code.  No spelling is longer than needed, so every spelled character is accepted, and
it ends where its spelling does.  A longer spelling, and the code of no character, is refused, so
nothing else is accepted.

Main results:

* `DataTier.Utf8.gather_continuation` — one more byte is six more bits;
* `DataTier.Utf8.decodeFirst_encodeChar` — **a character is read off its spelling**;
* `DataTier.Utf8.units_encode` — **a text is read without gaps**;
* `DataTier.Utf8.eq_of_decodeFirst` — a character that is read was spelled;
* `DataTier.Utf8.decode?_eq_some_iff`, `text?_eq_some_iff` — **bytes are a text exactly when they
  are its spelling**.
-/

import DataTier.Text.Utf8
import Mathlib.Data.List.Basic

set_option relaxedAutoImplicit false
set_option autoImplicit false

namespace DataTier.Utf8

/-! ### One character -/

theorem continuation?_of_lt {bits : Nat} (h : bits < 64) :
    continuation? (UInt8.ofNat (bits + 128)) = some bits := by
  have hbyte : (UInt8.ofNat (bits + 128)).toNat = bits + 128 :=
    UInt8.toNat_ofNat_of_lt' (by simp only [UInt8.size]; omega)
  rw [continuation?, hbyte, if_pos (by omega), Nat.add_sub_cancel]

/-- One more byte is six more bits. -/
theorem gather_continuation (n code k : Nat) (bs : Bytes) :
    gather (n + 1) code (UInt8.ofNat (k % 64 + 128) :: bs) = gather n (code * 64 + k % 64) bs := by
  rw [gather, continuation?_of_lt (Nat.mod_lt k (by decide))]

/-- A character is the one of its code, whatever number of bytes it takes. -/
theorem charAtLeast?_toNat {c : Char} {least : Nat} (h : least ≤ c.toNat) :
    charAtLeast? least c.toNat = some c := by
  rw [charAtLeast?, dif_pos ⟨h, c.valid⟩]
  rfl

theorem continued_of_gather {c : Char} {n lead least : Nat} {bs rest : Bytes}
    (hgather : gather n lead bs = some (c.toNat, rest)) (hleast : least ≤ c.toNat) :
    decodeFirst.continued n lead least bs = some (c, rest) := by
  rw [decodeFirst.continued, hgather, Option.bind_some]
  simp only
  rw [charAtLeast?_toNat hleast]
  rfl

/-- **A character is read off its spelling**, and what stands after it is left. -/
theorem decodeFirst_encodeChar (c : Char) (bs : Bytes) :
    decodeFirst (String.utf8EncodeChar c ++ bs) = some (c, bs) := by
  have hbound : c.toNat < 0x110000 := by
    rcases c.valid with h | h
    · exact Nat.lt_trans h (by decide)
    · exact h.2
  have hbyte : ∀ {n : Nat}, n < 256 → (UInt8.ofNat n).toNat = n := fun h =>
    UInt8.toNat_ofNat_of_lt' h
  rw [String.utf8EncodeChar, show c.val.toNat = c.toNat from rfl]
  split
  · next hone =>
    rw [List.cons_append, decodeFirst, hbyte (by omega)]
    rw [if_pos (by omega), charAtLeast?_toNat (Nat.zero_le _)]
    rfl
  split
  · next hone htwo =>
    have hlead : (UInt8.ofNat (c.toNat / 64 % 32 + 192)).toNat = c.toNat / 64 + 192 := by
      rw [hbyte (by omega)]
      omega
    have hcode : c.toNat / 64 * 64 + c.toNat % 64 = c.toNat := by omega
    rw [List.cons_append, decodeFirst, hlead]
    rw [if_neg (by omega), if_pos (by omega), Nat.add_sub_cancel]
    refine continued_of_gather ?_ (by omega)
    rw [List.cons_append, gather_continuation, gather, hcode]
    rfl
  split
  · next hone htwo hthree =>
    have hlead : (UInt8.ofNat (c.toNat / 4096 % 16 + 224)).toNat = c.toNat / 4096 + 224 := by
      rw [hbyte (by omega)]
      omega
    have hcode : (c.toNat / 4096 * 64 + c.toNat / 64 % 64) * 64 + c.toNat % 64 = c.toNat := by
      omega
    rw [List.cons_append, decodeFirst, hlead]
    rw [if_neg (by omega), if_neg (by omega), if_pos (by omega), Nat.add_sub_cancel]
    refine continued_of_gather ?_ (by omega)
    rw [List.cons_append, gather_continuation, List.cons_append, gather_continuation, gather,
      hcode]
    rfl
  · next hone htwo hthree =>
    have hlead : (UInt8.ofNat (c.toNat / 262144 % 8 + 240)).toNat = c.toNat / 262144 + 240 := by
      rw [hbyte (by omega)]
      omega
    have hcode : ((c.toNat / 262144 * 64 + c.toNat / 4096 % 64) * 64 + c.toNat / 64 % 64) * 64 +
        c.toNat % 64 = c.toNat := by
      omega
    rw [List.cons_append, decodeFirst, hlead]
    rw [if_neg (by omega), if_neg (by omega), if_neg (by omega), if_pos (by omega),
      Nat.add_sub_cancel]
    refine continued_of_gather ?_ (by omega)
    rw [List.cons_append, gather_continuation, List.cons_append, gather_continuation,
      List.cons_append, gather_continuation, gather, hcode]
    rfl

/-! ### Texts -/

theorem length_le_length_encode (cs : List Char) : cs.length ≤ (encode cs).length := by
  induction cs with
  | nil => exact Nat.le_refl 0
  | cons c cs ih =>
      have hpos : 0 < (String.utf8EncodeChar c).length :=
        List.length_pos_of_ne_nil String.utf8EncodeChar_ne_nil
      simp only [encode_cons, List.length_append, List.length_cons]
      omega

/-- Every character of a text takes one of the readings allowed. -/
theorem unitsWithin_encode {fuel : Nat} (cs : List Char) (h : cs.length ≤ fuel) :
    unitsWithin fuel (encode cs) = cs.map some := by
  induction cs generalizing fuel with
  | nil => cases fuel <;> rfl
  | cons c cs ih =>
      obtain ⟨fuel, rfl⟩ := Nat.exists_eq_add_one_of_ne_zero (Nat.ne_of_gt (Nat.lt_of_lt_of_le
        (Nat.succ_pos _) h))
      obtain ⟨b, bs, hbytes⟩ := List.exists_cons_of_ne_nil
        (List.append_ne_nil_of_left_ne_nil (String.utf8EncodeChar_ne_nil (c := c)) (encode cs))
      have hfirst := decodeFirst_encodeChar c (encode cs)
      rw [hbytes] at hfirst
      rw [encode_cons, hbytes, unitsWithin, hfirst, List.map_cons]
      simp only
      rw [ih (Nat.le_of_succ_le_succ h)]

/-- **A text is read without gaps.** -/
theorem units_encode (cs : List Char) : units (encode cs) = cs.map some :=
  unitsWithin_encode cs (length_le_length_encode cs)

/-! ### Nothing else is read -/

/-- One more byte is six more bits, and there is no other way to go on. -/
theorem exists_of_gather_succ {n code : Nat} {bs : Bytes} {result : Nat × Bytes}
    (h : gather (n + 1) code bs = some result) :
    ∃ k bs', k < 64 ∧ bs = UInt8.ofNat (k + 128) :: bs' ∧
      gather n (code * 64 + k) bs' = some result := by
  cases bs with
  | nil => cases h
  | cons b bs =>
      have hb : b.toNat < 256 := b.toNat_lt
      rw [gather, continuation?] at h
      split at h
      · next bits hbits =>
        obtain ⟨hrange, rfl⟩ : (0x80 ≤ b.toNat ∧ b.toNat ≤ 0xBF) ∧ b.toNat - 0x80 = bits := by
          simpa using hbits
        refine ⟨b.toNat - 0x80, bs, by omega, ?_, h⟩
        rw [Nat.sub_add_cancel hrange.1, UInt8.ofNat_toNat]
      · cases h

theorem charAtLeast?_eq_some_iff {least code : Nat} {c : Char} :
    charAtLeast? least code = some c ↔ least ≤ c.toNat ∧ c.toNat = code := by
  constructor
  · intro h
    by_cases hvalid : least ≤ code ∧ code.isValidChar
    · rw [charAtLeast?, dif_pos hvalid] at h
      obtain rfl := Option.some.inj h
      exact ⟨hvalid.1, rfl⟩
    · rw [charAtLeast?, dif_neg hvalid] at h
      cases h
  · rintro ⟨hleast, rfl⟩
    exact charAtLeast?_toNat hleast

theorem gather_of_continued {n lead least : Nat} {bs rest : Bytes} {c : Char}
    (h : decodeFirst.continued n lead least bs = some (c, rest)) :
    least ≤ c.toNat ∧ gather n lead bs = some (c.toNat, rest) := by
  obtain ⟨⟨code, rest'⟩, hgather, hchar⟩ := Option.bind_eq_some_iff.1 h
  obtain ⟨c', hchar', hpair⟩ := Option.map_eq_some_iff.1 hchar
  obtain ⟨rfl, rfl⟩ := Prod.mk.inj hpair
  obtain ⟨hleast, rfl⟩ := charAtLeast?_eq_some_iff.1 hchar'
  exact ⟨hleast, hgather⟩

/-- The first byte of a character, as the number it is. -/
theorem eq_ofNat_of_toNat {b : UInt8} {n : Nat} (h : b.toNat = n) : b = UInt8.ofNat n := by
  rw [← h, UInt8.ofNat_toNat]

/-- **What is read is the spelling of what comes out.** -/
theorem eq_of_decodeFirst {bs rest : Bytes} {c : Char} (h : decodeFirst bs = some (c, rest)) :
    bs = String.utf8EncodeChar c ++ rest := by
  cases bs with
  | nil => cases h
  | cons b bs =>
      rw [decodeFirst] at h
      rw [String.utf8EncodeChar, show c.val.toNat = c.toNat from rfl]
      split at h
      · next hone =>
        obtain ⟨c', hchar, hpair⟩ := Option.map_eq_some_iff.1 h
        obtain ⟨rfl, rfl⟩ := Prod.mk.inj hpair
        obtain ⟨-, hcode⟩ := charAtLeast?_eq_some_iff.1 hchar
        rw [if_pos (by omega), hcode, UInt8.ofNat_toNat]
        rfl
      split at h
      · next hone htwo =>
        obtain ⟨hleast, hgather⟩ := gather_of_continued h
        obtain ⟨k, bs, hk, rfl, hgather₁⟩ := exists_of_gather_succ hgather
        obtain ⟨hcode, rfl⟩ := Prod.mk.inj (Option.some.inj hgather₁)
        have hlead : b.toNat = c.toNat / 64 % 32 + 192 := by omega
        have hbits : c.toNat % 64 = k := by omega
        rw [if_neg (by omega), if_pos (by omega), ← eq_ofNat_of_toNat hlead, hbits]
        rfl
      split at h
      · next hone htwo hthree =>
        obtain ⟨hleast, hgather⟩ := gather_of_continued h
        obtain ⟨k, bs, hk, rfl, hgather₁⟩ := exists_of_gather_succ hgather
        obtain ⟨k', bs, hk', rfl, hgather₂⟩ := exists_of_gather_succ hgather₁
        obtain ⟨hcode, rfl⟩ := Prod.mk.inj (Option.some.inj hgather₂)
        have hlead : b.toNat = c.toNat / 4096 % 16 + 224 := by omega
        have hbits : c.toNat / 64 % 64 = k := by omega
        have hbits' : c.toNat % 64 = k' := by omega
        rw [if_neg (by omega), if_neg (by omega), if_pos (by omega),
          ← eq_ofNat_of_toNat hlead, hbits, hbits']
        rfl
      split at h
      · next hone htwo hthree hfour =>
        obtain ⟨hleast, hgather⟩ := gather_of_continued h
        obtain ⟨k, bs, hk, rfl, hgather₁⟩ := exists_of_gather_succ hgather
        obtain ⟨k', bs, hk', rfl, hgather₂⟩ := exists_of_gather_succ hgather₁
        obtain ⟨k'', bs, hk'', rfl, hgather₃⟩ := exists_of_gather_succ hgather₂
        obtain ⟨hcode, rfl⟩ := Prod.mk.inj (Option.some.inj hgather₃)
        have hlead : b.toNat = c.toNat / 262144 % 8 + 240 := by omega
        have hbits : c.toNat / 4096 % 64 = k := by omega
        have hbits' : c.toNat / 64 % 64 = k' := by omega
        have hbits'' : c.toNat % 64 = k'' := by omega
        rw [if_neg (by omega), if_neg (by omega), if_neg (by omega),
          ← eq_ofNat_of_toNat hlead, hbits, hbits', hbits'']
        rfl
      · cases h

/-- Bytes without gaps are the spelling of their characters. -/
theorem eq_encode_of_unitsWithin {fuel : Nat} {bs : Bytes} {cs : List Char}
    (hfuel : bs.length ≤ fuel) (h : unitsWithin fuel bs = cs.map some) : bs = encode cs := by
  induction fuel generalizing bs cs with
  | zero =>
      obtain rfl := List.eq_nil_of_length_eq_zero (Nat.le_zero.1 hfuel)
      obtain rfl := List.map_eq_nil_iff.1 h.symm
      rfl
  | succ fuel ih =>
      cases bs with
      | nil =>
          obtain rfl := List.map_eq_nil_iff.1 h.symm
          rfl
      | cons b bs =>
          cases cs with
          | nil =>
              rw [unitsWithin] at h
              split at h <;> cases h
          | cons c cs =>
              rw [unitsWithin] at h
              split at h
              · next c' rest hfirst =>
                obtain ⟨hc, hrest⟩ := List.cons.inj h
                obtain rfl := Option.some.inj hc
                have hbytes := eq_of_decodeFirst hfirst
                have hpos : 0 < (String.utf8EncodeChar c').length :=
                  List.length_pos_of_ne_nil String.utf8EncodeChar_ne_nil
                have hlength := congrArg List.length hbytes
                rw [List.length_append, List.length_cons] at hlength
                rw [List.length_cons] at hfuel
                rw [hbytes, encode_cons, ← ih (by omega) hrest]
              · cases (List.cons.inj h).1

theorem units_eq_map_some_iff {bs : Bytes} {cs : List Char} :
    units bs = cs.map some ↔ bs = encode cs := by
  constructor
  · exact eq_encode_of_unitsWithin (Nat.le_refl _)
  · rintro rfl
    exact units_encode cs

theorem mapM_id_eq_some_iff {α : Type} {xs : List (Option α)} {ys : List α} :
    xs.mapM id = some ys ↔ xs = ys.map some := by
  induction xs generalizing ys with
  | nil => cases ys <;> simp
  | cons x xs ih => cases ys <;> cases x <;> simp [Option.bind_eq_some_iff, ih, and_comm]

/-- **Bytes are read as a text exactly when they are its spelling.** -/
theorem decode?_eq_some_iff {bs : Bytes} {cs : List Char} :
    decode? bs = some cs ↔ bs = encode cs := by
  rw [decode?, mapM_id_eq_some_iff, units_eq_map_some_iff]

theorem text?_eq_some_iff {bs : Bytes} {s : String} : text? bs = some s ↔ bs = ofString s := by
  rw [text?, Option.map_eq_some_iff, ofString]
  constructor
  · rintro ⟨cs, hcs, rfl⟩
    rw [String.toList_ofList]
    exact decode?_eq_some_iff.1 hcs
  · rintro rfl
    exact ⟨s.toList, decode?_eq_some_iff.2 rfl, String.ofList_toList⟩

theorem ofString_inj {s t : String} : ofString s = ofString t ↔ s = t := by
  refine ⟨fun h => ?_, fun h => h ▸ rfl⟩
  have hs := text?_eq_some_iff.2 (Eq.refl (ofString s))
  rw [h, text?_eq_some_iff.2 rfl] at hs
  exact (Option.some.inj hs).symm

end DataTier.Utf8
