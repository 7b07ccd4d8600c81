/-
**What is left of a text that is trimmed or cut.**

Trimming takes away characters of a class at both ends and nothing between them, so a text that has
none of the class is what is left of it with any such characters around it.  Cutting leaves
stretches of the text.

Main results:

* `DataTier.Chars.exists_trim`, `DataTier.Chars.trim_append` — **what trimming takes away**;
* `DataTier.Chars.eq_of_cut`, `DataTier.Chars.isInfix_of_mem_splitOn` — what the cuts leave.
-/

import DataTier.Text.Chars

set_option relaxedAutoImplicit false
set_option autoImplicit false

namespace DataTier.Chars

/-! ### Trimming -/

section Trimming

variable {p : Char → Bool}

theorem exists_trimEnd (p : Char → Bool) (cs : List Char) :
    ∃ trail, cs = trimEnd p cs ++ trail ∧ ∀ c ∈ trail, p c = true := by
  refine ⟨(cs.reverse.takeWhile p).reverse, ?_, fun c hc => ?_⟩
  · rw [trimEnd, ← List.reverse_append, List.takeWhile_append_dropWhile, List.reverse_reverse]
  · exact List.all_eq_true.1 List.all_takeWhile c (List.mem_reverse.1 hc)

/-- What is trimmed off has the characters of the class. -/
theorem exists_trim (p : Char → Bool) (cs : List Char) :
    ∃ lead trail, cs = lead ++ trim p cs ++ trail ∧ (∀ c ∈ lead, p c = true) ∧
      ∀ c ∈ trail, p c = true := by
  obtain ⟨trail, htrail, hclass⟩ := exists_trimEnd p (cs.dropWhile p)
  refine ⟨cs.takeWhile p, trail, ?_, List.all_eq_true.1 List.all_takeWhile, hclass⟩
  rw [trim, List.append_assoc, ← htrail, List.takeWhile_append_dropWhile]

theorem dropWhile_of_none {cs : List Char} (h : ∀ c ∈ cs, p c = false) : cs.dropWhile p = cs := by
  cases cs with
  | nil => rfl
  | cons c cs => exact List.dropWhile_cons_of_neg (by simp [h c List.mem_cons_self])

theorem trimEnd_append {cs trail : List Char} (hcs : ∀ c ∈ cs, p c = false)
    (htrail : ∀ c ∈ trail, p c = true) : trimEnd p (cs ++ trail) = cs := by
  rw [trimEnd, List.reverse_append,
    List.dropWhile_append_of_pos fun c hc => htrail c (List.mem_reverse.1 hc),
    dropWhile_of_none fun c hc => hcs c (List.mem_reverse.1 hc), List.reverse_reverse]

/-- **A text without characters of the class is what trimming leaves** of it with such characters
at both its ends. -/
theorem trim_append {lead cs trail : List Char} (hlead : ∀ c ∈ lead, p c = true)
    (hcs : ∀ c ∈ cs, p c = false) (htrail : ∀ c ∈ trail, p c = true) :
    trim p (lead ++ cs ++ trail) = cs := by
  rw [trim, List.append_assoc, List.dropWhile_append_of_pos hlead]
  cases cs with
  | nil =>
      have hnone : (trail ++ []).dropWhile p = [] := List.dropWhile_append_of_pos htrail
      rw [List.append_nil] at hnone
      rw [List.nil_append, hnone]
      rfl
  | cons c cs =>
      have hc : ¬ p c = true := by simp [hcs c List.mem_cons_self]
      rw [List.cons_append, List.dropWhile_cons_of_neg hc, ← List.cons_append,
        trimEnd_append hcs htrail]

end Trimming

/-! ### Cutting -/

/-- A text that has been cut is its two parts with the separator between them. -/
theorem eq_of_cut {separator : Char} {cs before after : List Char}
    (h : cut separator cs = (before, some after)) : cs = before ++ separator :: after := by
  rw [cut] at h
  split at h
  · cases h
  · next d rest hdrop =>
    obtain ⟨rfl, hrest⟩ := Prod.mk.inj h
    obtain rfl := Option.some.inj hrest
    -- What stops the first part is the separator.
    have hd : d = separator := by
      have hhead := List.head?_dropWhile_not (· != separator) cs
      rw [hdrop] at hhead
      simpa using hhead
    have happend := List.takeWhile_append_dropWhile (p := (· != separator)) (l := cs)
    rw [hdrop, hd] at happend
    exact happend.symm

theorem isPrefix_of_splitOn {separator : Char} {cs first : List Char} {parts : List (List Char)}
    (h : splitOn separator cs = first :: parts) : first <+: cs := by
  induction cs generalizing first parts with
  | nil =>
      obtain ⟨rfl, -⟩ := List.cons.inj h
      exact List.prefix_rfl
  | cons c cs ih =>
      rw [splitOn] at h
      split at h
      · obtain ⟨rfl, -⟩ := List.cons.inj h
        exact List.nil_prefix
      · split at h
        · obtain ⟨rfl, -⟩ := List.cons.inj h
          exact ⟨cs, rfl⟩
        · next start more hsplit =>
          obtain ⟨rfl, -⟩ := List.cons.inj h
          exact (List.prefix_cons_inj c).2 (ih hsplit)

/-- A text is a stretch of what it was cut off from. -/
theorem isInfix_of_mem_splitOn {separator : Char} {cs part : List Char}
    (h : part ∈ splitOn separator cs) : part <:+: cs := by
  induction cs with
  | nil =>
      obtain rfl := List.mem_singleton.1 h
      exact List.infix_rfl
  | cons c cs ih =>
      -- The first text may begin with the new character, all others are there without it.
      cases hsplit : splitOn separator (c :: cs) with
      | nil =>
          rw [hsplit] at h
          cases h
      | cons first parts =>
          rw [hsplit] at h
          rcases List.mem_cons.1 h with rfl | hpart
          · exact (isPrefix_of_splitOn hsplit).isInfix
          · refine List.infix_cons (ih ?_)
            rw [splitOn] at hsplit
            split at hsplit
            · exact (List.cons.inj hsplit).2 ▸ hpart
            · split at hsplit
              · obtain ⟨-, rfl⟩ := List.cons.inj hsplit
                cases hpart
              · next start more hmore =>
                obtain ⟨-, rfl⟩ := List.cons.inj hsplit
                exact hmore ▸ List.mem_cons_of_mem start hpart

end DataTier.Chars
