/-
**Pairs with distinct names in order.**

Pairs in the order of their names are determined by what is found under each name.  Putting pairs
in order keeps them all when no name comes twice: the result does not depend on the order that they
had, and they can be told from it, given the order that the names had.

Main results:

* `DataTier.Named.find?_insert` — what a lookup finds after a pair was put in;
* `DataTier.Named.Sorted.ext_find?` — **pairs in order are determined by the lookups**;
* `DataTier.Named.perm_ofList` — no pair is lost and none is made up;
* `DataTier.Named.ofList_eq_of_perm` — **pairs with distinct names may be put in in any order**;
* `DataTier.Named.ofList_inj` — pairs under the same distinct names are told from their order.
-/

import DataTier.Named
import Mathlib.Data.List.Nodup
import Mathlib.Data.List.Perm.Basic

set_option relaxedAutoImplicit false
set_option autoImplicit false

namespace DataTier

namespace Named

variable {α : Type}

/-! ### Pairs in order -/

theorem find?_cons (name n : String) (v : α) (xs : Named α) :
    find? name ((n, v) :: xs) = if name = n then some v else find? name xs := by
  rw [find?, List.lookup_cons]
  by_cases hname : name = n
  · simp [hname]
  · rw [beq_eq_false_iff_ne.2 hname, if_neg hname, find?]

/-- What is put under a name is found there, and under all others what was there. -/
theorem find?_insert (name other : String) (value : α) (xs : Named α) :
    find? other (insert name value xs) = if other = name then some value else find? other xs := by
  induction xs with
  | nil => rw [insert, find?_cons]
  | cons x xs ih =>
      obtain ⟨n, v⟩ := x
      unfold insert
      split
      · rw [find?_cons]
      · split
        · next heq =>
          rw [find?_cons, find?_cons]
          split
          · rfl
          · next hother => rw [if_neg (heq ▸ hother)]
        · next hne =>
          rw [find?_cons, find?_cons, ih]
          -- The name of the first pair is another one, so it does not matter which is asked first.
          by_cases hfirst : other = n
          · rw [if_pos hfirst, if_neg fun h => hne (h.symm.trans hfirst), if_pos hfirst]
          · rw [if_neg hfirst, if_neg hfirst]

theorem insert_of_lt {name : String} {value : α} {xs : Named α} (h : ∀ x ∈ xs, x.1 < name) :
    insert name value xs = xs ++ [(name, value)] := by
  induction xs with
  | nil => rfl
  | cons x xs ih =>
      have hx : x.1 < name := h x List.mem_cons_self
      have hne : name ≠ x.1 := fun heq => String.lt_irrefl _ (heq ▸ hx)
      rw [insert, if_neg (fun hlt => String.lt_irrefl _ (String.lt_trans hlt hx)), if_neg hne,
        ih fun y hy => h y (List.mem_cons_of_mem _ hy)]
      rfl

/-- In pairs whose names are in order a lookup finds every pair. -/
theorem Sorted.find?_eq_some_iff {xs : Named α} (h : xs.Sorted) {name : String} {value : α} :
    find? name xs = some value ↔ (name, value) ∈ xs := by
  induction xs with
  | nil => simp [find?]
  | cons x xs ih =>
      obtain ⟨n, v⟩ := x
      obtain ⟨hfirst, hxs⟩ := List.pairwise_cons.1 h
      rw [find?_cons, List.mem_cons, Prod.mk.injEq]
      by_cases hname : name = n
      · -- All other names come later, so no other pair has this one.
        have hlater : (name, value) ∉ xs := fun hmem =>
          String.lt_irrefl name (hname ▸ hfirst _ hmem)
        simp [hname, eq_comm, hname ▸ hlater]
      · simp [hname, ih hxs]

theorem Sorted.nodup_names {xs : Named α} (h : xs.Sorted) : (xs.map Prod.fst).Nodup := by
  refine List.Pairwise.imp ?_ (List.pairwise_map.2 h)
  rintro x _ hlt rfl
  exact String.lt_irrefl _ hlt

theorem Sorted.nodup {xs : Named α} (h : xs.Sorted) : xs.Nodup :=
  List.Nodup.of_map Prod.fst h.nodup_names

/-- There is one order for the same pairs. -/
theorem Sorted.eq_of_perm {xs ys : Named α} (hxs : xs.Sorted) (hys : ys.Sorted)
    (h : xs.Perm ys) : xs = ys := by
  refine h.eq_of_pairwise ?_ hxs hys
  intro x y _ _ hlt hgt
  exact absurd hgt (String.lt_asymm hlt)

/-- Pairs in order are determined by what is found under each name. -/
theorem Sorted.ext_find? {xs ys : Named α} (hxs : xs.Sorted) (hys : ys.Sorted)
    (h : ∀ name, find? name xs = find? name ys) : xs = ys := by
  refine hxs.eq_of_perm hys ?_
  rw [List.perm_ext_iff_of_nodup hxs.nodup hys.nodup]
  rintro ⟨name, value⟩
  rw [← hxs.find?_eq_some_iff, h, hys.find?_eq_some_iff]

/-- Pairs in order are put in as they stand. -/
theorem ofList_of_sorted {xs : Named α} (h : xs.Sorted) : ofList xs = xs := by
  suffices hfold : ∀ (ys acc : Named α), Sorted (acc ++ ys) →
      ys.foldl (fun sorted x => insert x.1 x.2 sorted) acc = acc ++ ys from hfold xs [] h
  intro ys
  induction ys with
  | nil => exact fun acc _ => (List.append_nil acc).symm
  | cons y ys ih =>
      intro acc hacc
      have hlt : ∀ x ∈ acc, x.1 < y.1 :=
        fun x hx => (List.pairwise_append.1 hacc).2.2 x hx y List.mem_cons_self
      rw [List.foldl_cons, insert_of_lt hlt, ih _ (by simpa using hacc)]
      simp

/-! ### Pairs put in order -/

/-- No pair is made up, whatever names come twice. -/
theorem mem_of_mem_ofList {xs : List (String × α)} {x : String × α} (h : x ∈ ofList xs) :
    x ∈ xs := by
  suffices hfold : ∀ (ys : List (String × α)) (acc : Named α),
      x ∈ ys.foldl (fun sorted y => insert y.1 y.2 sorted) acc → x ∈ acc ∨ x ∈ ys from
    (hfold xs [] h).resolve_left List.not_mem_nil
  intro ys
  induction ys with
  | nil => exact fun acc hmem => .inl hmem
  | cons y ys ih =>
      intro acc hmem
      rcases ih _ hmem with hacc | hys
      · rcases mem_insert hacc with rfl | hacc
        · exact .inr List.mem_cons_self
        · exact .inl hacc
      · exact .inr (List.mem_cons_of_mem y hys)

theorem perm_insert {name : String} {value : α} {xs : Named α} (h : ∀ x ∈ xs, name ≠ x.1) :
    (insert name value xs).Perm ((name, value) :: xs) := by
  induction xs with
  | nil => exact .refl _
  | cons x xs ih =>
      obtain ⟨n, v⟩ := x
      obtain ⟨hname, hxs⟩ := List.forall_mem_cons.1 h
      unfold insert
      split
      · exact .refl _
      · exact ((ih hxs).cons (n, v)).trans (.swap ..)

/-- Pairs with distinct names are all kept when they are put in order. -/
theorem perm_ofList {xs : List (String × α)} (h : (xs.map Prod.fst).Nodup) :
    (ofList xs).Perm xs := by
  suffices hfold : ∀ (xs : List (String × α)) (acc : Named α),
      (xs.map Prod.fst ++ acc.map Prod.fst).Nodup →
      (xs.foldl (fun sorted x => insert x.1 x.2 sorted) acc).Perm (xs ++ acc) by
    simpa [ofList] using hfold xs [] (by simpa using h)
  intro xs
  induction xs with
  | nil => exact fun acc _ => .refl acc
  | cons x xs ih =>
      intro acc hnodup
      obtain ⟨hfresh, hrest⟩ := List.nodup_cons.1 hnodup
      have hacc : ∀ y ∈ acc, x.1 ≠ y.1 := by
        intro y hy heq
        exact hfresh (List.mem_append_right _ (heq ▸ List.mem_map_of_mem hy))
      have hinsert : (insert x.1 x.2 acc).Perm ((x.1, x.2) :: acc) := perm_insert hacc
      have hnames : (xs.map Prod.fst ++ (insert x.1 x.2 acc).map Prod.fst).Nodup := by
        have hmiddle : (xs.map Prod.fst ++ (insert x.1 x.2 acc).map Prod.fst).Perm
            (x.1 :: (xs.map Prod.fst ++ acc.map Prod.fst)) :=
          ((hinsert.map Prod.fst).append_left _).trans List.perm_middle
        exact hmiddle.nodup_iff.2 hnodup
      refine (ih _ hnames).trans ?_
      exact (hinsert.append_left _).trans List.perm_middle

/-- Under the same distinct names, the order does not matter. -/
theorem eq_of_perm {xs ys : List (String × α)} (hnames : xs.map Prod.fst = ys.map Prod.fst)
    (hnodup : (xs.map Prod.fst).Nodup) (h : xs.Perm ys) : xs = ys := by
  induction xs generalizing ys with
  | nil => exact (List.nil_perm.1 h).symm
  | cons x xs ih =>
      cases ys with
      | nil => exact absurd hnames nofun
      | cons y ys =>
          simp only [List.map_cons, List.cons.injEq] at hnames hnodup
          obtain ⟨hname, hnames⟩ := hnames
          obtain ⟨hfresh, hnodup⟩ := List.nodup_cons.1 hnodup
          obtain rfl : x = y := by
            rcases List.mem_cons.1 (h.subset List.mem_cons_self) with heq | hlater
            · exact heq
            · exact absurd (hnames ▸ List.mem_map_of_mem hlater) hfresh
          rw [ih hnames hnodup ((List.perm_cons x).1 h)]

theorem ofList_inj {xs ys : List (String × α)} (hnames : xs.map Prod.fst = ys.map Prod.fst)
    (hnodup : (xs.map Prod.fst).Nodup) (h : ofList xs = ofList ys) : xs = ys := by
  refine eq_of_perm hnames hnodup ?_
  exact (perm_ofList hnodup).symm.trans (h ▸ perm_ofList (hnames ▸ hnodup))

/-- Pairs with distinct names may be put in in any order. -/
theorem ofList_eq_of_perm {xs ys : List (String × α)} (h : xs.Perm ys)
    (hnodup : (xs.map Prod.fst).Nodup) : ofList xs = ofList ys := by
  have hnodup' : (ys.map Prod.fst).Nodup := (h.map Prod.fst).nodup_iff.1 hnodup
  refine (sorted_ofList xs).eq_of_perm (sorted_ofList ys) ?_
  exact (perm_ofList hnodup).trans (h.trans (perm_ofList hnodup').symm)

end Named

end DataTier
