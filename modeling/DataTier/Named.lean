/-
Values under names, in the order of the names.

Main definitions:

* `DataTier.Named` — pairs of a name and a value;
* `DataTier.Named.insert` — a value put under a name, in place of the one it had;
* `DataTier.Named.Sorted` — strictly increasing names, kept by `Named.insert`.
-/

set_option relaxedAutoImplicit false
set_option autoImplicit false

namespace DataTier

/-- Pairs of a name and a value. -/
abbrev Named (α : Type) := List (String × α)

namespace Named

variable {α : Type}

/-- Strictly increasing names, by the code points of their characters. -/
def Sorted (xs : Named α) : Prop := xs.Pairwise fun x y => x.1 < y.1

@[simp] theorem sorted_nil : Sorted ([] : Named α) := List.Pairwise.nil

/-- A value put under a name at its place in the order; the value that the name had is gone. -/
def insert (name : String) (value : α) : Named α → Named α
  | [] => [(name, value)]
  | (n, v) :: rest =>
    if name < n then (name, value) :: (n, v) :: rest
    else if name = n then (name, value) :: rest
    else (n, v) :: insert name value rest

/-- The value under a name. -/
def find? (name : String) (xs : Named α) : Option α := List.lookup name xs

/-- Pairs put in one after the other: of several values under one name the last stays. -/
def ofList (xs : List (String × α)) : Named α :=
  xs.foldl (fun sorted x => insert x.1 x.2 sorted) []

theorem mem_insert {name : String} {value : α} {xs : Named α} {x : String × α}
    (h : x ∈ insert name value xs) : x = (name, value) ∨ x ∈ xs := by
  induction xs with
  | nil => simp [insert] at h; exact .inl h
  | cons y rest ih =>
    obtain ⟨n, v⟩ := y
    unfold insert at h
    split at h
    · simpa using h
    · split at h
      · rcases List.mem_cons.1 h with h | h
        · exact .inl h
        · exact .inr (List.mem_cons_of_mem _ h)
      · rcases List.mem_cons.1 h with h | h
        · exact .inr (h ▸ List.mem_cons_self)
        · exact (ih h).imp id (List.mem_cons_of_mem _)

/-- Names stay in order. -/
theorem Sorted.insert {name : String} {value : α} {xs : Named α} (h : Sorted xs) :
    Sorted (insert name value xs) := by
  induction xs with
  | nil => simp [Named.insert, Sorted]
  | cons y rest ih =>
    obtain ⟨n, v⟩ := y
    have hr := List.pairwise_cons.1 h
    unfold Named.insert
    split
    · rename_i hlt
      refine List.pairwise_cons.2 ⟨fun z hz => ?_, h⟩
      rcases List.mem_cons.1 hz with rfl | hz
      · exact hlt
      · exact String.lt_trans hlt (hr.1 z hz)
    · split
      · rename_i heq
        subst heq
        exact List.pairwise_cons.2 ⟨fun z hz => hr.1 z hz, hr.2⟩
      · rename_i hnlt hne
        refine List.pairwise_cons.2 ⟨fun z hz => ?_, ih hr.2⟩
        rcases mem_insert hz with rfl | hz
        · rcases String.le_total n name with hle | hle
          · rcases Decidable.em (n < name) with h' | h'
            · exact h'
            · exact absurd (String.le_antisymm (String.not_lt.1 h') hle) hne
          · exact absurd (String.le_antisymm hle (String.not_lt.1 hnlt)) hne
        · exact hr.1 z hz

theorem sorted_ofList (xs : List (String × α)) : Sorted (ofList xs) := by
  suffices h : ∀ (ys : List (String × α)) (acc : Named α), Sorted acc →
      Sorted (ys.foldl (fun sorted x => insert x.1 x.2 sorted) acc) from h xs [] sorted_nil
  intro ys
  induction ys with
  | nil => exact fun _ h => h
  | cons y rest ih => exact fun acc h => ih _ h.insert

end Named

end DataTier
