import KubeGuardian.Lib.Reordering
import Mathlib.Data.List.Nodup

/-!
# Hash sets

A hash set as the list of its elements, in the order in which they came in. Two sets are the same
when they have the same elements, and an iterator hands them out in an order of its own.
-/

namespace KubeGuardian.Lib

/-- A set whose order is not known to its users, as a list without repetitions. -/
structure HashSet (α : Type*) where
  elems : List α
  nodup : elems.Nodup

namespace HashSet

variable {α : Type*}

instance : Membership α (HashSet α) := ⟨fun s a => a ∈ s.elems⟩

instance : EmptyCollection (HashSet α) := ⟨⟨[], List.nodup_nil⟩⟩

instance [DecidableEq α] (s : HashSet α) (a : α) : Decidable (a ∈ s) :=
  inferInstanceAs (Decidable (a ∈ s.elems))

/-- Membership is that in the list of elements. -/
@[simp] theorem mem_elems {s : HashSet α} {a : α} : a ∈ s.elems ↔ a ∈ s := .rfl

@[simp] theorem elems_empty : (∅ : HashSet α).elems = [] := rfl

@[simp] theorem notMem_empty (a : α) : a ∉ (∅ : HashSet α) := List.not_mem_nil

section Insert

variable [DecidableEq α]

def insert (s : HashSet α) (a : α) : HashSet α :=
  if h : a ∈ s then s
  else ⟨s.elems ++ [a], List.nodup_append.mpr
    ⟨s.nodup, by simp, fun _ hb c hc hbc => h (by simp_all)⟩⟩

/-- Inserting adds the element and no other. -/
@[simp] theorem mem_insert {s : HashSet α} {a b : α} : b ∈ s.insert a ↔ b ∈ s ∨ b = a := by
  unfold insert
  split
  · next h => exact ⟨.inl, fun hb => hb.elim id fun hba => hba ▸ h⟩
  · exact List.mem_append.trans (or_congr .rfl List.mem_singleton)

/-- What is there is not added again. -/
theorem insert_of_mem {s : HashSet α} {a : α} (h : a ∈ s) : s.insert a = s := dif_pos h

end Insert

/-! ## Equality

`HashSet`'s `==`: the same elements, in whatever order they are kept.
-/

def Same (s t : HashSet α) : Prop := s.elems.Perm t.elems

instance [DecidableEq α] (s t : HashSet α) : Decidable (s.Same t) :=
  inferInstanceAs (Decidable (s.elems.Perm t.elems))

theorem same_iff {s t : HashSet α} : s.Same t ↔ ∀ a, a ∈ s ↔ a ∈ t :=
  List.perm_ext_iff_of_nodup s.nodup t.nodup

theorem Same.refl (s : HashSet α) : s.Same s := List.Perm.refl _

theorem Same.symm {s t : HashSet α} (h : s.Same t) : t.Same s := List.Perm.symm h

theorem Same.trans {s t u : HashSet α} (h : s.Same t) (h' : t.Same u) : s.Same u :=
  List.Perm.trans h h'

/-! ## Iteration

A set is iterated over in some order, which is a parameter.
-/

def iter (o : Reordering α) (s : HashSet α) : List α := o.apply s.elems

/-- Every element is met once. -/
theorem perm_iter (o : Reordering α) (s : HashSet α) : (s.iter o).Perm s.elems := o.perm _

end HashSet

end KubeGuardian.Lib
