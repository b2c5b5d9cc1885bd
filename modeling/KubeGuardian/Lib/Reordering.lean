import Mathlib.Data.List.Perm.Basic
import Mathlib.Data.Multiset.Filter

/-!
# Orders picked by the environment

A database that is given no sort key and a hash map that is ranged over both hand out their
entries in an order of their own. A `Reordering` is one such choice: a function on lists that
only permutes. Whatever is proved for every `Reordering` holds whichever order is picked.
-/

namespace KubeGuardian.Lib

/-- A choice of order: `apply l` lists the entries of `l` in some order. -/
structure Reordering (α : Type*) where
  apply : List α → List α
  perm : ∀ l, (apply l).Perm l

namespace Reordering

variable {α : Type*}

def stored : Reordering α := ⟨id, fun _ => .refl _⟩

@[simp] theorem apply_stored (l : List α) : (stored : Reordering α).apply l = l := rfl

@[simp] theorem mem_apply (o : Reordering α) {l : List α} {a : α} : a ∈ o.apply l ↔ a ∈ l :=
  (o.perm l).mem_iff

@[simp] theorem apply_nil (o : Reordering α) : o.apply [] = [] :=
  (o.perm []).eq_nil

@[simp] theorem apply_eq_nil_iff (o : Reordering α) {l : List α} : o.apply l = [] ↔ l = [] :=
  ⟨fun h => ((o.perm l).symm.trans (h ▸ .refl _)).eq_nil, fun h => by rw [h, apply_nil]⟩

def first (o : Reordering α) (l : List α) : Option α := (o.apply l).head?

theorem mem_of_first {o : Reordering α} {l : List α} {a : α} (h : o.first l = some a) :
    a ∈ l := by
  rw [← o.mem_apply]
  exact List.mem_of_head? h

@[simp] theorem first_eq_none_iff (o : Reordering α) {l : List α} : o.first l = none ↔ l = [] := by
  simp [first]

section FirstPick

variable [DecidableEq α]

/-- The order that hands out `a` before everything else, where it occurs. -/
def favouring (a : α) : Reordering α where
  apply l := if a ∈ l then a :: l.erase a else l
  perm l := by
    split
    · next h => exact (List.perm_cons_erase h).symm
    · exact .refl _

theorem first_favouring {l : List α} {a : α} (h : a ∈ l) : (favouring a).first l = some a := by
  simp [first, favouring, h]

/-- **What does not depend on the order**: a list that comes out the same whichever order is picked
is one and the same entry over and over. -/
theorem map_apply_eq_iff {β : Type*} (f : α → β) (l : List α) :
    (∀ o o' : Reordering α, (o.apply l).map f = (o'.apply l).map f)
      ↔ ∀ a ∈ l, ∀ b ∈ l, f a = f b := by
  constructor
  · intro h a ha b hb
    have heads := congrArg List.head? (h (favouring a) (favouring b))
    simpa [favouring, ha, hb] using heads
  · intro h o o'
    have hconst : ∀ o : Reordering α, ∀ a ∈ l,
        (o.apply l).map f = List.replicate l.length (f a) := by
      intro o a ha
      rw [List.eq_replicate_iff, List.length_map, (o.perm l).length_eq]
      refine ⟨rfl, fun x hx => ?_⟩
      obtain ⟨b, hb, rfl⟩ := List.mem_map.mp hx
      exact h b ((mem_apply o).mp hb) a ha
    cases l with
    | nil => simp
    | cons a l => rw [hconst o a (by simp), hconst o' a (by simp)]

end FirstPick

end Reordering

/-! ## Collections -/

/-- Two maps that agree outside of `p` agree as collections when they do so on `p`. -/
theorem map_eq_map_iff_filter {α β : Type*} {f g : α → β} (s : Multiset α) (p : α → Prop)
    [DecidablePred p] (h : ∀ a ∈ s, ¬ p a → f a = g a) :
    s.map f = s.map g ↔ (s.filter p).map f = (s.filter p).map g := by
  have hrest : (s.filter fun a => ¬ p a).map f = (s.filter fun a => ¬ p a).map g := by
    refine Multiset.map_congr rfl fun a ha => ?_
    obtain ⟨hmem, hnot⟩ := Multiset.mem_filter.mp ha
    exact h a hmem hnot
  conv_lhs => rw [← Multiset.filter_add_not p s, Multiset.map_add, Multiset.map_add, hrest]
  exact Multiset.add_left_inj

end KubeGuardian.Lib
