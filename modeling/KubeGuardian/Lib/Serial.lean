import KubeGuardian.Lib.Run
import Mathlib.Data.List.Basic
import Mathlib.Data.List.Flatten

/-!
# Interleaved actions in blocks

Actions of several parties in one run. Two actions that commute, up to a relation on the states,
may change places, so a run in which actions that do not commute already stand in the order of
their parties comes to the same as one party's actions after another's.

* **`run_partition`** — actions that commute with all that stands before them can go first.
* **`run_blocks`** — the run, party by party.
-/

namespace KubeGuardian.Lib

variable {σ α κ : Type*} (act : σ → α → σ) (R : σ → σ → Prop)

/-- The two orders of two actions come to the same, wherever they are taken. -/
def Commutes (a b : α) : Prop := ∀ s, R (act (act s a) b) (act (act s b) a)

/-- A notion of sameness that the actions respect. -/
structure Respected : Prop where
  equiv : Equivalence R
  act : ∀ a s t, R s t → R (act s a) (act t a)

variable {act R}

theorem Respected.run (h : Respected act R) {s t : σ} (hst : R s t) (l : List α) :
    R (run act s l) (run act t l) := by
  induction l generalizing s t with
  | nil => exact hst
  | cons a l ih => exact ih (h.act a s t hst)

/-- An action that commutes with all actions before it can go first. -/
theorem Respected.move_front (h : Respected act R) {l : List α} {a : α}
    (hcomm : ∀ b ∈ l, Commutes act R b a) (s : σ) :
    R (Lib.run act s (l ++ [a])) (Lib.run act s (a :: l)) := by
  induction l generalizing s with
  | nil => exact h.equiv.refl _
  | cons b l ih =>
    have hrest := ih (fun c hc => hcomm c (by simp [hc])) (act s b)
    have hswap := h.run (hcomm b (by simp) s) l
    exact h.equiv.trans hrest hswap

/-- **Actions that commute with those before them can all go first.** Induction on the run from its
last action. -/
theorem run_partition (h : Respected act R) {p : α → Bool} {l : List α}
    (hcomm : l.Pairwise fun a b => p a = false → p b = true → Commutes act R a b) (s : σ) :
    R (run act s l) (run act s (l.filter p ++ l.filter fun a => !p a)) := by
  induction l using List.reverseRecOn with
  | nil => exact h.equiv.refl _
  | append_singleton l a ih =>
    rw [List.pairwise_append] at hcomm
    obtain ⟨hl, -, hlast⟩ := hcomm
    have hbefore := h.act a _ _ (ih hl)
    rw [← run_snoc act, ← run_snoc act] at hbefore
    cases hp : p a with
    | false =>
      rw [List.filter_append, List.filter_append]
      simpa [hp] using hbefore
    | true =>
      -- it passes by all that stays behind
      have hpass : ∀ b ∈ l.filter fun a => !p a, Commutes act R b a := by
        intro b hb
        obtain ⟨hmem, hpb⟩ := List.mem_filter.mp hb
        exact hlast b hmem a (by simp) (by simpa using hpb) hp
      have hmove := h.move_front hpass (run act s (l.filter p))
      rw [← run_append, ← run_append, ← List.append_assoc] at hmove
      rw [List.filter_append, List.filter_append]
      simpa [hp] using h.equiv.trans hbefore hmove

/-- **A run, block by block.** Where actions of different blocks that do not commute stand in the
order of the blocks, the blocks can be taken one after another. Induction on the blocks. -/
theorem run_blocks [DecidableEq κ] (h : Respected act R) {k : α → κ} {order : List κ}
    (hnodup : order.Nodup) {l : List α} (hall : ∀ a ∈ l, k a ∈ order)
    (hcomm : l.Pairwise fun a b =>
      order.idxOf (k b) < order.idxOf (k a) → Commutes act R a b) (s : σ) :
    R (run act s l) (run act s (order.flatMap fun c => l.filter (k · = c))) := by
  induction order generalizing l s with
  | nil =>
    cases l with
    | nil => exact h.equiv.refl _
    | cons a l => simpa using hall a (by simp)
  | cons c order ih =>
    obtain ⟨hc, hnodup⟩ := List.nodup_cons.mp hnodup
    have hfirst : l.Pairwise fun a b => decide (k a = c) = false → decide (k b = c) = true →
        Commutes act R a b := by
      refine hcomm.imp fun {a b} hab ha hb => hab ?_
      have hne : c ≠ k a := fun heq => by simp [heq] at ha
      rw [of_decide_eq_true hb, List.idxOf_cons_self, List.idxOf_cons_ne _ hne]
      omega
    have hsplit := run_partition h hfirst s
    -- what is left has none of the block `c`
    have hrest : ∀ a ∈ l.filter fun a => !decide (k a = c), k a ∈ order := by
      intro a ha
      obtain ⟨hmem, hne⟩ := List.mem_filter.mp ha
      rcases List.mem_cons.mp (hall a hmem) with heq | hin
      · simp [heq] at hne
      · exact hin
    have hrestComm : (l.filter fun a => !decide (k a = c)).Pairwise fun a b =>
        order.idxOf (k b) < order.idxOf (k a) → Commutes act R a b := by
      refine (hcomm.filter _).imp_of_mem fun {a b} ha hb hab hlt => hab ?_
      have hneA : c ≠ k a := fun heq => by simp [heq] at ha
      have hneB : c ≠ k b := fun heq => by simp [heq] at hb
      rw [List.idxOf_cons_ne _ hneA, List.idxOf_cons_ne _ hneB]
      omega
    have hblocks := ih hnodup hrest hrestComm (run act s (l.filter (k · = c)))
    rw [← run_append, ← run_append] at hblocks
    have hsame : ∀ d ∈ order, (l.filter fun a => !decide (k a = c)).filter (k · = d)
        = l.filter (k · = d) := by
      intro d hd
      rw [List.filter_filter]
      refine List.filter_congr fun a _ => ?_
      by_cases ha : k a = d
      · have hne : d ≠ c := fun heq => hc (heq ▸ hd)
        simp [ha, hne]
      · simp [ha]
    rw [List.flatMap_cons]
    refine h.equiv.trans hsplit ?_
    rwa [List.flatMap_congr hsame] at hblocks

end KubeGuardian.Lib
