import Mathlib.Algebra.Group.Basic
import KubeGuardian.Lib.Run

/-!
# What goes in and what comes out

A component holds things that its steps put in and take out. What the steps of a run do to them adds
up in any commutative monoid: in multisets where the things are counted, in products of these where
there are several kinds.

* **`held_add_total`** — if the books are right after every step, they are after every run.
-/

namespace KubeGuardian.Lib

section Account

variable {σ ι M : Type*} [AddCommMonoid M] {step : σ → ι → σ}

/-- What the steps of a run make of `f`, all together. -/
def total (step : σ → ι → σ) (f : σ → ι → M) : σ → List ι → M
  | _, [] => 0
  | s, i :: is => f s i + total step f (step s i) is

theorem total_append (f : σ → ι → M) (s : σ) (is js : List ι) :
    total step f s (is ++ js) = total step f s is + total step f (run step s is) js := by
  induction is generalizing s with
  | nil => exact (zero_add _).symm
  | cons i is ih =>
    show f s i + total step f (step s i) (is ++ js)
      = f s i + total step f (step s i) is + total step f (run step (step s i) is) js
    rw [ih, add_assoc]

theorem total_add (f g : σ → ι → M) (s : σ) (is : List ι) :
    total step (fun s i => f s i + g s i) s is = total step f s is + total step g s is := by
  induction is generalizing s with
  | nil => exact (add_zero 0).symm
  | cons i is ih =>
    show f s i + g s i + total step (fun s i => f s i + g s i) (step s i) is = _
    rw [ih]
    exact add_add_add_comm ..

theorem total_eq_zero {G : σ → ι → Prop} {f : σ → ι → M} (hf : ∀ s i, G s i → f s i = 0) {s : σ}
    {is : List ι} (hG : Meets step G s is) : total step f s is = 0 := by
  induction is generalizing s with
  | nil => rfl
  | cons i is ih =>
    show f s i + total step f (step s i) is = 0
    rw [hf s i hG.1, ih hG.2, add_zero]

/-- **The books of a run.** -/
theorem held_add_total {held : σ → M} {enters leaves : σ → ι → M}
    (hstep : ∀ s i, held s + enters s i = leaves s i + held (step s i)) (s : σ) (is : List ι) :
    held s + total step enters s is = total step leaves s is + held (run step s is) := by
  induction is generalizing s with
  | nil => exact add_comm ..
  | cons i is ih =>
    calc held s + (enters s i + total step enters (step s i) is)
        = leaves s i + (held (step s i) + total step enters (step s i) is) := by
          rw [← add_assoc, hstep, add_assoc]
      _ = leaves s i + total step leaves (step s i) is + held (run step (step s i) is) := by
          rw [ih, add_assoc]

end Account

end KubeGuardian.Lib
