import KubeGuardian.Lib.Run

/-!
# What has happened before

Whether an input matters can depend on all that came before it. A condition on histories is a
relation between the inputs before and the one that comes next.

* **`since_run`** — a state that one kind of input brings about, and another puts an end to, goes
  back to an input of the first kind after which none of the second has come.
-/

namespace KubeGuardian.Lib

variable {σ ι : Type*}

/-- An input of the kind `E` has come, and none of the kind `R` after it. -/
inductive Since (E R : List ι → ι → Prop) : List ι → Prop
  | now {is : List ι} {i : ι} (h : E is i) : Since E R (is ++ [i])
  | still {is : List ι} {i : ι} (h : Since E R is) (hi : ¬ R is i) : Since E R (is ++ [i])

section Since

variable {E E' R R' : List ι → ι → Prop} {is : List ι}

theorem Since.mono (hE : ∀ is i, E is i → E' is i) (hR : ∀ is i, R' is i → R is i)
    (h : Since E R is) : Since E' R' is := by
  induction h with
  | now h => exact .now (hE _ _ h)
  | still _ hi ih => exact .still ih fun hR' => hi (hR _ _ hR')

/-- The input itself, with what came before it and what came after. -/
theorem Since.exists_split (h : Since E R is) :
    ∃ before i after, is = before ++ i :: after ∧ E before i
      ∧ ∀ between j rest, after = between ++ j :: rest → ¬ R (before ++ i :: between) j := by
  induction h with
  | @now is i h => exact ⟨is, i, [], rfl, h, fun between j rest heq => by simp at heq⟩
  | @still is i _ hi ih =>
    obtain ⟨before, i', after, rfl, hE, hR⟩ := ih
    refine ⟨before, i', after ++ [i], by simp, hE, fun between j rest heq => ?_⟩
    -- the last input is new, and the others have been seen to
    rcases List.eq_nil_or_concat rest with rfl | ⟨rest, j', rfl⟩
    · obtain ⟨rfl, hj⟩ := List.append_inj' heq rfl
      obtain rfl := List.singleton_inj.mp hj
      exact hi
    · have hsnoc : after ++ [i] = (between ++ j :: rest) ++ [j'] := by simpa using heq
      exact hR between j rest (List.append_inj' hsnoc rfl).1

variable {step : σ → ι → σ} {P : σ → Prop} {s : σ}

theorem since_run (hs : ¬ P s)
    (hstep : ∀ is i, P (step (run step s is) i) → E is i ∨ P (run step s is) ∧ ¬ R is i)
    (h : P (run step s is)) : Since E R is := by
  induction is using List.reverseRecOn with
  | nil => exact absurd h hs
  | append_singleton is i ih =>
    rw [run_snoc] at h
    rcases hstep is i h with hE | ⟨hP, hR⟩
    · exact .now hE
    · exact .still (ih hP) hR

end Since

end KubeGuardian.Lib
