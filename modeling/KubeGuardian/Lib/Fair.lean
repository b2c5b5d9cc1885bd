import KubeGuardian.Lib.Run

/-!
# Tasks that take turns

Several tasks work on one state, and a schedule says whose turn it is. In a round every task comes
up, at least once and in any order.

* **`Drains.finishes`** — where the turn of a task that is able to do something lowers a measure,
  and any other turn neither raises it nor takes from a task what it could do, the tasks are done
  after as many rounds as the measure says, if one of them is able as long as they are not done.
-/

namespace KubeGuardian.Lib

section Fair

variable {σ ι κ : Type*}

/-- What turns do to a measure, in the states that `J` describes. The turns meet `G`; `of` tells
whose they are, and `Able` who has something to do. -/
structure Drains (step : σ → ι → σ) (of : κ → ι → Prop) (Able : κ → σ → Prop) (G : σ → ι → Prop)
    (J Done : σ → Prop) (measure : σ → ℕ) : Prop where
  turn : ∀ s i, G s i → ∃ k, of k i
  keeps : ∀ s i, J s → G s i → J (step s i)
  stays : ∀ s i, J s → G s i → Done s → Done (step s i)
  lowers : ∀ s i k, J s → G s i → of k i → Able k s → measure (step s i) < measure s
  idles : ∀ s i k, J s → G s i → of k i → ¬ Able k s →
    measure (step s i) ≤ measure s ∧ ∀ k', Able k' s → Able k' (step s i)
  able : ∀ s, J s → ¬ Done s → ∃ k, Able k s

variable {step : σ → ι → σ} {of : κ → ι → Prop} {Able : κ → σ → Prop} {G : σ → ι → Prop}
  {J Done : σ → Prop} {measure : σ → ℕ}

theorem Drains.step_le (h : Drains step of Able G J Done measure) {s : σ} {i : ι} (hs : J s)
    (hG : G s i) : measure (step s i) ≤ measure s := by
  obtain ⟨k, hk⟩ := h.turn s i hG
  by_cases hable : Able k s
  · exact Nat.le_of_lt (h.lowers s i k hs hG hk hable)
  · exact (h.idles s i k hs hG hk hable).1

theorem Drains.run_le (h : Drains step of Able G J Done measure) {s : σ} {is : List ι} (hs : J s)
    (hG : Meets step G s is) : J (run step s is) ∧ measure (run step s is) ≤ measure s := by
  induction is generalizing s with
  | nil => exact ⟨hs, Nat.le_refl _⟩
  | cons i is ih =>
    obtain ⟨hJ, hle⟩ := ih (h.keeps s i hs hG.1) hG.2
    exact ⟨hJ, Nat.le_trans hle (h.step_le hs hG.1)⟩

theorem Drains.run_stays (h : Drains step of Able G J Done measure) {s : σ} {is : List ι}
    (hs : J s) (hG : Meets step G s is) (hdone : Done s) : Done (run step s is) := by
  induction is generalizing s with
  | nil => exact hdone
  | cons i is ih => exact ih (h.keeps s i hs hG.1) hG.2 (h.stays s i hs hG.1 hdone)

/-- A task that is able stays so until it comes up, unless another lowers the measure before. -/
theorem Drains.round_lt (h : Drains step of Able G J Done measure) {k : κ} {s : σ} {round : List ι}
    (hs : J s) (hk : Able k s) (hround : ∃ i ∈ round, of k i) (hG : Meets step G s round) :
    measure (run step s round) < measure s := by
  induction round generalizing s with
  | nil =>
    obtain ⟨i, hi, -⟩ := hround
    cases hi
  | cons i round ih =>
    have hnext : J (step s i) := h.keeps s i hs hG.1
    have hrest : measure (run step (step s i) round) ≤ measure (step s i) :=
      (h.run_le hnext hG.2).2
    obtain ⟨k', hk'⟩ := h.turn s i hG.1
    by_cases hable : Able k' s
    · exact Nat.lt_of_le_of_lt hrest (h.lowers s i k' hs hG.1 hk' hable)
    · obtain ⟨hle, hkept⟩ := h.idles s i k' hs hG.1 hk' hable
      obtain ⟨j, hj, hof⟩ := hround
      rcases List.mem_cons.mp hj with rfl | hj
      · exact Nat.lt_of_le_of_lt hrest (h.lowers s j k hs hG.1 hof hk)
      · exact Nat.lt_of_lt_of_le (ih hnext (hkept k hk) ⟨j, hj, hof⟩ hG.2) hle

/-- **After enough rounds the tasks are done.** -/
theorem Drains.finishes (h : Drains step of Able G J Done measure) {s : σ}
    {rounds : List (List ι)} (hs : J s) (hfair : ∀ round ∈ rounds, ∀ k, ∃ i ∈ round, of k i)
    (hG : Meets step G s rounds.flatten) (hmany : measure s < rounds.length) :
    Done (run step s rounds.flatten) := by
  induction rounds generalizing s with
  | nil => simp at hmany
  | cons round rounds ih =>
    rw [List.flatten_cons] at hG ⊢
    by_cases hdone : Done s
    · exact h.run_stays hs hG hdone
    · obtain ⟨k, hk⟩ := h.able s hs hdone
      obtain ⟨hround, hrest⟩ := meets_append.mp hG
      have hlt : measure (run step s round) < measure s :=
        h.round_lt hs hk (hfair round (by simp) k) hround
      rw [List.length_cons] at hmany
      rw [run_append]
      exact ih (h.run_le hs hround).1 (fun r hr => hfair r (by simp [hr])) hrest (by omega)

end Fair

end KubeGuardian.Lib
