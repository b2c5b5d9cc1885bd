import Mathlib.Data.List.Induction

/-!
# Runs of a step function

A component that takes one input after another is a step function `σ → ι → σ`, and a run is
its left fold over a list of inputs. The two rules of this module replace the inductions that
every statement about runs would otherwise repeat:

* **`run_history_induction`** — a relation between the inputs so far and the state reached,
  proved once at the start and once per step;
* **`always_iff_meets`** — an invariant holds in every state of a run exactly when every step
  of the run meets a guard, provided the guard is what one step needs.
-/

namespace KubeGuardian.Lib

variable {σ ι : Type*} (step : σ → ι → σ)

/-- The state reached from `s` by the inputs `is`, first to last. -/
def run (s : σ) (is : List ι) : σ := is.foldl step s

@[simp] theorem run_nil (s : σ) : run step s [] = s := rfl

@[simp] theorem run_cons (s : σ) (i : ι) (is : List ι) :
    run step s (i :: is) = run step (step s i) is := rfl

/-- A run may be cut anywhere. -/
theorem run_append (s : σ) (is js : List ι) :
    run step s (is ++ js) = run step (run step s is) js := by
  unfold run
  exact List.foldl_append

@[simp] theorem run_snoc (s : σ) (is : List ι) (i : ι) :
    run step s (is ++ [i]) = step (run step s is) i := by
  rw [run_append]; rfl

/-- A relation between the inputs so far and the state reached holds along every run once it
holds before the first input and survives each step. -/
theorem run_history_induction {P : List ι → σ → Prop} {s : σ} (hnil : P [] s)
    (hstep : ∀ is t i, P is t → P (is ++ [i]) (step t i)) (is : List ι) :
    P is (run step s is) := by
  induction is using List.reverseRecOn with
  | nil => exact hnil
  | append_singleton is i ih =>
    rw [run_snoc]
    exact hstep is _ i ih

/-- The case in which the inputs so far do not matter. -/
theorem run_invariant {P : σ → Prop} {s : σ} (hs : P s)
    (hstep : ∀ t i, P t → P (step t i)) (is : List ι) : P (run step s is) :=
  run_history_induction step (P := fun _ t => P t) hs (fun _ t i h => hstep t i h) is

/-! ## Guarded runs

Two ways of saying that something holds all along a run: of its states, and of its steps with the
states they are taken from.
-/

/-- `P` holds in every state a run passes through, first and last included. -/
def Always (P : σ → Prop) : σ → List ι → Prop
  | s, [] => P s
  | s, i :: is => P s ∧ Always P (step s i) is

/-- Every step of a run meets the guard `G` in the state it is taken from. -/
def Meets (G : σ → ι → Prop) : σ → List ι → Prop
  | _, [] => True
  | s, i :: is => G s i ∧ Meets G (step s i) is

instance decidableMeets {G : σ → ι → Prop} [∀ s i, Decidable (G s i)] :
    ∀ s is, Decidable (Meets step G s is)
  | _, [] => inferInstanceAs (Decidable True)
  | s, i :: is =>
    have := decidableMeets (G := G) (step s i) is
    inferInstanceAs (Decidable (G s i ∧ Meets step G (step s i) is))

variable {step} {P : σ → Prop} {G : σ → ι → Prop}

theorem Always.head {s : σ} {is : List ι} (h : Always step P s is) : P s := by
  cases is with
  | nil => exact h
  | cons i is => exact h.1

theorem Always.last {s : σ} {is : List ι} (h : Always step P s is) : P (run step s is) := by
  induction is generalizing s with
  | nil => exact h
  | cons i is ih => exact ih h.2

/-- What follows from a property holds all along a run as it does. -/
theorem Always.imp {Q : σ → Prop} (hPQ : ∀ s, P s → Q s) {s : σ} {is : List ι}
    (h : Always step P s is) : Always step Q s is := by
  induction is generalizing s with
  | nil => exact hPQ s h
  | cons i is ih => exact ⟨hPQ s h.1, ih h.2⟩

/-- What every step keeps holds all along. -/
theorem always_of_step {s : σ} (hs : P s) (hstep : ∀ t i, P t → P (step t i)) (is : List ι) :
    Always step P s is := by
  induction is generalizing s with
  | nil => exact hs
  | cons i is ih => exact ⟨hs, ih (hstep s i hs)⟩

/-- What no step can bring back held all along if it holds at the end. -/
theorem always_of_last (hback : ∀ s i, P (step s i) → P s) {s : σ} {is : List ι}
    (h : P (run step s is)) : Always step P s is := by
  induction is generalizing s with
  | nil => exact h
  | cons i is ih =>
    have hrest := ih h
    exact ⟨hback s i hrest.head, hrest⟩

/-- A guard that suffices for one step to keep `P` keeps `P` along the whole run. -/
theorem always_of_meets (hstep : ∀ s i, P s → G s i → P (step s i)) {s : σ} {is : List ι}
    (hs : P s) (h : Meets step G s is) : Always step P s is := by
  induction is generalizing s with
  | nil => exact hs
  | cons i is ih => exact ⟨hs, ih (hstep s i hs h.1) h.2⟩

/-- Where every step that arrives in `P` has met the guard, a run that stays in `P` meets it
throughout. The invariant `J` and what `A` allows as inputs are the caller's. -/
theorem meets_of_always {J : σ → Prop} {A : ι → Prop}
    (hstep : ∀ s i, A i → J s → P (step s i) → G s i ∧ J (step s i)) {s : σ} {is : List ι}
    (hs : J s) (his : ∀ i ∈ is, A i) (h : Always step P s is) : Meets step G s is := by
  induction is generalizing s with
  | nil => trivial
  | cons i is ih =>
    obtain ⟨hguard, hnext⟩ := hstep s i (his i (by simp)) hs h.2.head
    exact ⟨hguard, ih hnext (fun j hj => his j (by simp [hj])) h.2⟩

/-- When the guard is exactly what one step needs, `P` holds all along a run if and only if
every step meets the guard. -/
theorem always_iff_meets (hstep : ∀ s i, P s → (P (step s i) ↔ G s i)) {s : σ} {is : List ι}
    (hs : P s) : Always step P s is ↔ Meets step G s is := by
  constructor
  · exact meets_of_always (J := P) (A := fun _ => True)
      (fun s i _ hs hnext => ⟨(hstep s i hs).mp hnext, hnext⟩) hs fun _ _ => trivial
  · exact always_of_meets (fun s i hs hg => (hstep s i hs).mpr hg) hs

/-- The same with an invariant that every step keeps. -/
theorem always_iff_meets_of_invariant {J : σ → Prop}
    (hstep : ∀ s i, P s → J s → (P (step s i) ↔ G s i) ∧ J (step s i)) {s : σ} {is : List ι}
    (hs : P s) (hJ : J s) : Always step P s is ↔ Meets step G s is := by
  constructor
  · refine meets_of_always (J := fun t => P t ∧ J t) (A := fun _ => True) (fun t i _ ht hnext => ?_)
      ⟨hs, hJ⟩ fun _ _ => trivial
    obtain ⟨hiff, hkept⟩ := hstep t i ht.1 ht.2
    exact ⟨hiff.mp hnext, hnext, hkept⟩
  · intro h
    have hboth : Always step (fun t => P t ∧ J t) s is :=
      always_of_meets (fun t i ht hguard => by
        obtain ⟨hiff, hkept⟩ := hstep t i ht.1 ht.2
        exact ⟨hiff.mpr hguard, hkept⟩) ⟨hs, hJ⟩ h
    exact hboth.imp fun _ ht => ht.1

theorem Meets.and {G' : σ → ι → Prop} {s : σ} {is : List ι} (h : Meets step G s is)
    (h' : Meets step G' s is) : Meets step (fun s i => G s i ∧ G' s i) s is := by
  induction is generalizing s with
  | nil => trivial
  | cons i is ih => exact ⟨⟨h.1, h'.1⟩, ih h.2 h'.2⟩

/-- A guard that the inputs meet in any state. -/
theorem meets_of_forall {is : List ι} (h : ∀ i ∈ is, ∀ t, G t i) (s : σ) : Meets step G s is := by
  induction is generalizing s with
  | nil => trivial
  | cons i is ih => exact ⟨h i (by simp) s, ih (fun j hj => h j (by simp [hj])) (step s i)⟩

/-- With an invariant, one guard can give another. -/
theorem Meets.of_invariant {J : σ → Prop} {G' : σ → ι → Prop}
    (hstep : ∀ s i, J s → G s i → G' s i ∧ J (step s i)) {s : σ} {is : List ι} (hs : J s)
    (h : Meets step G s is) : Meets step G' s is := by
  induction is generalizing s with
  | nil => trivial
  | cons i is ih =>
    obtain ⟨hguard, hnext⟩ := hstep s i hs h.1
    exact ⟨hguard, ih hnext h.2⟩

/-- Every input of a guarded run met the guard in some state. -/
theorem Meets.exists_of_mem {s : σ} {is : List ι} (h : Meets step G s is) {i : ι} (hi : i ∈ is) :
    ∃ t, G t i := by
  induction is generalizing s with
  | nil => cases hi
  | cons j is ih =>
    rcases List.mem_cons.mp hi with rfl | hi
    · exact ⟨s, h.1⟩
    · exact ih h.2 hi

/-! ## Runs in parts

A run may be cut in two, or be the image of another one.
-/

variable {ι' : Type*}

/-- A run over translated inputs is one of the step that translates them. -/
theorem run_map (f : ι' → ι) (s : σ) (is : List ι') :
    run step s (is.map f) = run (fun s i => step s (f i)) s is := by
  unfold run
  rw [List.foldl_map]

/-- A part of the state that some inputs alone change is what these make of it. -/
theorem run_part {τ κ : Type*} {part : σ → τ} {f : ι → Option κ} {partStep : τ → κ → τ}
    (hstep : ∀ s i, part (step s i) = (f i).elim (part s) (partStep (part s))) (s : σ)
    (is : List ι) : part (run step s is) = run partStep (part s) (is.filterMap f) := by
  induction is generalizing s with
  | nil => rfl
  | cons i is ih =>
    rw [run_cons, ih, hstep]
    cases h : f i with
    | none => rw [List.filterMap_cons_none h, Option.elim_none]
    | some k => rw [List.filterMap_cons_some h, Option.elim_some, run_cons]

theorem meets_map {f : ι' → ι} {s : σ} {is : List ι'} :
    Meets step G s (is.map f) ↔ Meets (fun s i => step s (f i)) (fun s i => G s (f i)) s is := by
  induction is generalizing s with
  | nil => rfl
  | cons i is ih => exact and_congr_right fun _ => ih

/-- A guard is met along a run when it is met along both parts. -/
theorem meets_append {s : σ} {is js : List ι} :
    Meets step G s (is ++ js) ↔ Meets step G s is ∧ Meets step G (run step s is) js := by
  induction is generalizing s with
  | nil => exact ⟨fun h => ⟨trivial, h⟩, fun h => h.2⟩
  | cons i is ih => exact (and_congr_right fun _ => ih).trans and_assoc.symm

/-- The guard, input by input with what came before it. -/
theorem meets_of_splits {s : σ} {is : List ι}
    (h : ∀ before i after, is = before ++ i :: after → G (run step s before) i) :
    Meets step G s is := by
  induction is generalizing s with
  | nil => trivial
  | cons i is ih =>
    refine ⟨h [] i is rfl, ih fun before j after his => ?_⟩
    exact h (i :: before) j after (by rw [his, List.cons_append])

/-! ## One run that follows another

A simulation in which one step is matched by a run of any length. What both have in common is a
trace, which the steps of the second machine need not have one by one.
-/

section Follow

variable {σ' L : Type*} {step' : σ' → ι' → σ'} {trace : ι → List L} {trace' : ι' → List L}

/-- Where every step is matched by a run of the other machine with the same trace, every run is, as
far as its states meet a condition that no step brings back. -/
theorem exists_run_of_follows_of_last {R : σ → σ' → Prop} {s : σ} {s' : σ'} (hR : R s s')
    (hback : ∀ t i, P (step t i) → P t)
    (hstep : ∀ t t' i, P (step t i) → R t t' →
      ∃ is', is'.flatMap trace' = trace i ∧ R (step t i) (run step' t' is'))
    {is : List ι} (hlast : P (run step s is)) :
    ∃ is', is'.flatMap trace' = is.flatMap trace ∧ R (run step s is) (run step' s' is') := by
  induction is using List.reverseRecOn with
  | nil => exact ⟨[], rfl, hR⟩
  | append_singleton is i ih =>
    rw [run_snoc] at hlast
    obtain ⟨before, hbefore, hrelated⟩ := ih (hback _ i hlast)
    obtain ⟨after, hafter, hnext⟩ := hstep _ _ i hlast hrelated
    refine ⟨before ++ after, ?_, ?_⟩
    · rw [List.flatMap_append, List.flatMap_append, hbefore, hafter, List.flatMap_singleton]
    · rw [run_snoc, run_append]
      exact hnext

/-- So it is throughout with an invariant `J` of the first machine. -/
theorem exists_run_of_follows {R : σ → σ' → Prop} {J : σ → Prop} {s : σ} {s' : σ'} (hs : J s)
    (hR : R s s') (hJ : ∀ t i, J t → J (step t i))
    (hstep : ∀ t t' i, J t → R t t' →
      ∃ is', is'.flatMap trace' = trace i ∧ R (step t i) (run step' t' is')) (is : List ι) :
    ∃ is', is'.flatMap trace' = is.flatMap trace ∧ R (run step s is) (run step' s' is') := by
  have hfollows : ∃ is', is'.flatMap trace' = is.flatMap trace
      ∧ J (run step s is) ∧ R (run step s is) (run step' s' is') := by
    refine exists_run_of_follows_of_last (P := fun _ => True) (R := fun t t' => J t ∧ R t t')
      ⟨hs, hR⟩ (fun _ _ _ => trivial) (fun t t' i _ ht => ?_) trivial
    obtain ⟨is', htrace, hnext⟩ := hstep t t' i ht.1 ht.2
    exact ⟨is', htrace, hJ t i ht.1, hnext⟩
  obtain ⟨is', htrace, -, hrelated⟩ := hfollows
  exact ⟨is', htrace, hrelated⟩

end Follow

/-! ## What happens in a run

A third way: some step of the run is one of a kind. This is how a statement about a state goes back
to what has happened before.
-/

/-- Some step of a run is one that `E` is about. -/
def Occurs (step : σ → ι → σ) (E : σ → ι → Prop) : σ → List ι → Prop
  | _, [] => False
  | s, i :: is => E s i ∨ Occurs step E (step s i) is

variable {E : σ → ι → Prop}

/-- What happens in a run happens in one of its parts. -/
theorem occurs_append {s : σ} {is js : List ι} :
    Occurs step E s (is ++ js) ↔ Occurs step E s is ∨ Occurs step E (run step s is) js := by
  induction is generalizing s with
  | nil => exact ⟨.inr, fun h => h.elim False.elim id⟩
  | cons i is ih => exact (or_congr_right ih).trans or_assoc.symm

/-- It happens before, or it is the last step. -/
theorem occurs_snoc {s : σ} {is : List ι} {i : ι} :
    Occurs step E s (is ++ [i]) ↔ Occurs step E s is ∨ E (run step s is) i := by
  rw [occurs_append]
  exact or_congr_right (or_iff_left id)

/-- What has happened has happened whatever comes after. -/
theorem Occurs.append {s : σ} {is : List ι} (h : Occurs step E s is) (js : List ι) :
    Occurs step E s (is ++ js) :=
  occurs_append.mpr (.inl h)

/-- A step of a kind is also one of a wider kind. -/
theorem Occurs.imp {E' : σ → ι → Prop} (hE : ∀ s i, E s i → E' s i) {s : σ} {is : List ι}
    (h : Occurs step E s is) : Occurs step E' s is := by
  induction is generalizing s with
  | nil => exact h
  | cons i is ih => exact Or.imp (hE s i) ih h

/-- What happens is done by an input of the run. -/
theorem Occurs.exists_mem {s : σ} {is : List ι} (h : Occurs step E s is) :
    ∃ i ∈ is, ∃ t, E t i := by
  induction is generalizing s with
  | nil => exact h.elim
  | cons i is ih =>
    rcases h with h | h
    · exact ⟨i, .head _, s, h⟩
    · obtain ⟨j, hj, t, ht⟩ := ih h
      exact ⟨j, .tail _ hj, t, ht⟩

/-- What happens in a run happens in one of the states that it passes through. -/
theorem Occurs.of_always {s : σ} {is : List ι} (h : Occurs step E s is)
    (hP : Always step P s is) : ∃ t i, P t ∧ E t i := by
  induction is generalizing s with
  | nil => exact h.elim
  | cons i is ih =>
    rcases h with h | h
    · exact ⟨s, i, hP.1, h⟩
    · exact ih h hP.2

/-- `run_history_induction` where the state that is reached matters for what it is related to. -/
theorem run_induction {P : List ι → σ → Prop} {s : σ} (hnil : P [] s)
    (hstep : ∀ is i, P is (run step s is) → P (is ++ [i]) (step (run step s is) i))
    (is : List ι) : P is (run step s is) := by
  induction is using List.reverseRecOn with
  | nil => exact hnil
  | append_singleton is i ih =>
    rw [run_snoc]
    exact hstep is i ih

end KubeGuardian.Lib
