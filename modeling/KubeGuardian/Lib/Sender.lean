import KubeGuardian.Lib.Run
import Mathlib.Data.Finset.Basic

/-!
# Sending what was not sent before

A sender remembers the keys it takes to be delivered and sends no such key again. Whether an
outcome makes it remember the key is one question and whether the other side accepted is another;
`sound_submit_iff` says how far they may differ.
-/

namespace KubeGuardian.Lib

/-- Who remembers what it has sent, beside all it has tried. -/
structure Sender (κ ο : Type*) where
  remembered : Finset κ
  attempts : List (κ × ο)

namespace Sender

variable {κ ο : Type*}

def Accepted (accepted : ο → Prop) (attempts : List (κ × ο)) (key : κ) : Prop :=
  ∃ outcome, (key, outcome) ∈ attempts ∧ accepted outcome

def Sound (accepted : ο → Prop) (s : Sender κ ο) : Prop :=
  ∀ key ∈ s.remembered, Accepted accepted s.attempts key

theorem accepted_snoc_iff {accepted : ο → Prop} {attempts : List (κ × ο)} {key key' : κ}
    {outcome : ο} :
    Accepted accepted (attempts ++ [(key, outcome)]) key'
      ↔ Accepted accepted attempts key' ∨ key' = key ∧ accepted outcome := by
  simp only [Accepted, List.mem_append, List.mem_singleton, Prod.mk.injEq, or_and_right,
    exists_or, and_assoc, exists_and_left, exists_eq_left]

variable [DecidableEq κ]

/-- Send the key, unless it is remembered; remember it where the outcome says so. -/
def submit (remember : ο → Bool) (s : Sender κ ο) (key : κ) (outcome : ο) : Sender κ ο :=
  if key ∈ s.remembered then s
  else
    { remembered := if remember outcome then insert key s.remembered else s.remembered
      attempts := s.attempts ++ [(key, outcome)] }

def forget (s : Sender κ ο) (key : κ) : Sender κ ο :=
  { s with remembered := s.remembered.erase key }

variable {accepted : ο → Prop} {remember : ο → Bool} {s : Sender κ ο} {key : κ} {outcome : ο}

/-- **One submission keeps the memory sound** exactly when the outcome by which a new key is
remembered is one of acceptance, or the key was accepted before. -/
theorem sound_submit_iff (hs : s.Sound accepted) :
    (s.submit remember key outcome).Sound accepted
      ↔ (key ∉ s.remembered → remember outcome →
          accepted outcome ∨ Accepted accepted s.attempts key) := by
  unfold submit
  split_ifs with hmem hremember
  · exact iff_of_true hs fun h => absurd hmem h
  · constructor
    · intro h _ _
      rcases accepted_snoc_iff.mp (h key (Finset.mem_insert_self ..)) with hold | ⟨_, hnew⟩
      · exact .inr hold
      · exact .inl hnew
    · intro h key' hkey'
      rcases Finset.mem_insert.mp hkey' with rfl | hold
      · rcases h hmem hremember with hnew | hold
        · exact accepted_snoc_iff.mpr (.inr ⟨rfl, hnew⟩)
        · exact accepted_snoc_iff.mpr (.inl hold)
      · exact accepted_snoc_iff.mpr (.inl (hs key' hold))
  · -- nothing new is remembered
    refine iff_of_true (fun key' hkey' => ?_) fun _ h => absurd h hremember
    exact accepted_snoc_iff.mpr (.inl (hs key' hkey'))

theorem sound_forget (hs : s.Sound accepted) : (s.forget key).Sound accepted :=
  fun key' hkey' => hs key' (Finset.mem_of_mem_erase hkey')

end Sender

end KubeGuardian.Lib
