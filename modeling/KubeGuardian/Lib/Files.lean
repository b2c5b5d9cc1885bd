import KubeGuardian.Lib.Run
import Mathlib.Logic.Function.Basic

/-!
# Files

A file system as far as whole files are written: what each path holds. A write may fail and leave
anything at its path; no other path is touched either way (`writeFile_other`). After a run of
steps that may each leave something at a path of their own, a path holds what the last of its steps
left (`run_leave`).
-/

namespace KubeGuardian.Lib

/-- What the paths hold; `none` is no file, or none that can be made sense of. -/
abbrev Files (β : Type*) := String → Option β

/-- How a write ends, and what a failed one leaves at its path. -/
inductive WriteOutcome (β : Type*) where
  | written
  | failed (err : String) (left : Option β)

namespace Files

variable {β : Type*}

/-- A write that fails may leave anything at its own path, and nothing elsewhere. -/
def writeFile (files : Files β) (path : String) (content : β) :
    WriteOutcome β → Files β × Except String Unit
  | .written => (Function.update files path (some content), .ok ())
  | .failed err left => (Function.update files path left, .error err)

theorem writeFile_other (files : Files β) {path path' : String} (content : β)
    (outcome : WriteOutcome β) (h : path' ≠ path) :
    (files.writeFile path content outcome).1 path' = files path' := by
  cases outcome <;> simp [writeFile, h]

@[simp] theorem writeFile_written (files : Files β) (path : String) (content : β) :
    (files.writeFile path content .written).1 path = some content := by
  simp [writeFile]

/-! ## One path under many steps -/

variable {ι : Type*} (path : ι → String) (left : ι → Option (Option β))

/-- A step leaves something at its path, or every path as it was. -/
def leave (files : Files β) (i : ι) : Files β :=
  match left i with
  | none => files
  | some content => Function.update files (path i) content

/-- What the last of the steps to leave something at `p` left there. -/
def lastLeft (p : String) (is : List ι) : Option (Option β) :=
  is.reverse.findSome? fun i => if path i = p then left i else none

/-- Only which steps share the path matters. -/
theorem lastLeft_congr {path' : ι → String} {p p' : String} {is : List ι}
    (h : ∀ i ∈ is, path i = p ↔ path' i = p') :
    lastLeft path left p is = lastLeft path' left p' is := by
  unfold lastLeft
  induction is with
  | nil => rfl
  | cons i is ih =>
    have hi : (if path i = p then left i else none) = if path' i = p' then left i else none := by
      simp only [h i (by simp)]
    rw [List.reverse_cons, List.findSome?_append, List.findSome?_append,
      ih fun j hj => h j (by simp [hj]), List.findSome?_singleton, List.findSome?_singleton, hi]

theorem lastLeft_eq_none {p : String} {is : List ι} (h : ∀ i ∈ is, path i ≠ p) :
    lastLeft path left p is = none := by
  rw [lastLeft, List.findSome?_eq_none_iff]
  intro i hi
  rw [if_neg (h i (List.mem_reverse.mp hi))]

theorem leave_eq (files : Files β) (i : ι) (p : String) :
    leave path left files i p = ((if path i = p then left i else none).getD (files p)) := by
  unfold leave
  cases left i with
  | none => simp
  | some content =>
    by_cases hp : path i = p
    · simp [← hp]
    · simp [hp, Ne.symm hp]

/-- **A path holds what the last of its steps left**, or what it held before. -/
theorem run_leave (files : Files β) (is : List ι) (p : String) :
    run (leave path left) files is p = (lastLeft path left p is).getD (files p) := by
  induction is using List.reverseRecOn with
  | nil => rfl
  | append_singleton is i ih =>
    rw [run_snoc, leave_eq, ih, lastLeft, lastLeft, List.reverse_append, List.reverse_singleton,
      List.singleton_append, List.findSome?_cons]
    cases (if path i = p then left i else none) <;> rfl

end Files

end KubeGuardian.Lib
