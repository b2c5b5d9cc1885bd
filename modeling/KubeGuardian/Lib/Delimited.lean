import Mathlib.Data.List.Basic

/-!
# Delimited text

Names joined with a delimiter character and taken apart at it again.

* **`mem_fields_intercalate`** — a name without the delimiter comes back, whatever the names
  beside it contain.
* **`fields_intercalate`** — names that all do without it come back as they were.
-/

namespace KubeGuardian.Lib

theorem mem_splitOn_intercalate {α : Type*} [BEq α] [LawfulBEq α] {d : α} {w : List α}
    (hd : d ∉ w) {ws : List (List α)} (hw : w ∈ ws) : w ∈ ([d].intercalate ws).splitOn d := by
  have hself : w.splitOn d = [w] := List.splitOn_eq_singleton hd
  induction ws with
  | nil => simp at hw
  | cons v vs ih =>
    cases vs with
    | nil =>
      obtain rfl := List.mem_singleton.mp hw
      simp [hself]
    | cons u us =>
      -- the text up to the first delimiter that was put in, and the rest
      rw [List.intercalate_cons_cons, List.append_assoc, List.singleton_append,
        List.splitOn_append_cons_self, List.mem_append]
      rcases List.mem_cons.mp hw with rfl | hw
      · exact .inl (by simp [hself])
      · exact .inr (ih hw)

/-- The text `s`, split at every `d`. -/
def fields (d : Char) (s : String) : List String := (s.toList.splitOn d).map String.ofList

/-- **A name without the delimiter survives a join and a split.** -/
theorem mem_fields_intercalate {d : Char} {sep x : String} {xs : List String}
    (hsep : sep.toList = [d]) (hd : d ∉ x.toList) (hx : x ∈ xs) :
    x ∈ fields d (sep.intercalate xs) := by
  unfold fields
  rw [String.toList_intercalate, hsep]
  exact List.mem_map.mpr ⟨x.toList, mem_splitOn_intercalate hd (List.mem_map_of_mem hx),
    String.ofList_toList⟩

theorem fields_intercalate {d : Char} {sep : String} {xs : List String}
    (hsep : sep.toList = [d]) (hd : ∀ x ∈ xs, d ∉ x.toList) (hne : xs ≠ []) :
    fields d (sep.intercalate xs) = xs := by
  unfold fields
  rw [String.toList_intercalate, hsep, List.splitOn_intercalate d (by simpa using hd) (by simpa)]
  simp

/-- A join undoes a split. -/
theorem intercalate_fields {d : Char} {sep : String} (hsep : sep.toList = [d]) (s : String) :
    sep.intercalate (fields d s) = s := by
  apply String.toList_inj.mp
  rw [String.toList_intercalate, hsep, fields, List.map_map]
  have hback : String.toList ∘ String.ofList = id := funext fun _ => String.toList_ofList
  rw [hback, List.map_id, List.intercalate_splitOn]

/-- Only of nothing, or of one empty name, is nothing joined. -/
theorem intercalate_eq_empty_iff {d : Char} {sep : String} (hsep : sep.toList = [d])
    (xs : List String) : sep.intercalate xs = "" ↔ xs = [] ∨ xs = [""] := by
  rw [← String.toList_inj, String.toList_intercalate, hsep]
  cases xs with
  | nil => simp
  | cons x xs =>
    cases xs with
    | nil => simp
    | cons y ys => simp [List.intercalate_cons_cons]

/-- A numeral holds digits only, so it does without any other delimiter. -/
theorem notMem_toString {d : Char} (hd : d.isDigit = false) (n : Nat) :
    d ∉ (toString n).toList := by
  intro h
  have hlist : (toString n).toList = Nat.toDigits 10 n := Nat.toList_repr
  rw [hlist] at h
  have hdigit := Nat.isDigit_of_mem_toDigits (by decide) (by decide) h
  simp [hd] at hdigit

end KubeGuardian.Lib
