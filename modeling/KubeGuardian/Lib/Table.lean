import KubeGuardian.Lib.Run

/-!
# Tables with a primary key

The parts of a relational store that the development needs: SQL's equality on nullable
columns, and `INSERT … ON CONFLICT (key) DO UPDATE` as an operation on a list of rows.

* **`mem_upserts_iff`** — a table written by upserts alone holds, for every key ever reported,
  one row, the merge of the reports of that key in their order.
* **`lastSome_snoc`** — what the latest report that carries a column says about it;
* **`filter_upserts_eq_getLast_iff`** — whether the row of a key is its last report.
-/

namespace KubeGuardian.Lib

variable {α κ β : Type*}

/-- SQL's `a = b` in a filter: a `NULL` on either side is no match. -/
def sqlEq [DecidableEq α] : Option α → Option α → Bool
  | some a, some b => a = b
  | _, _ => false

@[simp] theorem sqlEq_some [DecidableEq α] (a b : α) : sqlEq (some a) (some b) = decide (a = b) :=
  rfl

@[simp] theorem sqlEq_none_left [DecidableEq α] (b : Option α) : sqlEq none b = false := rfl

@[simp] theorem sqlEq_none_right [DecidableEq α] (a : Option α) : sqlEq a none = false := by
  cases a <;> rfl

/-- Where one side is no NULL, SQL's equality is equality. -/
theorem sqlEq_iff_of_isSome [DecidableEq α] {a b : Option α} (ha : a.isSome) :
    sqlEq a b ↔ a = b := by
  obtain ⟨x, rfl⟩ := Option.isSome_iff_exists.mp ha
  cases b <;> simp

/-! ## Upserts

`INSERT .. ON CONFLICT DO UPDATE`: a row whose key is there is merged into it, a new one is added.
What the table has of a key after many of them is what merging the reports of that key yields.
-/

section Upsert

variable [DecidableEq κ] (key : α → κ) (merge : α → α → α)

/-- The row of the key is merged with the new one; without such a row the new one is added. -/
def upsert (t : List α) (x : α) : List α :=
  if t.any (key · = key x) then t.map (fun r => if key r = key x then merge r x else r)
  else t ++ [x]

def upserts (l : List α) : List α := run (upsert key merge) [] l

/-- One more report. -/
theorem upserts_snoc (l : List α) (x : α) :
    upserts key merge (l ++ [x]) = upsert key merge (upserts key merge l) x := by
  unfold upserts
  rw [run_snoc]

theorem upserts_append (l l' : List α) :
    upserts key merge (l ++ l') = run (upsert key merge) (upserts key merge l) l' := by
  unfold upserts
  rw [run_append]

def mergeAll : List α → Option α
  | [] => none
  | x :: xs => some (xs.foldl merge x)

def reportsOf (k : κ) (l : List α) : List α := l.filter (key · = k)

omit [DecidableEq κ] in
/-- The reports merged so far, and one more. -/
theorem mergeAll_snoc (l : List α) (x : α) :
    mergeAll merge (l ++ [x]) = some (((mergeAll merge l).map (merge · x)).getD x) := by
  cases l with
  | nil => rfl
  | cons y ys => simp [mergeAll, List.foldl_append]

omit [DecidableEq κ] in
/-- Nothing comes of no reports only. -/
theorem mergeAll_eq_none_iff (l : List α) : mergeAll merge l = none ↔ l = [] := by
  cases l <;> simp [mergeAll]

/-- One more report is one of its own key. -/
theorem reportsOf_snoc (k : κ) (l : List α) (x : α) :
    reportsOf key k (l ++ [x])
      = if key x = k then reportsOf key k l ++ [x] else reportsOf key k l := by
  unfold reportsOf
  rw [List.filter_append]
  by_cases h : key x = k <;> simp [h]

variable {key merge}

/-- What one upsert does to the rows: those of other keys stay, and the key's own row is the
old one merged with the report, or the report itself. -/
theorem mem_upsert {t : List α} {x r : α} :
    r ∈ upsert key merge t x
      ↔ (r ∈ t ∧ key r ≠ key x)
        ∨ (∃ old ∈ t, key old = key x ∧ r = merge old x)
        ∨ ((∀ old ∈ t, key old ≠ key x) ∧ r = x) := by
  unfold upsert
  split
  · -- the conflict branch: every row is mapped, and those of the key are merged
    next h =>
    obtain ⟨o, ho, hox⟩ : ∃ o ∈ t, key o = key x := by simpa using h
    have hlast : ¬ ((∀ old ∈ t, key old ≠ key x) ∧ r = x) := fun hn => hn.1 o ho hox
    rw [List.mem_map]
    constructor
    · rintro ⟨a, ha, rfl⟩
      by_cases hax : key a = key x
      · exact .inr (.inl ⟨a, ha, hax, by rw [if_pos hax]⟩)
      · exact .inl ⟨by rw [if_neg hax]; exact ha, by rw [if_neg hax]; exact hax⟩
    · rintro (⟨hr, hrx⟩ | ⟨a, ha, hax, rfl⟩ | hn)
      · exact ⟨r, hr, if_neg hrx⟩
      · exact ⟨a, ha, if_pos hax⟩
      · exact absurd hn hlast
  · next h =>
    have hnone : ∀ old ∈ t, key old ≠ key x := by simpa using h
    rw [List.mem_append, List.mem_singleton]
    constructor
    · rintro (hr | rfl)
      · exact .inl ⟨hr, hnone r hr⟩
      · exact .inr (.inr ⟨hnone, rfl⟩)
    · rintro (⟨hr, _⟩ | ⟨a, ha, hax, _⟩ | ⟨_, rfl⟩)
      · exact .inl hr
      · exact absurd hax (hnone a ha)
      · exact .inr rfl

omit [DecidableEq κ] in
/-- Merging reports of a key keeps the key. -/
theorem key_mergeAll (hmerge : ∀ a b, key (merge a b) = key a) {k : κ} {l : List α} {r : α}
    (hl : ∀ x ∈ l, key x = k) (hr : mergeAll merge l = some r) : key r = k := by
  induction l using List.reverseRecOn generalizing r with
  | nil => simp [mergeAll] at hr
  | append_singleton l x ih =>
    rw [mergeAll_snoc] at hr
    cases hm : mergeAll merge l with
    | none =>
      obtain rfl : x = r := by simpa [hm] using hr
      exact hl x (by simp)
    | some old =>
      obtain rfl : merge old x = r := by simpa [hm] using hr
      rw [hmerge]
      exact ih (fun y hy => hl y (List.mem_append_left _ hy)) hm

/-- **One row per reported key, the merge of its reports.** Induction on the reports from the
last one: the case split of one upsert is whether the report has the row's key. -/
theorem mem_upserts_iff (hmerge : ∀ a b, key (merge a b) = key a) (l : List α) (r : α) :
    r ∈ upserts key merge l ↔ mergeAll merge (reportsOf key (key r) l) = some r := by
  induction l using List.reverseRecOn generalizing r with
  | nil => simp [upserts, reportsOf, mergeAll]
  | append_singleton l x ih =>
    have hrow : ∀ k old, mergeAll merge (reportsOf key k l) = some old →
        key old = k := by
      intro k old
      exact key_mergeAll hmerge (fun y hy => by simpa using (List.mem_filter.mp hy).2)
    rw [upserts_snoc, mem_upsert, reportsOf_snoc]
    by_cases hxr : key x = key r
    · rw [if_pos hxr, mergeAll_snoc]
      cases hm : mergeAll merge (reportsOf key (key r) l) with
      | none =>
        -- the first report of the key: no row can have it
        have hnone : ∀ old ∈ upserts key merge l, key old ≠ key x := by
          intro old hold hox
          rw [ih, hox, hxr, hm] at hold
          exact absurd hold (by simp)
        simp only [Option.map_none, Option.getD_none, Option.some.injEq]
        constructor
        · rintro (⟨_, h⟩ | ⟨old, hold, h, _⟩ | ⟨_, rfl⟩)
          · exact absurd hxr.symm h
          · exact absurd h (hnone old hold)
          · rfl
        · rintro rfl
          exact .inr (.inr ⟨hnone, rfl⟩)
      | some old =>
        -- by `ih` the merge of the reports so far is the key's one row
        have hok : key old = key r := hrow _ _ hm
        have hold : old ∈ upserts key merge l := by rw [ih, hok]; exact hm
        simp only [Option.map_some, Option.getD_some, Option.some.injEq]
        constructor
        · rintro (⟨_, h⟩ | ⟨o, ho, hox, rfl⟩ | ⟨h, _⟩)
          · exact absurd hxr.symm h
          · rw [ih, hox, hxr, hm, Option.some.injEq] at ho
            rw [ho]
          · exact absurd (hok.trans hxr.symm) (h old hold)
        · rintro rfl
          exact .inr (.inl ⟨old, hold, hok.trans hxr.symm, rfl⟩)
    · -- a report of another key
      rw [if_neg hxr, ← ih]
      constructor
      · rintro (⟨hr, _⟩ | ⟨old, _, hox, rfl⟩ | ⟨_, rfl⟩)
        · exact hr
        · exact absurd (hox.symm.trans (hmerge old x).symm) hxr
        · exact absurd rfl hxr
      · exact fun hr => .inl ⟨hr, fun h => hxr h.symm⟩

/-- **What an upsert does to the rows of a key**: nothing if the report is of another key, else it
merges into them, or is the first. -/
theorem filter_upsert (hmerge : ∀ a b, key (merge a b) = key a) (k : κ) (t : List α) (x : α) :
    (upsert key merge t x).filter (key · = k)
      = if key x = k then
          if t.filter (key · = k) = [] then [x] else (t.filter (key · = k)).map (merge · x)
        else t.filter (key · = k) := by
  unfold upsert
  by_cases hany : t.any (key · = key x) = true
  · -- the rows keep their keys
    have hkey : ((fun r => decide (key r = k)) ∘ fun r => if key r = key x then merge r x else r)
        = fun r => decide (key r = k) := by
      funext r
      simp only [Function.comp_apply]
      split <;> simp [hmerge]
    rw [if_pos hany, List.filter_map, hkey]
    by_cases hxk : key x = k
    · subst hxk
      have hne : t.filter (key · = key x) ≠ [] := by
        obtain ⟨r, hr, hrx⟩ := List.any_eq_true.mp hany
        exact List.ne_nil_of_mem (List.mem_filter.mpr ⟨hr, hrx⟩)
      rw [if_pos rfl, if_neg hne]
      refine List.map_congr_left fun r hr => if_pos ?_
      simpa using (List.mem_filter.mp hr).2
    · rw [if_neg hxk]
      refine (List.map_congr_left fun r hr => if_neg ?_).trans (List.map_id' _)
      have hrk : key r = k := by simpa using (List.mem_filter.mp hr).2
      exact fun hrx => hxk (hrx.symm.trans hrk)
  · rw [if_neg hany, List.filter_append]
    by_cases hxk : key x = k
    · subst hxk
      have hnil : t.filter (key · = key x) = [] := by
        simpa [List.filter_eq_nil_iff] using hany
      simp [hnil]
    · simp [hxk]

/-- **The rows of a key** depend on its reports alone: one row, if there are any. -/
theorem filter_upserts (hmerge : ∀ a b, key (merge a b) = key a) (k : κ) (l : List α) :
    (upserts key merge l).filter (key · = k) = (mergeAll merge (reportsOf key k l)).toList := by
  induction l using List.reverseRecOn with
  | nil => rfl
  | append_singleton l x ih =>
    rw [upserts_snoc, filter_upsert hmerge, reportsOf_snoc, ih]
    by_cases hxk : key x = k
    · rw [if_pos hxk, if_pos hxk, mergeAll_snoc]
      cases mergeAll merge (reportsOf key k l) <;> simp
    · rw [if_neg hxk, if_neg hxk]

/-- A key that was reported has a row. -/
theorem exists_mem_upserts (hmerge : ∀ a b, key (merge a b) = key a) {l : List α} {x : α}
    (hx : x ∈ l) : ∃ r ∈ upserts key merge l, key r = key x := by
  have hmem : x ∈ reportsOf key (key x) l := List.mem_filter.mpr ⟨hx, by simp⟩
  cases hm : mergeAll merge (reportsOf key (key x) l) with
  | none =>
    rw [(mergeAll_eq_none_iff merge _).mp hm] at hmem
    simp at hmem
  | some r =>
    have hkey : key r = key x :=
      key_mergeAll hmerge (fun y hy => by simpa using (List.mem_filter.mp hy).2) hm
    exact ⟨r, (mem_upserts_iff hmerge l r).mpr (hkey ▸ hm), hkey⟩

end Upsert

/-! ## The last report of a column

A merge that keeps the old value where the new one is missing: a column has what was last said of
it, which need not be what the last report says.
-/

/-- What the last entry that says anything about `f` says. -/
def lastSome (f : α → Option β) (l : List α) : Option β := (l.filterMap f).getLast?

@[simp] theorem lastSome_nil (f : α → Option β) : lastSome f [] = none := rfl

/-- What is said last counts, if it says something. -/
theorem lastSome_snoc (f : α → Option β) (l : List α) (x : α) :
    lastSome f (l ++ [x]) = (f x).or (lastSome f l) := by
  unfold lastSome
  rw [List.filterMap_append]
  cases hx : f x <;> simp [hx]

/-- A column that a merge overwrites where the report carries it, and keeps where it does not,
is the last one reported. -/
theorem column_mergeAll {merge : α → α → α} {f : α → Option β}
    (hf : ∀ a b, f (merge a b) = (f b).or (f a)) {l : List α} {r : α}
    (hr : mergeAll merge l = some r) : f r = lastSome f l := by
  induction l using List.reverseRecOn generalizing r with
  | nil => simp [mergeAll] at hr
  | append_singleton l x ih =>
    rw [mergeAll_snoc] at hr
    rw [lastSome_snoc]
    cases hm : mergeAll merge l with
    | none =>
      obtain rfl : x = r := by simpa [hm] using hr
      obtain rfl := (mergeAll_eq_none_iff merge l).mp hm
      simp
    | some old =>
      obtain rfl : merge old x = r := by simpa [hm] using hr
      rw [hf, ih hm]

/-- The last entry says something about `f`, unless none does. -/
def SaidLast (f : α → Option β) (l : List α) : Prop :=
  ∀ last ∈ l.getLast?, f last = none → ∀ x ∈ l, f x = none

/-- **The column has what the last report says** exactly when it was said last there, or never
before. -/
theorem lastSome_eq_iff {f : α → Option β} {l : List α} {last : α}
    (hlast : l.getLast? = some last) : lastSome f l = f last ↔ SaidLast f l := by
  obtain ⟨init, rfl⟩ := List.getLast?_eq_some_iff.mp hlast
  rw [lastSome_snoc, SaidLast, hlast]
  simp only [Option.mem_def, Option.some.injEq, forall_eq']
  cases hf : f last with
  | some b => simp
  | none => simp [lastSome, or_imp, forall_and, hf]

/-- With no reports there is nothing to have said. -/
theorem saidLast_nil (f : α → Option β) : SaidLast f [] := by
  intro last h
  cases h

/-- A column that every entry carries is the last one's. -/
theorem column_eq_last {merge : α → α → α} {f : α → β} {l : List α} {row last : α}
    (hrow : mergeAll merge l = some row) (hlast : l.getLast? = some last)
    (hf : ∀ a b, f (merge a b) = f b) : f row = f last := by
  have hcolumn : some (f row) = lastSome (fun r => some (f r)) l :=
    column_mergeAll (f := fun r => some (f r)) (fun a b => by rw [hf]; rfl) hrow
  have hlastSome : lastSome (fun r => some (f r)) l = some (f last) :=
    (lastSome_eq_iff (f := fun r => some (f r)) hlast).mpr fun _ _ h => by cases h
  exact Option.some.inj (hcolumn.trans hlastSome)

/-- **Whether a table of upserts holds the last reports**, where `Whole` says of the reports of one
key when their merge is the last of them. -/
theorem filter_upserts_eq_getLast_iff [DecidableEq κ] {key : α → κ} {merge : α → α → α}
    (hmerge : ∀ a b, key (merge a b) = key a) {Whole : List α → Prop} (hnil : Whole []) {k : κ}
    (hwhole : ∀ l row last, (∀ x ∈ l, key x = k) → mergeAll merge l = some row →
      l.getLast? = some last → (row = last ↔ Whole l)) (l : List α) :
    (upserts key merge l).filter (key · = k) = (reportsOf key k l).getLast?.toList
      ↔ Whole (reportsOf key k l) := by
  have hkeys : ∀ x ∈ reportsOf key k l, key x = k :=
    fun x hx => of_decide_eq_true (List.mem_filter.mp hx).2
  rw [filter_upserts hmerge]
  cases hlast : (reportsOf key k l).getLast? with
  | none =>
    rw [List.getLast?_eq_none_iff.mp hlast]
    exact iff_of_true rfl hnil
  | some last =>
    cases hrow : mergeAll merge (reportsOf key k l) with
    | none =>
      rw [(mergeAll_eq_none_iff merge _).mp hrow] at hlast
      cases hlast
    | some row =>
      rw [← hwhole _ row last hkeys hrow hlast]
      simp

end KubeGuardian.Lib
