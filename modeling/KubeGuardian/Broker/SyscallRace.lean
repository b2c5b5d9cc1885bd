import KubeGuardian.Broker.SyscallRows
import KubeGuardian.Lib.Serial

/-!
# Syscall batches at the same time

`create_pod_syscalls` looks each entry up and writes it in statements of their own, with nothing
around them or around the batch.

* **`exists_serial_batches`** — where every insert still finds what its lookup found, and batches
  that write under the same pod names do so in one order, the table and the replies are those of the
  batches one after another in that order.
-/

namespace KubeGuardian.Broker

open Lib

/-! ## Statements

A batch is a list of entries, and for each of them a lookup and then an insert or an update.
Statements of different batches come in any order.
-/

/-- A request to `create_pod_syscalls`, by its next statement. -/
inductive BatchPhase where
  | getRow (w : PodInputSyscalls) (rest : List PodInputSyscalls)
  | write (w : PodInputSyscalls) (rest : List PodInputSyscalls)
      (existingRow : Option PodSyscalls)
  | replied (reply : Reply)
  deriving DecidableEq

/-- The head of the loop. -/
def nextEntry : List PodInputSyscalls → BatchPhase
  | [] => .replied .ok
  | w :: rest => .getRow w rest

/-- One statement: the table after it, and the next statement. -/
def batchStatement (o : Reordering PodSyscalls) (t : List PodSyscalls) :
    BatchPhase → List PodSyscalls × BatchPhase
  | .getRow w rest => (t, .write w rest (w.getRow o t))
  | .write w rest (some row) =>
    (t.map fun r =>
      if r.podName = row.podName then { r with syscalls := ",".intercalate w.syscalls } else r,
      nextEntry rest)
  | .write w rest none =>
    if t.any (·.podName = w.podName) then (t, .replied .internalServerError)
    else (t ++ [w.row], nextEntry rest)
  | .replied reply => (t, .replied reply)

/-- The table, and the requests that are being served. The log is no state of the broker but a
record of the entries that came to their write. -/
structure BatchServing (κ : Type) where
  table : List PodSyscalls
  phase : κ → BatchPhase
  log : List (κ × PodInputSyscalls)

variable {κ : Type}

def BatchServing.start (req : κ → List PodInputSyscalls) (t : List PodSyscalls) :
    BatchServing κ := ⟨t, fun i => nextEntry (req i), []⟩

/-- What a step of request `i` enters into the log: the entry it writes, if it is at its write. -/
def BatchServing.written (s : BatchServing κ) (i : κ) : List (κ × PodInputSyscalls) :=
  match s.phase i with
  | .write w _ _ => [(i, w)]
  | _ => []

/-- The next statement of one of the requests. -/
def BatchServing.step [DecidableEq κ] (s : BatchServing κ) (a : κ × Reordering PodSyscalls) :
    BatchServing κ :=
  let (table, phase) := batchStatement a.2 s.table (s.phase a.1)
  ⟨table, Function.update s.phase a.1 phase, s.log ++ s.written a.1⟩

/-- An insert comes while there is no row of the entry's key, as the lookup found it. -/
def BatchServing.fresh (s : BatchServing κ) (a : κ × Reordering PodSyscalls) : Bool :=
  match s.phase a.1 with
  | .write w _ none => !s.table.any (·.key = w.key)
  | _ => true

/-! ## One entry at one moment

The two statements of an entry at once, as a step of the table. That entries for different pods
commute is what lets a run be sorted.
-/

/-- What an entry makes of a row of the table. -/
def PodInputSyscalls.relist (w : PodInputSyscalls) (r : PodSyscalls) : PodSyscalls :=
  if r.podName = w.podName then { r with syscalls := ",".intercalate w.syscalls } else r

/-- A row that is brought up to date keeps its key. -/
@[simp] theorem key_relist (w : PodInputSyscalls) (r : PodSyscalls) :
    (w.relist r).key = r.key := by
  unfold PodInputSyscalls.relist
  split <;> rfl

/-- It keeps its pod's name as well. -/
@[simp] theorem podName_relist (w : PodInputSyscalls) (r : PodSyscalls) :
    (w.relist r).podName = r.podName :=
  congrArg Prod.fst (key_relist w r)

/-- Rows of other pods are left alone. -/
theorem relist_of_ne {w : PodInputSyscalls} {r : PodSyscalls} (h : r.podName ≠ w.podName) :
    w.relist r = r :=
  if_neg h

/-- Whichever order the rows come in, an entry does one of three things. -/
theorem storeEntry_eq (o : Reordering PodSyscalls) (t : List PodSyscalls) (w : PodInputSyscalls) :
    storeEntry o t w
      = if t.any (·.key = w.key) then some (t.map w.relist)
        else if t.any (·.podName = w.podName) then none else some (t ++ [w.row]) := by
  unfold storeEntry
  cases hrow : w.getRow o t with
  | some row =>
    obtain ⟨hmem, hkey⟩ := PodInputSyscalls.mem_of_getRow hrow
    have hname : row.podName = w.podName := congrArg Prod.fst hkey
    have hany : t.any (·.key = w.key) = true := List.any_eq_true.mpr ⟨row, hmem, by simp [hkey]⟩
    simp only [hany, if_true, hname]
    rfl
  | none =>
    have hany : t.any (·.key = w.key) = false := by
      simpa using PodInputSyscalls.getRow_eq_none_iff.mp hrow
    simp only [hany, Bool.false_eq_true, if_false]
    rfl

/-- An entry whose key is in the table is an update. -/
theorem storeEntry_of_key {o : Reordering PodSyscalls} {t : List PodSyscalls}
    {w : PodInputSyscalls} (hkey : t.any (·.key = w.key) = true) :
    storeEntry o t w = some (t.map w.relist) := by
  rw [storeEntry_eq, if_pos hkey]

/-- An entry of a pod that has no row is an insert. -/
theorem storeEntry_of_fresh {o : Reordering PodSyscalls} {t : List PodSyscalls}
    {w : PodInputSyscalls} (hkey : t.any (·.key = w.key) = false)
    (hname : t.any (·.podName = w.podName) = false) :
    storeEntry o t w = some (t ++ [w.row]) := by
  rw [storeEntry_eq, hkey, hname]
  rfl

/-- **An entry that is stored** is one of the two. -/
theorem storeEntry_eq_some {o : Reordering PodSyscalls} {t t' : List PodSyscalls}
    {w : PodInputSyscalls} (h : storeEntry o t w = some t') :
    (t.any (·.key = w.key) = true ∧ t' = t.map w.relist)
      ∨ (t.any (·.key = w.key) = false ∧ t.any (·.podName = w.podName) = false
        ∧ t' = t ++ [w.row]) := by
  rw [storeEntry_eq] at h
  split at h
  · next hkey => exact .inl ⟨hkey, (Option.some.inj h).symm⟩
  · next hkey =>
    split at h
    · cases h
    · next hname =>
      exact .inr ⟨by simpa using hkey, by simpa using hname, (Option.some.inj h).symm⟩

/-- An entry neither finds nor leaves anything for entries of another pod name. -/
theorem any_of_storeEntry {o : Reordering PodSyscalls} {t t' : List PodSyscalls}
    {v w : PodInputSyscalls} (h : storeEntry o t v = some t') (hname : v.podName ≠ w.podName) :
    t'.any (·.key = w.key) = t.any (·.key = w.key)
      ∧ t'.any (·.podName = w.podName) = t.any (·.podName = w.podName) := by
  rcases storeEntry_eq_some h with ⟨_, rfl⟩ | ⟨_, _, rfl⟩
  · simp [List.any_map, Function.comp_def]
  · have hkey : v.row.key ≠ w.key := fun heq => hname (congrArg Prod.fst heq)
    have hrow : v.row.podName ≠ w.podName := hname
    simp [hkey, hrow]

/-- Updates of different pods commute. -/
theorem relist_comm {v w : PodInputSyscalls} (hname : v.podName ≠ w.podName) (r : PodSyscalls) :
    w.relist (v.relist r) = v.relist (w.relist r) := by
  by_cases hr : r.podName = v.podName
  · have hrw : r.podName ≠ w.podName := fun heq => hname (hr.symm.trans heq)
    have hvrw : (v.relist r).podName ≠ w.podName := by simpa using hrw
    rw [relist_of_ne hrw, relist_of_ne hvrw]
  · have hwrv : (w.relist r).podName ≠ v.podName := by simpa using hr
    rw [relist_of_ne hr, relist_of_ne hwrv]

/-- So both orders of two entries of different pod names come to the same rows. -/
theorem storeEntry_swap {o : Reordering PodSyscalls} {t tv tw : List PodSyscalls}
    {v w : PodInputSyscalls} (hv : storeEntry o t v = some tv) (hw : storeEntry o t w = some tw)
    (hname : v.podName ≠ w.podName) :
    ∃ tvw twv, storeEntry o tv w = some tvw ∧ storeEntry o tw v = some twv ∧ tvw.Perm twv := by
  -- of two entries for different pods, neither sees the row of the other
  obtain ⟨hkeyW, hnameW⟩ := any_of_storeEntry hv hname
  obtain ⟨hkeyV, hnameV⟩ := any_of_storeEntry hw hname.symm
  have hrowV : w.relist v.row = v.row := relist_of_ne hname
  have hrowW : v.relist w.row = w.row := relist_of_ne hname.symm
  rcases storeEntry_eq_some hv with ⟨hanyV, rfl⟩ | ⟨hanyV, hfreshV, rfl⟩
  · rcases storeEntry_eq_some hw with ⟨hanyW, rfl⟩ | ⟨hanyW, hfreshW, rfl⟩
    · refine ⟨_, _, storeEntry_of_key (hkeyW.trans hanyW),
        storeEntry_of_key (hkeyV.trans hanyV), ?_⟩
      -- both update
      have hcomm : w.relist ∘ v.relist = v.relist ∘ w.relist := funext (relist_comm hname)
      rw [List.map_map, List.map_map, hcomm]
    · refine ⟨_, _, storeEntry_of_fresh (hkeyW.trans hanyW) (hnameW.trans hfreshW),
        storeEntry_of_key (hkeyV.trans hanyV), ?_⟩
      rw [List.map_append, List.map_singleton, hrowW]
  · rcases storeEntry_eq_some hw with ⟨hanyW, rfl⟩ | ⟨hanyW, hfreshW, rfl⟩
    · refine ⟨_, _, storeEntry_of_key (hkeyW.trans hanyW),
        storeEntry_of_fresh (hkeyV.trans hanyV) (hnameV.trans hfreshV), ?_⟩
      rw [List.map_append, List.map_singleton, hrowV]
    · -- two rows are added, in one order or the other
      refine ⟨_, _, storeEntry_of_fresh (hkeyW.trans hanyW) (hnameW.trans hfreshW),
        storeEntry_of_fresh (hkeyV.trans hanyV) (hnameV.trans hfreshV), ?_⟩
      rw [List.append_assoc, List.append_assoc]
      exact (List.Perm.swap w.row v.row []).append_left t

/-- Whether an entry fails does not depend on an entry of another pod before it. -/
theorem storeEntry_eq_none_iff {o : Reordering PodSyscalls} {t t' : List PodSyscalls}
    {v w : PodInputSyscalls} (h : storeEntry o t v = some t') (hname : v.podName ≠ w.podName) :
    storeEntry o t' w = none ↔ storeEntry o t w = none := by
  obtain ⟨hkey, hpodName⟩ := any_of_storeEntry h hname
  rw [storeEntry_eq, storeEntry_eq, hkey, hpodName]
  split
  · simp
  · split <;> simp

/-- The rows of a table, in whichever order. -/
theorem storeEntry_perm {o : Reordering PodSyscalls} {t t' : List PodSyscalls} (h : t.Perm t')
    (w : PodInputSyscalls) :
    (storeEntry o t w = none ∧ storeEntry o t' w = none)
      ∨ ∃ u u', storeEntry o t w = some u ∧ storeEntry o t' w = some u' ∧ u.Perm u' := by
  rw [storeEntry_eq, storeEntry_eq, h.any_eq, h.any_eq]
  split
  · exact .inr ⟨_, _, rfl, rfl, h.map _⟩
  · split
    · exact .inl ⟨rfl, rfl⟩
    · exact .inr ⟨_, _, rfl, rfl, h.append_right _⟩

/-! ## Batches as entries

A batch as a sequence of such steps, with a mark for those that have failed, so that what is left of
them is skipped.
-/

section Entries

variable [DecidableEq κ]

/-- An entry of a batch at one moment, beside the batches that have failed. -/
def enter (s : List PodSyscalls × (κ → Bool)) (e : κ × PodInputSyscalls) :
    List PodSyscalls × (κ → Bool) :=
  if s.2 e.1 then s
  else match storeEntry .stored s.1 e.2 with
    | none => (s.1, Function.update s.2 e.1 true)
    | some t => (t, s.2)

/-- The same rows, and the same batches failed. -/
def SameRows (s s' : List PodSyscalls × (κ → Bool)) : Prop := s.1.Perm s'.1 ∧ s.2 = s'.2

/-- Entering an entry respects the order of the rows: tables of the same rows stay such. -/
theorem respected_enter : Respected (enter (κ := κ)) SameRows where
  equiv := ⟨fun s => ⟨.refl _, rfl⟩, fun h => ⟨h.1.symm, h.2.symm⟩,
    fun h h' => ⟨h.1.trans h'.1, h.2.trans h'.2⟩⟩
  act e s s' := by
    rintro ⟨hrows, hfailed⟩
    unfold enter
    rw [← hfailed]
    split
    · exact ⟨hrows, hfailed⟩
    · rcases storeEntry_perm (o := .stored) hrows e.2 with ⟨h, h'⟩ | ⟨u, u', h, h', hperm⟩
      · rw [h, h']
        exact ⟨hrows, rfl⟩
      · rw [h, h']
        exact ⟨hperm, rfl⟩

/-- Nothing is entered of a batch that has failed. -/
theorem enter_of_failed {t : List PodSyscalls} {failed : κ → Bool} {i : κ}
    (w : PodInputSyscalls) (h : failed i = true) : enter (t, failed) (i, w) = (t, failed) :=
  if_pos h

/-- A batch fails with the entry that cannot be inserted. -/
theorem enter_of_none {t : List PodSyscalls} {failed : κ → Bool} {i : κ}
    {w : PodInputSyscalls} (h : failed i = false) (hstore : storeEntry .stored t w = none) :
    enter (t, failed) (i, w) = (t, Function.update failed i true) := by
  simp [enter, h, hstore]

/-- Otherwise the entry is stored. -/
theorem enter_of_some {t t' : List PodSyscalls} {failed : κ → Bool} {i : κ}
    {w : PodInputSyscalls} (h : failed i = false) (hstore : storeEntry .stored t w = some t') :
    enter (t, failed) (i, w) = (t', failed) := by
  simp [enter, h, hstore]

/-- The entries of a batch that has failed do nothing, before or after another batch's. -/
theorem enter_swap_of_failed {t : List PodSyscalls} {failed : κ → Bool} {i j : κ} (hij : i ≠ j)
    (v w : PodInputSyscalls) (hi : failed i = true) :
    enter (enter (t, failed) (i, v)) (j, w) = enter (enter (t, failed) (j, w)) (i, v) := by
  rw [enter_of_failed v hi]
  cases hj : failed j with
  | true => rw [enter_of_failed w hj, enter_of_failed v hi]
  | false =>
    cases hw : storeEntry .stored t w with
    | none =>
      have hi' : Function.update failed j true i = true := by simp [hij, hi]
      rw [enter_of_none hj hw, enter_of_failed v hi']
    | some tw => rw [enter_of_some hj hw, enter_of_failed v hi]

/-- **Entries of different batches and pod names commute.** -/
theorem commutes_enter {d e : κ × PodInputSyscalls} (hbatch : d.1 ≠ e.1)
    (hname : d.2.podName ≠ e.2.podName) : Commutes enter SameRows d e := by
  rintro ⟨t, failed⟩
  obtain ⟨i, v⟩ := d
  obtain ⟨j, w⟩ := e
  have hij : i ≠ j := hbatch
  cases hi : failed i with
  | true =>
    -- a batch that has failed enters nothing more
    rw [enter_swap_of_failed hij v w hi]
    exact respected_enter.equiv.refl _
  | false =>
    cases hj : failed j with
    | true =>
      rw [enter_swap_of_failed hij.symm w v hj]
      exact respected_enter.equiv.refl _
    | false =>
      have hi' : Function.update failed j true i = false := by simp [hij, hi]
      have hj' : Function.update failed i true j = false := by simp [hij.symm, hj]
      cases hv : storeEntry .stored t v with
      | none =>
        cases hw : storeEntry .stored t w with
        | none =>
          rw [enter_of_none hi hv, enter_of_none hj' hw, enter_of_none hj hw, enter_of_none hi' hv,
            Function.update_comm hij]
          exact respected_enter.equiv.refl _
        | some tw =>
          -- the first fails before and after the second
          have hv' := (storeEntry_eq_none_iff hw hname.symm).mpr hv
          rw [enter_of_none hi hv, enter_of_some hj' hw, enter_of_some hj hw, enter_of_none hi hv']
          exact respected_enter.equiv.refl _
      | some tv =>
        cases hw : storeEntry .stored t w with
        | none =>
          have hw' := (storeEntry_eq_none_iff hv hname).mpr hw
          rw [enter_of_some hi hv, enter_of_none hj hw', enter_of_none hj hw, enter_of_some hi' hv]
          exact respected_enter.equiv.refl _
        | some tw =>
          obtain ⟨tvw, twv, hvw, hwv, hperm⟩ := storeEntry_swap hv hw hname
          rw [enter_of_some hi hv, enter_of_some hj hvw, enter_of_some hj hw, enter_of_some hi hwv]
          exact ⟨hperm, rfl⟩

end Entries

/-! ## A run as entries

The run's log has an entry for each write, in their order. An invariant says that doing the entries
of the log one by one leads to the same table.
-/

def BatchServing.failed (s : BatchServing κ) (i : κ) : Bool :=
  s.phase i = .replied .internalServerError

/-- The entries of a batch that have come to their write. -/
def writtenBy [DecidableEq κ] (log : List (κ × PodInputSyscalls)) (i : κ) :
    List PodInputSyscalls :=
  (log.filter (·.1 = i)).map (·.2)

/-- What is left of a batch, by its next statement; nothing is said of one that has failed. -/
def BatchPhase.Left (rest : List PodInputSyscalls) : BatchPhase → Prop
  | .getRow w ws => rest = w :: ws
  | .write w ws _ => rest = w :: ws
  | .replied .ok => rest = []
  | .replied .internalServerError => True

/-- The log says all that has happened. -/
structure Logged [DecidableEq κ] (req : κ → List PodInputSyscalls) (t : List PodSyscalls)
    (s : BatchServing κ) : Prop where
  rows : run enter (t, fun _ => false) s.log = (s.table, s.failed)
  left : ∀ i, ∃ rest, writtenBy s.log i ++ rest = req i ∧ (s.phase i).Left rest
  found : ∀ i w ws row, s.phase i = .write w ws (some row) →
    row.podName = w.podName ∧ s.table.any (·.key = w.key) = true

variable {req : κ → List PodInputSyscalls} {t : List PodSyscalls}

/-- The batch has still to do what it is about to look up. -/
theorem left_nextEntry (ws : List PodInputSyscalls) : (nextEntry ws).Left ws := by
  cases ws <;> rfl

/-- It looks up before it writes. -/
theorem nextEntry_ne_write (ws : List PodInputSyscalls) {w : PodInputSyscalls}
    {rest : List PodInputSyscalls} {row : Option PodSyscalls} :
    nextEntry ws ≠ .write w rest row := by
  cases ws <;> simp [nextEntry]

/-- It has not failed by having no entry left. -/
theorem nextEntry_ne_failed (ws : List PodInputSyscalls) :
    nextEntry ws ≠ .replied .internalServerError := by
  cases ws <;> simp [nextEntry]

/-- At the start nothing has been written. -/
theorem logged_start [DecidableEq κ] : Logged req t (.start req t) where
  rows := by
    have hnone : (BatchServing.start req t).failed = fun _ => false := by
      funext i
      simp [BatchServing.failed, BatchServing.start, nextEntry_ne_failed]
    rw [hnone]
    rfl
  left i := ⟨req i, rfl, left_nextEntry (req i)⟩
  found i w ws row h := absurd h (nextEntry_ne_write (req i))

/-- **A write does what the whole entry would at its moment.** -/
theorem batchStatement_write {o : Reordering PodSyscalls} {t : List PodSyscalls}
    {w : PodInputSyscalls} {ws : List PodInputSyscalls} {existingRow : Option PodSyscalls}
    (hfound : ∀ row, existingRow = some row →
      row.podName = w.podName ∧ t.any (·.key = w.key) = true)
    (hfresh : existingRow = none → t.any (·.key = w.key) = false) :
    batchStatement o t (.write w ws existingRow)
      = match storeEntry .stored t w with
        | none => (t, .replied .internalServerError)
        | some t' => (t', nextEntry ws) := by
  cases existingRow with
  | some row =>
    -- the row looked up is still there
    obtain ⟨hname, hkey⟩ := hfound row rfl
    simp only [batchStatement, storeEntry_of_key hkey, hname]
    rfl
  | none =>
    rw [storeEntry_eq, hfresh rfl]
    simp only [batchStatement]
    cases t.any (·.podName = w.podName) <;> rfl

/-- A key that is in the table stays. -/
theorem any_key_of_storeEntry {o : Reordering PodSyscalls} {t t' : List PodSyscalls}
    {w : PodInputSyscalls} (h : storeEntry o t w = some t') {key : String × String × String}
    (hkey : t.any (·.key = key) = true) : t'.any (·.key = key) = true := by
  rcases storeEntry_eq_some h with ⟨_, rfl⟩ | ⟨_, _, rfl⟩
  · simpa [List.any_map, Function.comp_def] using hkey
  · rw [List.any_append, hkey, Bool.true_or]

section Step

variable [DecidableEq κ]

/-- Which batches have failed, once one of them has moved on. -/
theorem failed_update (s : BatchServing κ) (table : List PodSyscalls) (i : κ) (next : BatchPhase)
    (log : List (κ × PodInputSyscalls)) :
    (⟨table, Function.update s.phase i next, log⟩ : BatchServing κ).failed
      = Function.update s.failed i (decide (next = .replied .internalServerError)) := by
  funext j
  by_cases hj : j = i
  · subst hj
    simp [BatchServing.failed]
  · simp [BatchServing.failed, hj]

/-- A batch that moves on without failing leaves the marks as they are. -/
theorem failed_update_of_open {s : BatchServing κ} {i : κ} (hi : s.failed i = false)
    {next : BatchPhase} (hnext : next ≠ .replied .internalServerError) (table : List PodSyscalls)
    (log : List (κ × PodInputSyscalls)) :
    (⟨table, Function.update s.phase i next, log⟩ : BatchServing κ).failed = s.failed := by
  rw [failed_update, decide_eq_false hnext, ← hi, Function.update_eq_self]

/-- What a batch has written, with one more entry in the log. -/
theorem writtenBy_snoc (log : List (κ × PodInputSyscalls)) (i j : κ) (w : PodInputSyscalls) :
    writtenBy (log ++ [(i, w)]) j = writtenBy log j ++ if i = j then [w] else [] := by
  unfold writtenBy
  rw [List.filter_append, List.map_append]
  by_cases hij : i = j
  · simp [hij]
  · simp [hij]

/-- **A lookup writes nothing**, so the log stays as it is. -/
theorem Logged.lookup {s : BatchServing κ} (h : Logged req t s) {i : κ} {w : PodInputSyscalls}
    {ws : List PodInputSyscalls} (hphase : s.phase i = .getRow w ws) (o : Reordering PodSyscalls) :
    Logged req t
      ⟨s.table, Function.update s.phase i (.write w ws (w.getRow o s.table)), s.log⟩ where
  rows := by
    have hi : s.failed i = false := by simp [BatchServing.failed, hphase]
    rw [h.rows, failed_update_of_open hi (by simp)]
  left j := by
    obtain ⟨rest, hreq, hleft⟩ := h.left j
    refine ⟨rest, hreq, ?_⟩
    by_cases hj : j = i
    · subst hj
      rw [hphase] at hleft
      -- a look-up leaves the entries to come as they were
      have hnext : (BatchPhase.write w ws (w.getRow o s.table)).Left rest := hleft
      simpa using hnext
    · simpa [hj] using hleft
  found j v vs row hwrite := by
    by_cases hj : j = i
    · subst hj
      simp only [Function.update_self, BatchPhase.write.injEq] at hwrite
      obtain ⟨rfl, rfl, hrow⟩ := hwrite
      obtain ⟨hmem, hkey⟩ := PodInputSyscalls.mem_of_getRow hrow
      exact ⟨congrArg Prod.fst hkey, List.any_eq_true.mpr ⟨row, hmem, by simp [hkey]⟩⟩
    · exact h.found j v vs row (by simpa [hj] using hwrite)

/-- **A write is one more entry of the log.** What its batch has looked up is still so: had another
batch inserted the key since, the lookup would have missed it, which is the hypothesis. -/
theorem Logged.write {s : BatchServing κ} (h : Logged req t s) {i : κ} {w : PodInputSyscalls}
    {ws : List PodInputSyscalls} {existingRow : Option PodSyscalls}
    (hphase : s.phase i = .write w ws existingRow)
    (hfresh : existingRow = none → s.table.any (·.key = w.key) = false)
    (o : Reordering PodSyscalls) :
    Logged req t ⟨(batchStatement o s.table (s.phase i)).1,
      Function.update s.phase i (batchStatement o s.table (s.phase i)).2, s.log ++ [(i, w)]⟩ := by
  have hi : s.failed i = false := by simp [BatchServing.failed, hphase]
  have hfound : ∀ row, existingRow = some row →
      row.podName = w.podName ∧ s.table.any (·.key = w.key) = true := by
    rintro row rfl
    exact h.found i w ws row hphase
  -- what is written so far and what is left make up the batch
  have hleft : ∀ (table : List PodSyscalls) (next : BatchPhase), next.Left ws → ∀ j, ∃ rest,
      writtenBy (s.log ++ [(i, w)]) j ++ rest = req j
        ∧ (Function.update s.phase i next j).Left rest := by
    intro table next hnext j
    obtain ⟨rest, hreq, hleft⟩ := h.left j
    rw [writtenBy_snoc]
    by_cases hj : j = i
    · subst hj
      rw [hphase] at hleft
      obtain rfl : rest = w :: ws := hleft
      -- the entry goes from what is left to what is written
      exact ⟨ws, by simpa using hreq, by simpa using hnext⟩
    · exact ⟨rest, by simpa [Ne.symm hj] using hreq, by simpa [hj] using hleft⟩
  rw [hphase, batchStatement_write hfound hfresh]
  cases hstore : storeEntry .stored s.table w with
  | none =>
    -- the insert fails, and the batch with it
    refine ⟨?_, hleft s.table _ trivial, fun j v vs row hwrite => ?_⟩
    · rw [run_snoc, h.rows, enter_of_none hi hstore, failed_update]
      rfl
    · by_cases hj : j = i
      · simp [hj] at hwrite
      · exact h.found j v vs row (by simpa [hj] using hwrite)
  | some t' =>
    refine ⟨?_, hleft t' _ (left_nextEntry ws), fun j v vs row hwrite => ?_⟩
    · rw [run_snoc, h.rows, enter_of_some hi hstore,
        failed_update_of_open hi (nextEntry_ne_failed ws)]
    · by_cases hj : j = i
      · subst hj
        exact absurd (by simpa using hwrite) (nextEntry_ne_write ws)
      · obtain ⟨hname, hkey⟩ := h.found j v vs row (by simpa [hj] using hwrite)
        exact ⟨hname, any_key_of_storeEntry hstore hkey⟩

/-- **The log keeps up with every statement.** -/
theorem Logged.step {s : BatchServing κ} (h : Logged req t s) {a : κ × Reordering PodSyscalls}
    (hfresh : s.fresh a = true) : Logged req t (s.step a) := by
  obtain ⟨i, o⟩ := a
  cases hphase : s.phase i with
  | getRow w ws =>
    have hnext := h.lookup hphase o
    simpa [BatchServing.step, BatchServing.written, hphase, batchStatement] using hnext
  | write w ws existingRow =>
    have hnone : existingRow = none → s.table.any (·.key = w.key) = false := by
      rintro rfl
      simpa [BatchServing.fresh, hphase] using hfresh
    have hnext := h.write hphase hnone o
    simpa [BatchServing.step, BatchServing.written, hphase] using hnext
  | replied reply =>
    -- nothing happens any more
    have hsame : s.step (i, o) = s := by
      simp only [BatchServing.step, BatchServing.written, hphase, batchStatement, List.append_nil]
      rw [← hphase, Function.update_eq_self]
    rwa [hsame]

end Step

/-! ## One after another

The entries of a log are sorted by batch. Those of different batches may pass each other when they
are for different pods.
-/

/-- The table that the batches leave when they are handled one after another. -/
def serialBatches (req : κ → List PodInputSyscalls) (t : List PodSyscalls) (order : List κ) :
    List PodSyscalls :=
  run (fun t i => (createPodSyscalls .stored t (req i)).1) t order

/-- Batches that write under one pod name do so in the order of `order`. -/
def InOrder [DecidableEq κ] (order : List κ) (log : List (κ × PodInputSyscalls)) : Prop :=
  log.Pairwise fun d e =>
    d.2.podName = e.2.podName → order.idxOf d.1 ≤ order.idxOf e.1

section Serial

variable [DecidableEq κ]

/-- None of the entries of a failed batch is entered. -/
theorem enters_of_failed {t : List PodSyscalls} {failed : κ → Bool} {i : κ}
    (hi : failed i = true) (ws : List PodInputSyscalls) :
    run enter (t, failed) (ws.map (i, ·)) = (t, failed) := by
  induction ws with
  | nil => rfl
  | cons w ws ih => rw [List.map_cons, run_cons, enter_of_failed w hi, ih]

/-- The entries of one batch, up to where it fails or has come, against the whole handler. -/
theorem createPodSyscalls_of_enters {t t' : List PodSyscalls} {failed failed' : κ → Bool} {i : κ}
    (hi : failed i = false) {ws : List PodInputSyscalls}
    (h : run enter (t, failed) (ws.map (i, ·)) = (t', failed')) :
    (∀ j, j ≠ i → failed' j = failed j)
      ∧ (failed' i = true → ∀ rest, createPodSyscalls .stored t (ws ++ rest)
        = (t', .internalServerError))
      ∧ (failed' i = false → createPodSyscalls .stored t ws = (t', .ok)) := by
  induction ws generalizing t with
  | nil =>
    obtain ⟨rfl, rfl⟩ := Prod.mk.inj h
    exact ⟨fun _ _ => rfl, fun hf => by simp [hi] at hf, fun _ => rfl⟩
  | cons w ws ih =>
    rw [List.map_cons, run_cons] at h
    cases hstore : storeEntry .stored t w with
    | none =>
      -- the batch ends here, and its further entries do nothing
      have hfailed : Function.update failed i true i = true := Function.update_self ..
      rw [enter_of_none hi hstore, enters_of_failed hfailed] at h
      obtain ⟨rfl, rfl⟩ := Prod.mk.inj h
      refine ⟨fun j hj => by simp [hj], fun _ rest => ?_, fun hf => by simp at hf⟩
      simp [createPodSyscalls, hstore]
    | some u =>
      rw [enter_of_some hi hstore] at h
      obtain ⟨hother, hfail, hok⟩ := ih h
      refine ⟨hother, fun hf rest => ?_, fun hf => ?_⟩
      · simp [createPodSyscalls, hstore, hfail hf rest]
      · simp [createPodSyscalls, hstore, hok hf]

/-- The entries of other batches do not make a batch fail. -/
theorem enters_other {i : κ} {l : List (κ × PodInputSyscalls)} (hl : ∀ e ∈ l, e.1 ≠ i)
    (s : List PodSyscalls × (κ → Bool)) : (run enter s l).2 i = s.2 i := by
  induction l generalizing s with
  | nil => rfl
  | cons e l ih =>
    obtain ⟨t, failed⟩ := s
    obtain ⟨j, w⟩ := e
    have hij : i ≠ j := (hl (j, w) (by simp)).symm
    rw [run_cons, ih fun e he => hl e (by simp [he])]
    unfold enter
    split
    · rfl
    · split
      · simp [hij]
      · rfl

/-- What a batch has written are the entries of the log that are its own. -/
theorem map_writtenBy (log : List (κ × PodInputSyscalls)) (i : κ) :
    (writtenBy log i).map (i, ·) = log.filter (·.1 = i) := by
  have hself : ∀ e ∈ log.filter (·.1 = i), ((i, ·) ∘ Prod.snd) e = id e := by
    intro e he
    have hei : e.1 = i := of_decide_eq_true (List.mem_filter.mp he).2
    exact Prod.ext hei.symm rfl
  rw [writtenBy, List.map_map, List.map_congr_left hself, List.map_id]

/-- The block of a batch that has been answered comes to its handler. -/
theorem handler_of_block {s : BatchServing κ} {i : κ}
    (hleft : ∃ rest, writtenBy s.log i ++ rest = req i ∧ (s.phase i).Left rest)
    (hanswered : ∃ reply, s.phase i = .replied reply) {t t' : List PodSyscalls}
    {failed failed' : κ → Bool} (hi : failed i = false)
    (hblock : run enter (t, failed) ((writtenBy s.log i).map (i, ·)) = (t', failed'))
    (hend : s.failed i = failed' i) :
    (createPodSyscalls .stored t (req i)).1 = t'
      ∧ s.phase i = .replied (createPodSyscalls .stored t (req i)).2 := by
  obtain ⟨-, hfail, hok⟩ := createPodSyscalls_of_enters hi hblock
  obtain ⟨rest, hreq, hrest⟩ := hleft
  cases hfailed : failed' i with
  | true =>
    rw [← hreq, hfail hfailed rest]
    exact ⟨rfl, of_decide_eq_true (hend.trans hfailed)⟩
  | false =>
    have hnot : s.phase i ≠ .replied .internalServerError :=
      of_decide_eq_false (hend.trans hfailed)
    obtain ⟨reply, hreply⟩ := hanswered
    cases reply with
    | internalServerError => exact absurd hreply hnot
    | ok =>
      -- an answered batch has nothing left
      rw [hreply] at hrest
      obtain rfl : rest = [] := hrest
      rw [List.append_nil] at hreq
      rw [← hreq, hok hfailed]
      exact ⟨rfl, hreply⟩

/-- Batch by batch, the entries that were written are the handlers one after another. Induction on
the batches still to come. -/
theorem serial_of_blocks {s : BatchServing κ}
    (hleft : ∀ i, ∃ rest, writtenBy s.log i ++ rest = req i ∧ (s.phase i).Left rest)
    (hall : ∀ i, ∃ reply, s.phase i = .replied reply) {order : List κ} (hnodup : order.Nodup)
    {t t' : List PodSyscalls} {failed : κ → Bool} (hopen : ∀ i ∈ order, failed i = false)
    (hrun : run enter (t, failed) (order.flatMap fun i => s.log.filter (·.1 = i))
      = (t', s.failed)) :
    serialBatches req t order = t'
      ∧ ∀ before i after, order = before ++ i :: after →
        s.phase i
          = .replied (createPodSyscalls .stored (serialBatches req t before) (req i)).2 := by
  induction order generalizing t failed with
  | nil =>
    obtain ⟨rfl, -⟩ := Prod.mk.inj hrun
    exact ⟨rfl, fun before i after h => by simp at h⟩
  | cons i order ih =>
    obtain ⟨hi, hnodup⟩ := List.nodup_cons.mp hnodup
    rw [List.flatMap_cons, run_append, ← map_writtenBy] at hrun
    rcases hblock : run enter (t, failed) ((writtenBy s.log i).map (i, ·)) with ⟨t₁, failed₁⟩
    rw [hblock] at hrun
    obtain ⟨hother, -, -⟩ := createPodSyscalls_of_enters (hopen i (by simp)) hblock
    have hopen₁ : ∀ j ∈ order, failed₁ j = false := by
      intro j hj
      have hji : j ≠ i := fun heq => hi (heq ▸ hj)
      rw [hother j hji, hopen j (by simp [hj])]
    obtain ⟨hserial, hreplies⟩ := ih hnodup hopen₁ hrun
    -- what became of the batch is what has become of it at the end
    have hend : s.failed i = failed₁ i := by
      have hlater : ∀ e ∈ order.flatMap fun i => s.log.filter (·.1 = i), e.1 ≠ i := by
        intro e he heq
        obtain ⟨j, hj, he⟩ := List.mem_flatMap.mp he
        have hej : e.1 = j := of_decide_eq_true (List.mem_filter.mp he).2
        exact hi (heq ▸ hej ▸ hj)
      have hflag := enters_other hlater (t₁, failed₁)
      rwa [hrun] at hflag
    have hbatch := handler_of_block (hleft i) (hall i) (hopen i (by simp)) hblock hend
    have hcons : ∀ l, serialBatches req t (i :: l) = serialBatches req t₁ l := by
      intro l
      unfold serialBatches
      rw [run_cons, hbatch.1]
    refine ⟨(hcons order).trans hserial, fun before j after horder => ?_⟩
    cases before with
    | nil =>
      obtain ⟨rfl, -⟩ := List.cons.inj horder
      exact hbatch.2
    | cons k before =>
      obtain ⟨rfl, hlater⟩ := List.cons.inj horder
      rw [hcons]
      exact hreplies before j after hlater

/-- **With every insert fresh and the writes in one order, the batches are served as if one after
another.** -/
theorem exists_serial_batches {schedule : List (κ × Reordering PodSyscalls)}
    (hfresh : Meets BatchServing.step (fun s a => s.fresh a = true) (.start req t) schedule)
    (hall : ∀ i, ∃ reply, (run BatchServing.step (.start req t) schedule).phase i = .replied reply)
    {order : List κ} (hnodup : order.Nodup) (hcomplete : ∀ i, i ∈ order)
    (horder : InOrder order (run BatchServing.step (.start req t) schedule).log) :
    (serialBatches req t order).Perm (run BatchServing.step (.start req t) schedule).table
      ∧ ∀ before i after, order = before ++ i :: after →
        (run BatchServing.step (.start req t) schedule).phase i
          = .replied (createPodSyscalls .stored (serialBatches req t before) (req i)).2 := by
  have hlogged : Logged req t (run BatchServing.step (.start req t) schedule) :=
    (always_of_meets (fun _ _ h hguard => h.step hguard) logged_start hfresh).last
  generalize run BatchServing.step (.start req t) schedule = s at *
  -- entries out of turn are for different pods, so they can be swapped into the batches' order
  have hcommutes : s.log.Pairwise fun d e =>
      order.idxOf e.1 < order.idxOf d.1 → Commutes enter SameRows d e := by
    refine horder.imp fun {d e} hde hlt => commutes_enter ?_ fun hname => ?_
    · rintro heq
      rw [heq] at hlt
      exact Nat.lt_irrefl _ hlt
    · exact absurd (hde hname) (Nat.not_le.mpr hlt)
  obtain ⟨hrows, hfailed⟩ := run_blocks respected_enter (k := Prod.fst) hnodup
    (fun e _ => hcomplete e.1) hcommutes (t, fun _ => false)
  rw [hlogged.rows] at hrows hfailed
  rcases hblocks : run enter (t, fun _ => false)
    (order.flatMap fun i => s.log.filter (·.1 = i)) with ⟨t', failed'⟩
  rw [hblocks] at hrows hfailed
  obtain rfl : s.failed = failed' := hfailed
  obtain ⟨hserial, hreplies⟩ := serial_of_blocks hlogged.left hall hnodup (fun _ _ => rfl) hblocks
  exact ⟨hserial ▸ hrows.symm, hreplies⟩

end Serial

/-! ## Batches that fail beside another -/

section Failures

variable [DecidableEq κ]

/-- An answer is not taken back. -/
theorem phase_step_of_replied {s : BatchServing κ} {j : κ} {reply : Reply}
    (h : s.phase j = .replied reply) (a : κ × Reordering PodSyscalls) :
    (s.step a).phase j = .replied reply := by
  show Function.update s.phase a.1 (batchStatement a.2 s.table (s.phase a.1)).2 j = _
  by_cases hj : j = a.1
  · subst hj
    rw [Function.update_self, h, batchStatement]
  · rw [Function.update_of_ne hj, h]

/-- An insert that is not fresh meets the primary key. -/
theorem fresh_of_not_failed {s : BatchServing κ} {a : κ × Reordering PodSyscalls}
    (h : (s.step a).phase a.1 ≠ .replied .internalServerError) : s.fresh a = true := by
  unfold BatchServing.fresh
  split
  · next w ws hphase =>
    cases hkey : s.table.any (·.key = w.key) with
    | false => rfl
    | true =>
      obtain ⟨row, hmem, hrow⟩ := List.any_eq_true.mp hkey
      have hname : s.table.any (·.podName = w.podName) = true :=
        List.any_eq_true.mpr ⟨row, hmem,
          decide_eq_true (congrArg Prod.fst (of_decide_eq_true hrow))⟩
      refine absurd ?_ h
      show Function.update s.phase a.1 (batchStatement a.2 s.table (s.phase a.1)).2 a.1 = _
      rw [Function.update_self, hphase, batchStatement, if_pos hname]
  · rfl

/-- **Where no batch has failed, every insert was fresh.** -/
theorem fresh_of_none_failed {s : BatchServing κ} {schedule : List (κ × Reordering PodSyscalls)}
    (h : ∀ j, (run BatchServing.step s schedule).phase j ≠ .replied .internalServerError) :
    Meets BatchServing.step (fun s a => s.fresh a = true) s schedule := by
  let noneFailed := fun s : BatchServing κ => ∀ j, s.phase j ≠ .replied .internalServerError
  have halways : Always BatchServing.step noneFailed s schedule :=
    always_of_last (fun s a hnext j hj => hnext j (phase_step_of_replied hj a)) h
  exact meets_of_always (J := fun _ => True) (A := fun _ => True)
    (fun s a _ _ hnext => ⟨fresh_of_not_failed (hnext a.1), trivial⟩) trivial
    (fun _ _ => trivial) halways

end Failures

end KubeGuardian.Broker
