import KubeGuardian.Broker.Traffic
import KubeGuardian.Lib.Run

/-!
# Traffic requests at the same time

`create_pod_traffic` looks for a row and inserts one in statements of their own, with nothing around
them, so the statements of requests on different connections mix.

* **`exists_serial_traffic`** — where every insert still finds what its lookup found, the table and
  the replies are those of the requests one after another, in the order in which they finish.
* **`noTwoAgree_run_iff`** — rows that agree on all that a lookup compares come of an insert beside
  such a row, and of nothing else.
-/

namespace KubeGuardian.Broker

open Lib

/-! ## Statements -/

/-- A request to `create_pod_traffic`, by its next statement. -/
inductive TrafficPhase where
  | lookup
  | secondLookup
  | insert
  | replied (reply : Reply)
  deriving DecidableEq

/-- One statement for the record `w`: the table after it, and the next statement. -/
def trafficStatement (w : PodTraffic) (o : Reordering PodTraffic) (t : List PodTraffic) :
    TrafficPhase → List PodTraffic × TrafficPhase
  | .lookup =>
    if w.ipProtocol = some "UDP" then
      match o.first (t.filter (peerPortQuery w)) with
      | none => (t, .secondLookup)
      | some _ => (t, .replied .ok)
    else
      match o.first (t.filter (bothPortsQuery w)) with
      | none => (t, .insert)
      | some _ => (t, .replied .ok)
  | .secondLookup =>
    match o.first (t.filter (podPortQuery w)) with
    | none => (t, .insert)
    | some _ => (t, .replied .ok)
  | .insert =>
    if t.any (·.uuid = w.uuid) then (t, .replied .internalServerError)
    else (t ++ [w], .replied .ok)
  | .replied reply => (t, .replied reply)

/-- The table, and the requests that are being served. -/
structure TrafficServing (ι : Type) where
  table : List PodTraffic
  phase : ι → TrafficPhase

variable {ι : Type}

def TrafficServing.start (t : List PodTraffic) : TrafficServing ι := ⟨t, fun _ => .lookup⟩

/-- The next statement of one of the requests. -/
def TrafficServing.step [DecidableEq ι] (req : ι → PodTraffic) (s : TrafficServing ι)
    (a : ι × Reordering PodTraffic) : TrafficServing ι :=
  let (table, phase) := trafficStatement (req a.1) a.2 s.table (s.phase a.1)
  ⟨table, Function.update s.phase a.1 phase⟩

/-! ## What one statement does -/

/-- An insert comes while no stored row hides the record, as the lookups found it. -/
def TrafficServing.fresh (req : ι → PodTraffic) (s : TrafficServing ι)
    (a : ι × Reordering PodTraffic) : Bool :=
  match s.phase a.1 with
  | .insert => !s.table.any (hides · (req a.1))
  | _ => true

/-- The handler at one moment does not depend on the order of the rows. -/
theorem createPodTraffic_eq (o : Reordering PodTraffic) (t : List PodTraffic) (w : PodTraffic) :
    createPodTraffic o t w
      = if t.any (hides · w) then (t, .ok)
        else if t.any (·.uuid = w.uuid) then (t, .internalServerError) else (t ++ [w], .ok) := by
  unfold createPodTraffic
  cases hany : t.any (hides · w) with
  | false => simp [(w.getRow_eq_none_iff o t).mpr hany]
  | true =>
    have hfound : w.getRow o t ≠ none := by
      rw [Ne, w.getRow_eq_none_iff, hany]
      simp
    simp [hfound]

/-- A record with an id of its own is accepted. -/
theorem createPodTraffic_of_new {o : Reordering PodTraffic} {t : List PodTraffic} {w : PodTraffic}
    (hnew : ∀ row ∈ t, row.uuid ≠ w.uuid) : createPodTraffic o t w = (offer hides t w, .ok) := by
  have huuid : ¬ t.any (·.uuid = w.uuid) := by simpa using hnew
  rw [createPodTraffic_eq, if_neg huuid]
  unfold offer
  split <;> rfl

/-- **A statement goes on, finds a row that hides the record, stores it, or fails at the primary
key**, whatever the other requests have done since the last one. -/
theorem trafficStatement_outcome {w : PodTraffic} {o : Reordering PodTraffic} {t : List PodTraffic}
    {phase : TrafficPhase} (hphase : ∀ reply, phase ≠ .replied reply)
    (hudp : phase = .secondLookup → w.ipProtocol = some "UDP") :
    (∃ next, trafficStatement w o t phase = (t, next) ∧ (∀ reply, next ≠ .replied reply)
        ∧ (next = .secondLookup → w.ipProtocol = some "UDP"))
      ∨ (trafficStatement w o t phase = (t, .replied .ok) ∧ ∃ row ∈ t, hides row w)
      ∨ (trafficStatement w o t phase = (t ++ [w], .replied .ok)
        ∧ phase = .insert ∧ ∀ row ∈ t, row.uuid ≠ w.uuid)
      ∨ (trafficStatement w o t phase = (t, .replied .internalServerError)
        ∧ phase = .insert ∧ ∃ row ∈ t, row.uuid = w.uuid) := by
  -- a query of the source finds only rows that hide the record
  have hfinds : ∀ {query : PodTraffic → Bool} {row : PodTraffic},
      o.first (t.filter query) = some row → (query row = true → hides row w = true) →
        ∃ row ∈ t, hides row w := by
    intro query row hfirst hquery
    obtain ⟨hmem, hrow⟩ := List.mem_filter.mp (Reordering.mem_of_first hfirst)
    exact ⟨row, hmem, hquery hrow⟩
  cases phase with
  | lookup =>
    -- a datagram is looked up by the peer's port first
    by_cases hprotocol : w.ipProtocol = some "UDP"
    · simp only [trafficStatement, if_pos hprotocol]
      cases hfirst : o.first (t.filter (peerPortQuery w)) with
      | none => exact .inl ⟨.secondLookup, rfl, by simp, fun _ => hprotocol⟩
      | some row => exact .inr (.inl ⟨rfl, hfinds hfirst fun h => by simp [hides, hprotocol, h]⟩)
    · simp only [trafficStatement, if_neg hprotocol]
      cases hfirst : o.first (t.filter (bothPortsQuery w)) with
      | none => exact .inl ⟨.insert, rfl, by simp, by simp⟩
      | some row => exact .inr (.inl ⟨rfl, hfinds hfirst fun h => by simp [hides, hprotocol, h]⟩)
  | secondLookup =>
    have hprotocol := hudp rfl
    simp only [trafficStatement]
    cases hfirst : o.first (t.filter (podPortQuery w)) with
    | none => exact .inl ⟨.insert, rfl, by simp, by simp⟩
    | some row => exact .inr (.inl ⟨rfl, hfinds hfirst fun h => by simp [hides, hprotocol, h]⟩)
  | insert =>
    rw [trafficStatement]
    split
    · -- the primary key is taken
      next hany =>
      obtain ⟨row, hrow, huuid⟩ := List.any_eq_true.mp hany
      exact .inr (.inr (.inr ⟨rfl, rfl, row, hrow, of_decide_eq_true huuid⟩))
    · next hany => exact .inr (.inr (.inl ⟨rfl, rfl, by simpa using hany⟩))
  | replied reply => exact absurd rfl (hphase reply)

/-- **A statement goes on, or it answers as the whole handler would at its moment.** -/
theorem trafficStatement_cases {w : PodTraffic} {o : Reordering PodTraffic} {t : List PodTraffic}
    {phase : TrafficPhase} (hphase : ∀ reply, phase ≠ .replied reply)
    (hudp : phase = .secondLookup → w.ipProtocol = some "UDP")
    (hfresh : phase = .insert → t.any (hides · w) = false) :
    (∃ next, trafficStatement w o t phase = (t, next) ∧ (∀ reply, next ≠ .replied reply)
        ∧ (next = .secondLookup → w.ipProtocol = some "UDP"))
      ∨ trafficStatement w o t phase
        = ((createPodTraffic .stored t w).1, .replied (createPodTraffic .stored t w).2) := by
  rcases trafficStatement_outcome (o := o) (t := t) hphase hudp with
    hgoesOn | ⟨hfinds, hfound⟩ | ⟨hstores, hinsert, hnew⟩ | ⟨hfails, hinsert, hold⟩
  · exact .inl hgoesOn
  · refine .inr ?_
    rw [hfinds, createPodTraffic_eq, if_pos (List.any_eq_true.mpr hfound)]
  · refine .inr ?_
    -- no row hides the record, so a request alone would insert it too
    have hany : ¬ t.any (hides · w) := by simp [hfresh hinsert]
    rw [hstores, createPodTraffic_of_new hnew, offer, if_neg hany]
  · refine .inr ?_
    have hany : ¬ t.any (hides · w) := by simp [hfresh hinsert]
    have huuid : t.any (·.uuid = w.uuid) := by simpa using hold
    rw [hfails, createPodTraffic_eq, if_neg hany, if_pos huuid]

/-! ## One after another -/

/-- The table that the requests leave when they are handled one after another. -/
def serialTraffic (req : ι → PodTraffic) (t : List PodTraffic) (order : List ι) :
    List PodTraffic :=
  run (fun t i => (createPodTraffic .stored t (req i)).1) t order

/-- The requests of `order` have been answered, and all is as if they had come one by one. -/
structure AnsweredInOrder (req : ι → PodTraffic) (t : List PodTraffic) (order : List ι)
    (s : TrafficServing ι) : Prop where
  nodup : order.Nodup
  answered : ∀ i, i ∈ order ↔ ∃ reply, s.phase i = .replied reply
  table : s.table = serialTraffic req t order
  replies : ∀ before i after, order = before ++ i :: after →
    s.phase i = .replied (createPodTraffic .stored (serialTraffic req t before) (req i)).2
  udp : ∀ i, s.phase i = .secondLookup → (req i).ipProtocol = some "UDP"

variable {req : ι → PodTraffic} {t : List PodTraffic}

theorem answeredInOrder_start : AnsweredInOrder req t [] (.start t) where
  nodup := List.nodup_nil
  answered i := by simp [TrafficServing.start]
  table := rfl
  replies before i after h := by simp at h
  udp i h := by simp [TrafficServing.start] at h

/-- A statement after which the request still has no answer. -/
theorem AnsweredInOrder.goOn [DecidableEq ι] {order : List ι} {s : TrafficServing ι}
    (h : AnsweredInOrder req t order s) {i : ι} (hi : i ∉ order) {next : TrafficPhase}
    (hopen : ∀ reply, next ≠ .replied reply)
    (hudp : next = .secondLookup → (req i).ipProtocol = some "UDP") :
    AnsweredInOrder req t order ⟨s.table, Function.update s.phase i next⟩ where
  nodup := h.nodup
  answered j := by
    by_cases hj : j = i
    · subst hj
      simp [hi, hopen]
    · simp [h.answered j, hj]
  table := h.table
  replies before j after horder := by
    -- `i` is not among those answered
    have hj : j ≠ i := by
      rintro rfl
      exact hi (by simp [horder])
    simpa [hj] using h.replies before j after horder
  udp j hphase := by
    by_cases hj : j = i
    · subst hj
      exact hudp (by simpa using hphase)
    · exact h.udp j (by simpa [hj] using hphase)

/-- A statement that answers as the whole handler would. -/
theorem AnsweredInOrder.answer [DecidableEq ι] {order : List ι} {s : TrafficServing ι}
    (h : AnsweredInOrder req t order s) {i : ι} (hi : i ∉ order) :
    AnsweredInOrder req t (order ++ [i])
      ⟨(createPodTraffic .stored s.table (req i)).1, Function.update s.phase i
        (.replied (createPodTraffic .stored s.table (req i)).2)⟩ where
  nodup := by
    rw [List.nodup_append]
    exact ⟨h.nodup, by simp, fun j hj k hk hjk => hi (by simp_all)⟩
  answered j := by
    by_cases hj : j = i
    · subst hj
      simp
    · simp [h.answered j, hj]
  table := by
    rw [serialTraffic, run_snoc, ← serialTraffic, ← h.table]
  replies before j after horder := by
    rcases List.eq_nil_or_concat after with rfl | ⟨after', k, rfl⟩
    · -- the request that has just been answered
      obtain ⟨rfl, hij⟩ := List.append_inj' horder rfl
      obtain rfl : i = j := by simpa using hij
      simp [h.table]
    · rw [List.concat_eq_append, ← List.cons_append, ← List.append_assoc] at horder
      obtain ⟨hbefore, -⟩ := List.append_inj' horder rfl
      have hj : j ≠ i := by
        rintro rfl
        exact hi (by simp [hbefore])
      simpa [hj] using h.replies before j after' hbefore
  udp j hphase := by
    by_cases hj : j = i
    · simp [hj] at hphase
    · exact h.udp j (by simpa [hj] using hphase)

/-- **A statement answers the next request in the order, or none.** -/
theorem AnsweredInOrder.step [DecidableEq ι] {order : List ι} {s : TrafficServing ι}
    (h : AnsweredInOrder req t order s) {a : ι × Reordering PodTraffic}
    (hfresh : s.fresh req a = true) : ∃ order', AnsweredInOrder req t order' (s.step req a) := by
  obtain ⟨i, o⟩ := a
  -- a request replied to takes no further statement
  by_cases hreplied : ∃ reply, s.phase i = .replied reply
  · obtain ⟨reply, hphase⟩ := hreplied
    have hsame : s.step req (i, o) = s := by
      simp only [TrafficServing.step, hphase, trafficStatement]
      rw [← hphase, Function.update_eq_self]
    exact ⟨order, hsame.symm ▸ h⟩
  · push Not at hreplied
    have hi : i ∉ order := fun hmem => by
      obtain ⟨reply, hphase⟩ := (h.answered i).mp hmem
      exact hreplied reply hphase
    -- at its insert no row hides the request, by freshness
    have hinsert : s.phase i = .insert → s.table.any (hides · (req i)) = false := by
      intro hphase
      simpa [TrafficServing.fresh, hphase] using hfresh
    rcases trafficStatement_cases (o := o) hreplied (h.udp i) hinsert with
      ⟨next, hnext, hopen, hudp⟩ | hnext
    · refine ⟨order, ?_⟩
      simp only [TrafficServing.step, hnext]
      exact h.goOn hi hopen hudp
    · refine ⟨order ++ [i], ?_⟩
      simp only [TrafficServing.step, hnext]
      exact h.answer hi

/-- **With every insert fresh, the requests are served as if one after another.** -/
theorem exists_serial_traffic [DecidableEq ι] {schedule : List (ι × Reordering PodTraffic)}
    (hfresh : Meets (TrafficServing.step req) (fun s a => s.fresh req a = true) (.start t)
      schedule) :
    ∃ order, AnsweredInOrder req t order (run (TrafficServing.step req) (.start t) schedule) :=
  (always_of_meets (P := fun s => ∃ order, AnsweredInOrder req t order s)
    (fun _ _ ⟨_, h⟩ hguard => h.step hguard) ⟨[], answeredInOrder_start⟩ hfresh).last

/-! ## Rows that agree -/

/-- SQL finds the rows equal in the five columns of the lookup. -/
def agree (r s : PodTraffic) : Bool := bothPortsQuery r s

def NoTwoAgree (t : List PodTraffic) : Prop := t.Pairwise fun r s => agree r s = false

theorem sqlEq_comm (a b : Option String) : sqlEq a b = sqlEq b a := by
  cases a with
  | none => simp
  | some x =>
    cases b with
    | none => simp
    | some y => simp [eq_comm]

theorem agree_comm (r s : PodTraffic) : agree r s = agree s r := by
  simp only [agree, bothPortsQuery, sqlEq_comm]

theorem hides_of_agree {r w : PodTraffic} (h : agree r w = true) : hides r w = true := by
  rw [agree_comm] at h
  unfold hides
  split
  · -- without the pod's own port this is the first UDP query
    simp only [agree, bothPortsQuery, Bool.and_eq_true] at h
    obtain ⟨⟨⟨⟨hip, -⟩, htype⟩, hpeer⟩, hport⟩ := h
    simp [peerPortQuery, hip, htype, hpeer, hport]
  · exact h

theorem noTwoAgree_snoc {t : List PodTraffic} {w : PodTraffic} :
    NoTwoAgree (t ++ [w]) ↔ NoTwoAgree t ∧ t.any (agree · w) = false := by
  unfold NoTwoAgree
  rw [List.pairwise_append]
  simp

/-- One request after another never stores two rows that agree. -/
theorem NoTwoAgree.createPodTraffic {t : List PodTraffic} (h : NoTwoAgree t)
    (o : Reordering PodTraffic) (w : PodTraffic) : NoTwoAgree (createPodTraffic o t w).1 := by
  rw [createPodTraffic_eq]
  split
  · exact h
  · next hany =>
    split
    · exact h
    · refine noTwoAgree_snoc.mpr ⟨h, ?_⟩
      rw [List.any_eq_false]
      intro r hr hagree
      exact hany (List.any_eq_true.mpr ⟨r, hr, hides_of_agree hagree⟩)

/-- An insert that the primary key lets through finds no row that agrees. -/
def TrafficServing.apart (req : ι → PodTraffic) (s : TrafficServing ι)
    (a : ι × Reordering PodTraffic) : Bool :=
  match s.phase a.1 with
  | .insert => s.table.any (·.uuid = (req a.1).uuid) || !s.table.any (agree · (req a.1))
  | _ => true

theorem trafficStatement_of_ne_insert {w : PodTraffic} {o : Reordering PodTraffic}
    {t : List PodTraffic} {phase : TrafficPhase} (h : phase ≠ .insert) :
    (trafficStatement w o t phase).1 = t := by
  cases phase with
  | lookup =>
    simp only [trafficStatement]
    split <;> split <;> rfl
  | secondLookup =>
    simp only [trafficStatement]
    split <;> rfl
  | insert => exact absurd rfl h
  | replied reply => rfl

/-- **What an insert beside an agreeing row leaves.** -/
theorem noTwoAgree_step_iff [DecidableEq ι] (s : TrafficServing ι)
    (a : ι × Reordering PodTraffic) :
    NoTwoAgree (s.step req a).table ↔ NoTwoAgree s.table ∧ s.apart req a = true := by
  show NoTwoAgree (trafficStatement (req a.1) a.2 s.table (s.phase a.1)).1 ↔ _
  by_cases hphase : s.phase a.1 = .insert
  · unfold TrafficServing.apart trafficStatement
    rw [hphase]
    cases huuid : s.table.any (·.uuid = (req a.1).uuid) with
    | true => simp
    | false => simp [noTwoAgree_snoc]
  · rw [trafficStatement_of_ne_insert hphase]
    have hapart : s.apart req a = true := by
      unfold TrafficServing.apart
      split
      · next h => exact absurd h hphase
      · rfl
    simp [hapart]

/-- **Two rows that agree come of an insert beside one that agrees**, and of nothing else. -/
theorem noTwoAgree_run_iff [DecidableEq ι] (ht : NoTwoAgree t)
    (schedule : List (ι × Reordering PodTraffic)) :
    NoTwoAgree (run (TrafficServing.step req) (.start t) schedule).table
      ↔ Meets (TrafficServing.step req) (fun s a => s.apart req a = true) (.start t) schedule := by
  have hstep : ∀ s a, NoTwoAgree s.table →
      (NoTwoAgree (TrafficServing.step req s a).table ↔ s.apart req a = true) :=
    fun s a hs => (noTwoAgree_step_iff s a).trans (and_iff_right hs)
  rw [← always_iff_meets (P := fun s => NoTwoAgree s.table) hstep ht]
  constructor
  · intro h
    refine always_of_last (P := fun s : TrafficServing ι => NoTwoAgree s.table)
      (fun s a hnext => ?_) h
    exact ((noTwoAgree_step_iff s a).mp hnext).1
  · exact fun h => h.last

end KubeGuardian.Broker
