import KubeGuardian.Controller.Atomic
import KubeGuardian.System.Deployment

/-!
# What was emitted is in the table

`Deployment.recorded_iff` starts from the events that were handled. Here it is what the probes emit:
an event waits in its buffer until it is handled or lost, and it is never handled without a pod.

* **`waits_or_delivered`** — an event waits, or has been delivered, as long as nothing of the node's
  is lost;
* **`emitted_is_recorded`** — so once no event waits, every connection that a probe has seen is in
  the table, as far as the broker tells its record from the others.
-/

namespace KubeGuardian.System

open Controller Lib

/-! ## Events of a node -/

section Node

variable {τ : Type*} {cfg : NodeConfig} {s : Node τ} {event : τ × NetworkEventData}

def NodeInput.Loses : NodeInput τ → Prop
  | .loseNetwork _ => True
  | _ => False

theorem mem_networkEvents_of_emits {i : NodeInput τ} {tag : τ} {data : NetworkEventData}
    (h : i.Emits cfg s tag data) : (tag, data) ∈ (s.step cfg i).networkEvents := by
  cases i with
  | network tag' mem call =>
    obtain ⟨hpanicked, hrunning, rfl, hfire⟩ := h
    rw [Node.step_of_running hpanicked]
    show (tag', data) ∈ (s.networkCall cfg tag' mem call).networkEvents
    unfold Node.networkCall
    rw [if_neg hrunning]
    exact List.mem_append_right _ (List.mem_map.mpr ⟨data, Option.mem_toList.mpr hfire, rfl⟩)
  | _ => exact h.elim

/-- **An event waits until it is handled**, if it is not lost. -/
theorem waits_or_observed (hs : EntriesFirst s) (h : event ∈ s.networkEvents) {i : NodeInput τ}
    (hi : ¬ NodeInput.Loses i) :
    event ∈ (s.step cfg i).networkEvents
      ∨ ∃ podInspect stamp, s.observes i = some (⟨event.1, event.2, podInspect⟩, stamp) := by
  cases hpanicked : s.panicked with
  | true =>
    have hsame : s.step cfg i = s := if_pos hpanicked
    rw [hsame]
    exact .inl h
  | false =>
    rw [Node.step_of_running hpanicked]
    -- what touches no event keeps it waiting
    have hblind : ∀ {g : Node τ → Node τ}, Blind g → event ∈ (g s).networkEvents :=
      fun hg => (hg.events s).1 ▸ h
    cases i with
    | apply pod runtime =>
      exact .inl (hblind (g := fun s => s.apply cfg pod runtime) (blind_apply cfg pod runtime))
    | watch => exact .inl (hblind blind_watch)
    | receiveInode => exact .inl (hblind blind_receiveInode)
    | updateSyscall => exact .inl (hblind blind_updateSyscall)
    | receiveIp => exact .inl (hblind (blind_receiveIp cfg))
    | network tag mem call =>
      refine .inl ?_
      show event ∈ (s.networkCall cfg tag mem call).networkEvents
      unfold Node.networkCall
      split
      · exact h
      · exact List.mem_append_left _ h
    | syscall netNs id =>
      refine .inl ?_
      show event ∈ (s.syscallCall netNs id).networkEvents
      unfold Node.syscallCall
      repeat' split
      all_goals exact h
    | handleNetwork n stamp sent =>
      cases hn : s.networkEvents[n]? with
      | none =>
        refine .inl ?_
        show event ∈ (s.handleNetworkEvent cfg n stamp sent).networkEvents
        unfold Node.handleNetworkEvent
        rw [hn]
        exact h
      | some handled =>
        -- it is the event that is handled, or stays behind
        rcases List.mem_cons.mp ((perm_of_getElem? hn).mem_iff.mp h) with rfl | hrest
        · -- the event that is handled has its pod
          obtain ⟨podInspect, hpod⟩ := Option.isSome_iff_exists.mp (hs.networkEvents event h)
          exact .inr ⟨podInspect, stamp,
            observes_eq_some_iff.mpr ⟨hpanicked, n, sent, rfl, hn, hpod⟩⟩
        · refine .inl ?_
          show event ∈ (s.handleNetworkEvent cfg n stamp sent).networkEvents
          unfold Node.handleNetworkEvent
          rw [hn]
          dsimp only
          split <;> exact hrest
    | handleSyscall n =>
      refine .inl ?_
      show event ∈ (s.handleSyscallEvent cfg n).networkEvents
      unfold Node.handleSyscallEvent
      dsimp only
      repeat' split
      all_goals exact h
    | loseNetwork n => exact absurd trivial hi
    | _ => exact .inl h

end Node

namespace Deployment

variable {κ τ : Type*} [DecidableEq κ] {cfg : κ → NodeConfig}

/-- Nothing of the node's is lost: no event in its buffers, no request, and not the controller. -/
def Spares (cfg : κ → NodeConfig) (k : κ) (d : Deployment κ τ) : DeploymentInput κ τ → Prop
  | .node k' i exchange => k' = k → ¬ NodeInput.Loses i
      ∧ ((d.nodes k').request (cfg k') i ≠ none → ∀ err, exchange ≠ .lost err)
  | .restart k' => k' ≠ k
  | .other _ _ => True

theorem entriesFirst_run (cfg : κ → NodeConfig) (inputs : List (DeploymentInput κ τ)) :
    ∀ k, EntriesFirst ((run (Deployment.step cfg) start inputs).nodes k) := by
  refine run_invariant (P := fun d : Deployment κ τ => ∀ k, EntriesFirst (d.nodes k)) _
    (fun _ => entriesFirst_start) (fun d i hd k => ?_) inputs
  cases i with
  | restart k' =>
    rw [nodes_restart]
    split
    · exact entriesFirst_start
    · exact hd k
  | other orders post => exact hd k
  | node k' i exchange =>
    by_cases hk : k = k'
    · rw [hk, nodes_step_self]
      exact (hd k').step _
    · rw [nodes_step_other hk]
      exact hd k

section Runs

variable {inputs : List (DeploymentInput κ τ)} {k : κ}

/-- What waits, or was delivered, does so after one more step. -/
theorem waits_or_delivered_step {tag : τ} {data : NetworkEventData} {i : DeploymentInput κ τ}
    (hspares : Spares cfg k (run (Deployment.step cfg) start inputs) i)
    (h : (tag, data) ∈ ((run (Deployment.step cfg) start inputs).nodes k).networkEvents) :
    (tag, data) ∈ (((run (Deployment.step cfg) start inputs).step cfg i).nodes k).networkEvents
      ∨ ∃ podInspect, Delivers cfg k ⟨tag, data, podInspect⟩
        (run (Deployment.step cfg) start inputs) i := by
  cases i with
  | restart k' =>
    rw [nodes_restart, if_neg (Ne.symm hspares)]
    exact .inl h
  | other orders post => exact .inl h
  | node k' i exchange =>
    by_cases hk : k = k'
    · subst hk
      -- the step is this node's: it loses no event, and its request arrives
      obtain ⟨hkept, harrives⟩ := hspares rfl
      rw [nodes_step_self]
      have hkept' : ¬ NodeInput.Loses (i.withSent
          ((run (Deployment.step cfg) start inputs).exchanged cfg k i exchange).2) := by
        cases i <;> exact hkept
      refine (waits_or_observed (entriesFirst_run cfg inputs k) h hkept').imp_right ?_
      rintro ⟨podInspect, stamp, hobserves⟩
      refine ⟨podInspect, rfl, ⟨stamp, ?_⟩, harrives⟩
      cases i <;> exact hobserves
    · rw [nodes_step_other hk]
      exact .inl h

/-- **An event waits, or has been delivered.** -/
theorem waits_or_delivered
    (hspares : Meets (Deployment.step cfg) (fun d i => Spares cfg k d i) start inputs) {tag : τ}
    {data : NetworkEventData}
    (hemits : Occurs (Deployment.step cfg) (Emits cfg k tag data) start inputs) :
    (tag, data) ∈ ((run (Deployment.step cfg) start inputs).nodes k).networkEvents
      ∨ ∃ podInspect, Occurs (Deployment.step cfg) (Delivers cfg k ⟨tag, data, podInspect⟩) start
        inputs := by
  induction inputs using List.reverseRecOn with
  | nil => exact hemits.elim
  | append_singleton inputs i ih =>
    obtain ⟨hbefore, hspares, -⟩ := meets_append.mp hspares
    rw [run_snoc]
    -- emitted before, and then waiting or delivered; or emitted by this step, and then waiting
    rcases occurs_snoc.mp hemits with hemits | hemits
    · rcases ih hbefore hemits with hwaits | ⟨podInspect, hdelivered⟩
      · refine (waits_or_delivered_step hspares hwaits).imp_right fun hdelivers => ?_
        obtain ⟨podInspect, hdelivers⟩ := hdelivers
        exact ⟨podInspect, occurs_snoc.mpr (.inr hdelivers)⟩
      · exact .inr ⟨podInspect, hdelivered.append _⟩
    · cases i with
      | restart k' => exact hemits.elim
      | other orders post => exact hemits.elim
      | node k' i exchange =>
        obtain ⟨rfl, hemits⟩ := hemits
        rw [nodes_step_self]
        refine .inl (mem_networkEvents_of_emits ?_)
        cases i <;> exact hemits

/-- **Every connection that a probe has seen is in the table**, once no event of its node waits and
if nothing was lost on the way: for a pod registered under its number, unless the peer is the pod
itself. The broker must have no reason to take the record for another's (`hdistinct`): no pod of
another name was seen at the pod's address, nor a datagram from there to the peer and port of a
connection that was opened. -/
theorem emitted_is_recorded
    (hok : Meets (Deployment.step cfg) (fun d i => Accepts cfg d i) start inputs)
    (hspares : Meets (Deployment.step cfg) (fun d i => Spares cfg k d i) start inputs)
    (hrest : ((run (Deployment.step cfg) start inputs).nodes k).networkEvents = [])
    {tag : τ} {data : NetworkEventData}
    (hemits : Occurs (Deployment.step cfg) (Emits cfg k tag data) start inputs)
    (htcp : data.kind ≠ 3)
    (hdistinct : ∀ podInspect,
      Occurs (Deployment.step cfg) (Observes k ⟨tag, data, podInspect⟩) start inputs →
        Distinct cfg inputs k ⟨tag, data, podInspect⟩) :
    ∃ podInspect, Occurs (Deployment.step cfg) (Registers cfg k data.inum podInspect) start inputs
      ∧ (ownAddress (cfg k).endian data podInspect
        ∨ ∃ row ∈ (run (Deployment.step cfg) start inputs).db.podTraffic,
          rowKey row = keyOf (cfg k).endian data podInspect) := by
  rcases waits_or_delivered hspares hemits with hwaits | ⟨podInspect, hdelivers⟩
  · rw [hrest] at hwaits
    cases hwaits
  · have hobserves := observes_of_delivers hdelivers
    refine ⟨podInspect, ((sourced_run cfg inputs).observed k _ hobserves).2, ?_⟩
    -- a delivered event of the pod's own address is dropped, any other is recorded
    by_cases hown : ownAddress (cfg k).endian data podInspect
    · exact .inl hown
    · obtain ⟨row, hrow, k', o', stamp, rfl, hsame⟩ :=
        rows_complete hok hdelivers hown htcp (hdistinct podInspect hobserves)
      exact .inr ⟨_, hrow, hsame⟩

theorem spares_oneConnection : Meets (Deployment.step fun _ => shopConfig)
    (fun d i => Spares (fun _ => shopConfig) () d i) start oneConnection := by
  have hsplit : oneConnection = oneConnection.take 9 ++ [_] := rfl
  rw [hsplit, meets_append]
  refine ⟨meets_of_forall (fun i hi d => ?_) _, fun _ => ⟨id, fun _ err h => by cases h⟩, trivial⟩
  -- the first nine ask for nothing
  simp only [oneConnection, List.take_succ_cons, List.take_zero, List.mem_cons, List.not_mem_nil,
    or_false] at hi
  rcases hi with rfl | rfl | rfl | rfl | rfl | rfl | rfl | rfl | rfl <;>
    first | exact trivial | exact fun _ => ⟨id, fun h => absurd rfl h⟩

theorem emitted_is_recorded_one_connection :
    ∃ podInspect, Occurs (Deployment.step fun _ => shopConfig)
        (Registers (fun _ => shopConfig) () shopObservation.data.inum podInspect) start
        oneConnection
      ∧ (ownAddress .little shopObservation.data podInspect
        ∨ ∃ row ∈ (run (Deployment.step fun _ => shopConfig) start oneConnection).db.podTraffic,
          rowKey row = keyOf .little shopObservation.data podInspect) :=
  emitted_is_recorded accepts_oneConnection spares_oneConnection (by decide +kernel)
    ((sourced_run _ oneConnection).observed () shopObservation
      (observes_of_delivers delivers_oneConnection)).1 (by decide)
    fun podInspect hobserves => by
      rw [eq_of_observes_oneConnection hobserves]
      exact distinct_oneConnection

end Runs

end Deployment

end KubeGuardian.System
