import KubeGuardian.Controller.Calls
import KubeGuardian.Lib.Past
import KubeGuardian.System.Deployment

/-!
# Every row goes back to a call

A row of the traffic table has come a long way: from a call of the kernel that a probe saw, for a
call in two halves from the thread's way in, over a buffer, a handler and a request.

* **`since_node`** — what a node can only have come by in one way, it has come by in that way since
  it was last started;
* **`rows_from_calls`** — so every row goes back to a call that was seen through, of a pod that was
  registered, both since the controller that posted it was started.
-/

namespace KubeGuardian.System

open Controller Lib

namespace Deployment

variable {κ τ : Type*} [DecidableEq κ] (cfg : κ → NodeConfig)

def reached (inputs : List (DeploymentInput κ τ)) : Deployment κ τ :=
  run (Deployment.step cfg) start inputs

/-! ## Histories of a node -/

/-- The next thing happens on the node, and is as `E` says of the node's state. -/
def OnNode (k : κ) (E : Node τ → NodeInput τ → Prop) (before : List (DeploymentInput κ τ)) :
    DeploymentInput κ τ → Prop
  | .node k' i _ => k' = k ∧ E ((reached cfg before).nodes k) i
  | _ => False

def Restarts (k : κ) (_ : List (DeploymentInput κ τ)) : DeploymentInput κ τ → Prop
  | .restart k' => k' = k
  | _ => False

/-- The thread comes in, on the node. -/
def Enters (k : κ) (f : TwoHalves) (tid : UInt32) (sk : SockPtr) :
    List (DeploymentInput κ τ) → DeploymentInput κ τ → Prop :=
  OnNode cfg k fun s i => i.Enters s f tid sk

/-- The thread leaves or comes in again, or the controller forgets all threads. -/
def Leaves (k : κ) (f : TwoHalves) (tid : UInt32) (before : List (DeploymentInput κ τ))
    (i : DeploymentInput κ τ) : Prop :=
  Restarts k before i ∨ OnNode cfg k (fun s i => i.Leaves s f tid) before i

/-- A call on the node makes the event. If it is one in two halves, the thread came in with the
socket and has been inside since. -/
def Makes (k : κ) (tag : τ) (data : NetworkEventData) (before : List (DeploymentInput κ τ)) :
    DeploymentInput κ τ → Prop
  | .node k' (.network tag' mem call) _ => k' = k ∧ tag' = tag
      ∧ ((reached cfg before).nodes k).Attached
      ∧ call.Makes (cfg k).endian ((reached cfg before).nodes k).network mem
          (fun f tid sk => Since (Enters cfg k f tid sk) (Leaves cfg k f tid) before) data
  | _ => False

section Histories

variable {cfg} {inputs : List (DeploymentInput κ τ)} {k : κ}

/-- **What a node can only have come by in one way.** -/
theorem since_node {P : Node τ → Prop} {E R : Node τ → NodeInput τ → Prop}
    (hstart : ¬ P (.start τ))
    (hstep : ∀ s i, P (s.step (cfg k) i) → E s i ∨ P s ∧ ¬ R s i)
    (hE : ∀ s i sent, E s (i.withSent sent) → E s i)
    (hR : ∀ s i sent, R s i → R s (i.withSent sent))
    (h : P ((reached cfg inputs).nodes k)) :
    Since (OnNode cfg k E) (fun before i => Restarts k before i ∨ OnNode cfg k R before i)
      inputs := by
  refine since_run (P := fun d : Deployment κ τ => P (d.nodes k)) hstart (fun before i h => ?_) h
  cases i with
  | restart k' =>
    rw [nodes_restart] at h
    by_cases hk : k = k'
    · rw [if_pos hk] at h
      exact absurd h hstart
    · rw [if_neg hk] at h
      refine .inr ⟨h, fun hends => ?_⟩
      rcases hends with hends | hends
      · exact hk hends.symm
      · exact hends
  | other orders post => exact .inr ⟨h, fun hends => hends.elim id id⟩
  | node k' i exchange =>
    by_cases hk : k = k'
    · subst hk
      rw [nodes_step_self] at h
      rcases hstep _ _ h with hnew | ⟨hold, hkept⟩
      · exact .inl ⟨rfl, hE _ _ _ hnew⟩
      · refine .inr ⟨hold, fun hends => ?_⟩
        rcases hends with hends | hends
        · exact hends
        · exact hkept (hR _ _ _ hends.2)
    · rw [nodes_step_other hk] at h
      refine .inr ⟨h, fun hends => ?_⟩
      rcases hends with hends | hends
      · exact hends
      · exact hk hends.1.symm

/-- A thread's entry is that of its last way in. -/
theorem entered_since {f : TwoHalves} {tid : UInt32} {sk : SockPtr}
    (hattached : ((reached cfg inputs).nodes k).Attached)
    (h : (((reached cfg inputs).nodes k).network.left f).lookup tid = some sk) :
    Since (Enters cfg k f tid sk) (Leaves cfg k f tid) inputs := by
  refine since_node (P := fun s => s.Attached ∧ (s.network.left f).lookup tid = some sk) ?_ ?_ ?_
    ?_ ⟨hattached, h⟩
  · intro hstart
    cases f <;> cases hstart.2
  · intro s i hafter
    exact (left_step hafter.1 hafter.2).imp_right fun hleft =>
      ⟨⟨hafter.1.of_step, hleft.1⟩, hleft.2⟩
  · intro s i sent henters
    cases i <;> exact henters
  · intro s i sent hleaves
    cases i <;> exact hleaves

theorem makes_of_emits {tag : τ} {data : NetworkEventData} {before : List (DeploymentInput κ τ)}
    {i : DeploymentInput κ τ} (h : OnNode cfg k (fun s i => i.Emits (cfg k) s tag data) before i) :
    Makes cfg k tag data before i := by
  cases i with
  | restart k' => exact h
  | other orders post => exact h
  | node k' i exchange =>
    cases i with
    | network tag' mem call =>
      obtain ⟨hk, hpanicked, hloop, htag, hfire⟩ := h
      refine ⟨hk, htag, ⟨hpanicked, hloop⟩, ?_⟩
      exact (fire_eq_some_iff.mp hfire).mono fun f tid sk => entered_since ⟨hpanicked, hloop⟩
    | _ => exact h.2.elim

/-- An event that waits has been made since the controller was started. -/
theorem made_since {tag : τ} {data : NetworkEventData}
    (h : (tag, data) ∈ ((reached cfg inputs).nodes k).networkEvents) :
    Since (Makes cfg k tag data) (Restarts k) inputs := by
  have hsince : Since (OnNode cfg k fun s i => i.Emits (cfg k) s tag data)
      (fun before i => Restarts k before i ∨ OnNode cfg k (fun _ _ => False) before i) inputs := by
    refine since_node (P := fun s => (tag, data) ∈ s.networkEvents) List.not_mem_nil ?_ ?_ ?_ h
    · intro s i hafter
      have hsources : ComesFrom
          (fun tag data => i.Emits (cfg k) s tag data ∨ (tag, data) ∈ s.networkEvents)
          (fun _ _ => True) (s.step (cfg k) i) :=
        ComesFrom.step ⟨fun _ => .inr, fun _ _ _ => trivial, fun _ _ _ => trivial⟩
          (fun _ _ => .inl) fun _ _ _ => trivial
      exact (hsources.networkEvents _ hafter).imp_right fun hold => ⟨hold, id⟩
    · intro s i sent hemits
      cases i <;> exact hemits
    · exact fun _ _ _ => id
  exact hsince.mono (fun _ _ => makes_of_emits) fun _ _ => .inl

/-- So has an entry, be it written or not, been registered. -/
theorem registered_since {inum : UInt64} {podInspect : PodInspect}
    (h : ((reached cfg inputs).nodes k).handler.containerMap.lookup inum = some podInspect) :
    Since (fun before i => Registers cfg k inum podInspect (reached cfg before) i) (Restarts k)
      inputs := by
  have hsince : Since (OnNode cfg k fun _ i => i.Registers (cfg k) inum podInspect)
      (fun before i => Restarts k before i ∨ OnNode cfg k (fun _ _ => False) before i) inputs := by
    refine since_node (P := fun s => s.handler.containerMap.lookup inum = some podInspect
      ∨ .insertContainer inum podInspect ∈ s.watching) ?_ ?_ ?_ ?_ (.inl h)
    · intro hstart
      rcases hstart with hstart | hstart <;> cases hstart
    · intro s i hafter
      have hsources : ComesFrom (fun _ _ => True)
          (fun inum podInspect => i.Registers (cfg k) inum podInspect
            ∨ s.handler.containerMap.lookup inum = some podInspect
            ∨ .insertContainer inum podInspect ∈ s.watching) (s.step (cfg k) i) :=
        ComesFrom.step ⟨fun _ _ => trivial, fun _ _ hpod => .inr (.inl hpod),
          fun _ _ hmem => .inr (.inr hmem)⟩ (fun _ _ _ => trivial) fun _ _ => .inl
      rcases hafter with hafter | hafter
      · exact (hsources.entries _ _ hafter).imp_right fun hold => ⟨hold, id⟩
      · exact (hsources.watching _ _ hafter).imp_right fun hold => ⟨hold, id⟩
    · intro s i sent hregisters
      cases i <;> exact hregisters
    · exact fun _ _ _ => id
  refine hsince.mono (fun before i hregisters => ?_) fun _ _ => .inl
  cases i with
  | node k' i exchange => exact hregisters
  | restart k' => exact hregisters
  | other orders post => exact hregisters

end Histories

/-! ## Rows -/

/-- The request for the record of an event gets through, of a call and for a pod that the controller
has seen since it was started. -/
structure Brings (cfg : κ → NodeConfig) (row : Broker.PodTraffic) (k : κ) (o : Observation τ)
    (before : List (DeploymentInput κ τ)) (i : DeploymentInput κ τ) : Prop where
  row : ∃ stamp, row = (o.record (cfg k).endian stamp).row
  peer : ¬ o.Own (cfg k).endian
  delivers : Delivers cfg k o (reached cfg before) i
  made : Since (Makes cfg k o.tag o.data) (Restarts k) before
  registered : Since (fun before i =>
    Registers cfg k o.data.inum o.podInspect (reached cfg before) i) (Restarts k) before

/-- **Every row goes back to a call of the kernel.** -/
theorem rows_from_calls (cfg : κ → NodeConfig) (inputs : List (DeploymentInput κ τ)) :
    ∀ row ∈ (run (Deployment.step cfg) start inputs).db.podTraffic, ∃ k o before i after,
      inputs = before ++ i :: after ∧ Brings cfg row k o before i := by
  intro row hrow
  have hbrought : Since (fun before i => ∃ k o, Brings cfg row k o before i)
      (fun _ _ => False) inputs := by
    refine since_run (P := fun d : Deployment κ τ => row ∈ d.db.podTraffic) List.not_mem_nil
      (fun before i h => ?_) hrow
    rcases mem_podTraffic_step h with
      hold | ⟨k, input, exchange, record, rfl, hrequest, harrives, heq⟩
    · exact .inr ⟨hold, id⟩
    · obtain ⟨o, stamp, hobserves, hown, -, rfl⟩ := request_eq_some_iff.mp hrequest
      obtain ⟨-, n, sent, -, hevent, hpod⟩ := observes_eq_some_iff.mp hobserves
      refine .inl ⟨k, o, ?_⟩
      exact
        { row := ⟨stamp, heq⟩
          peer := hown
          delivers := ⟨rfl, ⟨stamp, hobserves⟩, fun _ => harrives⟩
          made := made_since (List.mem_of_getElem? hevent)
          registered := registered_since hpod }
  obtain ⟨before, i, after, rfl, ⟨k, o, hbrings⟩, -⟩ := hbrought.exists_split
  exact ⟨k, o, before, i, after, rfl, hbrings⟩

theorem rows_from_calls_one_connection :
    ∃ k o before i after, oneConnection = before ++ i :: after
      ∧ Brings (fun _ => shopConfig) (shopObservation.record .little ⟨"u1", 1⟩).row k o before i :=
  rows_from_calls (fun _ => shopConfig) oneConnection _ (by decide +kernel)

end Deployment

end KubeGuardian.System
