import KubeGuardian.Controller.Answers
import KubeGuardian.System.Deployment

/-!
# The controllers with their tasks, and the broker

`System.Deployment` has a controller do each of its turns in one step, and its request answered
within it. Here the controllers are those of `Controller.Tasks`: their tasks stop and go on lock by
lock, and when the broker has had a request, anything can happen on the node, on the others and at
the broker before the handler that waits for the answer hears of it.

* **`refines_run`** — all of them together still do what the deployment does: to every run of theirs
  there is one of the deployment, with the same pods, calls, restarts and other requests in the same
  order, that leaves the same database.
-/

namespace KubeGuardian.System

open Controller Lib

structure Fleet (κ τ : Type*) where
  tasks : κ → Tasks τ
  /-- What the handler of a node will hear of the request that it waits for, once that is settled,
  with the stamp of its record. -/
  answers : κ → Option (Stamp × Sent)
  db : Broker.Db

/-- What can happen next: a task that goes on, with no say in the stamps and answers of the handler
of network events, or what becomes of the request that this handler has made. -/
inductive FleetInput (κ τ : Type*) where
  | task (k : κ) (i : TaskInput τ)
  | request (k : κ) (stamp : Stamp) (exchange : Exchange)
  | restart (k : κ)
  | other (orders : Broker.Orders) (post : OtherPost)

/-- What all of them are given from outside. -/
inductive Heard (κ τ : Type*) where
  | node (k : κ) (i : NodeInput τ)
  | restart (k : κ)
  | other (orders : Broker.Orders) (post : OtherPost)

section Heard

variable {κ τ : Type*}

def DeploymentInput.heard : DeploymentInput κ τ → List (Heard κ τ)
  | .node k i _ => i.heard.map (.node k)
  | .restart k => [.restart k]
  | .other orders post => [.other orders post]

/-- What comes from outside by an input of the fleet. A request is none of that. -/
def FleetInput.heard : FleetInput κ τ → List (Heard κ τ)
  | .task k i => i.heard.map (.node k)
  | .request _ _ _ => []
  | .restart k => [.restart k]
  | .other orders post => [.other orders post]

/-- What a node is given in a run is heard of. -/
theorem heard_of_mem {inputs : List (DeploymentInput κ τ)} {k : κ} {i : NodeInput τ}
    {exchange : Exchange} (hi : i.heard = [i])
    (h : DeploymentInput.node k i exchange ∈ inputs) :
    Heard.node k i ∈ inputs.flatMap DeploymentInput.heard := by
  refine List.mem_flatMap.mpr ⟨_, h, ?_⟩
  show Heard.node k i ∈ i.heard.map (Heard.node k)
  rw [hi]
  exact .head _

end Heard

namespace Fleet

variable {κ τ : Type*} (cfg : κ → NodeConfig)

def start : Fleet κ τ := ⟨fun _ => .start τ, fun _ => none, ⟨[], [], [], []⟩⟩

variable [DecidableEq κ]

/-- A task of the node goes on. -/
def goOn (x : Fleet κ τ) (k : κ) (i : TaskInput τ) : Fleet κ τ :=
  { x with tasks := Function.update x.tasks k ((x.tasks k).step (cfg k) i) }

/-- So does the handler of network events, which stays if it has a request to wait for. -/
def goOnNetwork (x : Fleet κ τ) (k : κ) (stamp : Stamp) : Fleet κ τ :=
  match x.answers k with
  | some (stamp, sent) =>
    { x.goOn cfg k (.network stamp sent) with answers := Function.update x.answers k none }
  | none =>
    if ((x.tasks k).due (cfg k) stamp).isSome then x
    else x.goOn cfg k (.network stamp (.error ""))

/-- The request that the handler has to make is settled, once. -/
def ask (x : Fleet κ τ) (k : κ) (stamp : Stamp) (exchange : Exchange) : Fleet κ τ :=
  match x.answers k, (x.tasks k).due (cfg k) stamp with
  | none, some record =>
    let (db, sent) := exchange.post x.db (.podTraffic record.row)
    { x with answers := Function.update x.answers k (some (stamp, sent)), db }
  | _, _ => x

def step (x : Fleet κ τ) : FleetInput κ τ → Fleet κ τ
  | .task k (.network stamp _) => x.goOnNetwork cfg k stamp
  | .task k i => x.goOn cfg k i
  | .request k stamp exchange => x.ask cfg k stamp exchange
  | .restart k =>
    { x with
      tasks := Function.update x.tasks k (.start τ)
      answers := Function.update x.answers k none }
  | .other orders post => { x with db := (Broker.handle x.db orders post.post).1 }

end Fleet

/-! ## Quiet steps of a deployment

Steps of one node that ask nothing of the broker, which a deployment can take in any number without
the others noticing.
-/

namespace Deployment

variable {κ τ : Type*} {cfg : κ → NodeConfig}

/-- A step of a node that has nothing to do with the broker. -/
def onNode (k : κ) (i : NodeInput τ) : DeploymentInput κ τ := .node k i (.lost "")

/-- Quiet steps are heard of as what the node was given. -/
theorem heard_map_onNode (k : κ) (is : List (NodeInput τ)) :
    (is.map (onNode k)).flatMap DeploymentInput.heard
      = (is.flatMap NodeInput.heard).map (Heard.node k) := by
  induction is with
  | nil => rfl
  | cons i is ih =>
    show i.heard.map (Heard.node k) ++ (is.map (onNode k)).flatMap DeploymentInput.heard
      = (i.heard ++ is.flatMap NodeInput.heard).map (Heard.node k)
    rw [ih, List.map_append]

variable [DecidableEq κ]

/-- A round that posts nothing. -/
theorem step_onNode (d : Deployment κ τ) (k : κ) {i : NodeInput τ}
    (hrequest : (d.nodes k).request (cfg k) i = none) (hsent : i.withSent (.error "") = i) :
    d.step cfg (onNode k i)
      = { d with nodes := Function.update d.nodes k ((d.nodes k).step (cfg k) i) } := by
  unfold Deployment.step onNode exchanged
  simp only [hrequest, hsent]

/-- A round that posts a record: the broker first, then the node with its answer. -/
theorem step_of_request (d : Deployment κ τ) (k : κ) {n : Nat} {stamp : Stamp} {sent : Sent}
    {record : PodTraffic}
    (hrequest : (d.nodes k).request (cfg k) (.handleNetwork n stamp sent) = some record)
    (exchange : Exchange) :
    d.step cfg (.node k (.handleNetwork n stamp sent) exchange)
      = { nodes := Function.update d.nodes k ((d.nodes k).step (cfg k)
            (.handleNetwork n stamp (exchange.post d.db (.podTraffic record.row)).2))
          db := (exchange.post d.db (.podTraffic record.row)).1 } := by
  unfold Deployment.step exchanged
  simp only [hrequest]
  rfl

/-- **Quiet steps of a node** are a run of that node, with everything else as it was. -/
theorem run_onNode (d : Deployment κ τ) (k : κ) {is : List (NodeInput τ)}
    (his : ∀ i ∈ is, i.Quiet) :
    run (Deployment.step cfg) d (is.map (onNode k))
      = { d with nodes := Function.update d.nodes k (run (Node.step (cfg k)) (d.nodes k) is) } := by
  induction is generalizing d with
  | nil => simp
  | cons i is ih =>
    have hquiet : i.Quiet := his i (by simp)
    have hrequest : (d.nodes k).request (cfg k) i = none := by
      cases i <;> first | rfl | exact hquiet.elim
    have hsent : i.withSent (.error "") = i := by
      cases i <;> first | rfl | exact hquiet.elim
    rw [List.map_cons, run_cons, step_onNode d k hrequest hsent,
      ih _ fun j hj => his j (by simp [hj])]
    simp

end Deployment

/-! ## The deployment follows

Between the broker's handling of a request and the handler's hearing of it the two differ: there the
node of the deployment has moved on already, and here its handler still stands with the map in hand.
-/

/-- How a node of the deployment stands to the tasks: where their request is settled, it has the
answer already. -/
def Stands {τ : Type*} (cfg : NodeConfig) (t : Tasks τ) (answer : Option (Stamp × Sent))
    (s : Node τ) : Prop :=
  match answer with
  | none => t.Abstracts s
  | some (stamp, sent) => (∃ record, t.due cfg stamp = some record)
      ∧ (t.handleNetwork cfg stamp sent).Abstracts s

section Stands

variable {τ : Type*} {cfg : NodeConfig} {t : Tasks τ} {answer : Option (Stamp × Sent)} {s : Node τ}

/-- **A step of a task other than the handler of network events.** -/
theorem Stands.quietStep (ht : t.Coherent cfg) (h : Stands cfg t answer s) {i : TaskInput τ}
    (hi : ∀ stamp sent, i ≠ .network stamp sent) :
    ∃ is, is.flatMap NodeInput.heard = i.heard ∧ (∀ j ∈ is, j.Quiet)
      ∧ Stands cfg (t.step cfg i) answer (run (Node.step cfg) s is) := by
  cases answer with
  | none => exact Tasks.Abstracts.quietStep ht h hi
  | some given =>
    obtain ⟨stamp, sent⟩ := given
    obtain ⟨⟨record, hdue⟩, habstracts⟩ := h
    rcases Tasks.handleNetwork_step ht hdue sent hi with ⟨hsame, hheard⟩ | hlater
    · rw [hsame, hheard]
      exact ⟨[], rfl, by simp, ⟨record, hdue⟩, habstracts⟩
    · obtain ⟨is, hheard, hquiet, hfollows⟩ := habstracts.quietStep (ht.handleNetwork stamp sent) hi
      rw [hlater] at hfollows
      exact ⟨is, hheard, hquiet, ⟨record, Tasks.due_step ht hdue hi⟩, hfollows⟩

end Stands

/-- The deployment stands for the fleet: the tables are the same, and each node is what its tasks
have come to. -/
structure Refines {κ τ : Type*} (cfg : κ → NodeConfig) (x : Fleet κ τ) (d : Deployment κ τ) :
    Prop where
  db : d.db = x.db
  nodes : ∀ k, Stands (cfg k) (x.tasks k) (x.answers k) (d.nodes k)

/-- At the start all nodes stand as the tasks do. -/
theorem refines_start {κ τ : Type*} {cfg : κ → NodeConfig} :
    Refines cfg (Fleet.start : Fleet κ τ) Deployment.start where
  db := rfl
  nodes _ := Tasks.abstracts_start

section Refines

variable {κ τ : Type*} [DecidableEq κ] {cfg : κ → NodeConfig} {x x' : Fleet κ τ}
  {d d' : Deployment κ τ}

/-- Something is done on one node. -/
theorem Refines.at (h : Refines cfg x d) (k : κ)
    (hothers : ∀ k' ≠ k, x'.tasks k' = x.tasks k' ∧ x'.answers k' = x.answers k'
      ∧ d'.nodes k' = d.nodes k')
    (hdb : d'.db = x'.db) (hk : Stands (cfg k) (x'.tasks k) (x'.answers k) (d'.nodes k)) :
    Refines cfg x' d' where
  db := hdb
  nodes k' := by
    by_cases hsame : k' = k
    · rw [hsame]
      exact hk
    · obtain ⟨htasks, hanswers, hnodes⟩ := hothers k' hsame
      rw [htasks, hanswers, hnodes]
      exact h.nodes k'

/-- **A task other than the handler of network events goes on.** The node follows with quiet steps;
where an answer is in hand this rests on `Tasks.handleNetwork_step`, by which such a step and the
answer can change places. -/
theorem Refines.goOn (hx : ∀ k, (x.tasks k).Coherent (cfg k)) (h : Refines cfg x d) (k : κ)
    {i : TaskInput τ} (hi : ∀ stamp sent, i ≠ .network stamp sent) :
    ∃ is, is.flatMap DeploymentInput.heard = i.heard.map (Heard.node k)
      ∧ Refines cfg (x.goOn cfg k i) (run (Deployment.step cfg) d is) := by
  obtain ⟨is, hheard, hquiet, hfollows⟩ := (h.nodes k).quietStep (hx k) hi
  refine ⟨is.map (Deployment.onNode k), ?_, ?_⟩
  · rw [Deployment.heard_map_onNode, hheard]
  · rw [Deployment.run_onNode d k hquiet]
    refine h.at k (fun k' hk' => ?_) h.db ?_
    · exact ⟨Function.update_of_ne hk' _ _, rfl, Function.update_of_ne hk' _ _⟩
    · simpa [Fleet.goOn] using hfollows

/-- **The handler of network events goes on.** With an answer in hand it does now what the
deployment's node has done when it was asked, so nothing is left to follow. Without one it stays
where it has a request to wait for; else it posts nothing, and the node follows with a round that
posts nothing either. -/
theorem Refines.goOnNetwork (h : Refines cfg x d) (k : κ) (stamp : Stamp) :
    ∃ is, is.flatMap DeploymentInput.heard = []
      ∧ Refines cfg (x.goOnNetwork cfg k stamp) (run (Deployment.step cfg) d is) := by
  have hk : Stands (cfg k) (x.tasks k) (x.answers k) (d.nodes k) := h.nodes k
  unfold Fleet.goOnNetwork
  cases hanswer : x.answers k with
  | some given =>
    obtain ⟨stamp, sent⟩ := given
    rw [hanswer] at hk
    -- the answer is there: the deployment took this step with the request
    obtain ⟨⟨record, hdue⟩, habstracts⟩ := hk
    have hrunning : ¬ (x.tasks k).node.panicked := by simp [(Tasks.due_eq_some_iff.mp hdue).1]
    have hstep : (x.tasks k).step (cfg k) (.network stamp sent)
        = (x.tasks k).handleNetwork (cfg k) stamp sent := if_neg hrunning
    refine ⟨[], rfl, h.at k (fun k' hk' => ?_) h.db ?_⟩
    · exact ⟨Function.update_of_ne hk' _ _, Function.update_of_ne hk' _ _, rfl⟩
    · simpa [Fleet.goOn, Stands, hstep] using habstracts
  | none =>
    dsimp only
    rw [hanswer] at hk
    have habstracts : (x.tasks k).Abstracts (d.nodes k) := hk
    split
    · exact ⟨[], rfl, h⟩
    · next hdue =>
      have hnone : (x.tasks k).due (cfg k) stamp = none := by simpa using hdue
      have hgoes : ∀ {s}, ((x.tasks k).step (cfg k) (.network stamp (.error ""))).Abstracts s →
          Refines cfg (x.goOn cfg k (.network stamp (.error "")))
            { d with nodes := Function.update d.nodes k s } := by
        intro s hs
        refine h.at k (fun k' hk' => ?_) h.db ?_
        · exact ⟨Function.update_of_ne hk' _ _, rfl, Function.update_of_ne hk' _ _⟩
        · simpa [Fleet.goOn, Stands, hanswer] using hs
      -- the deployment's node does not move
      have hstays : ((x.tasks k).step (cfg k) (.network stamp (.error ""))).Abstracts (d.nodes k) →
          Refines cfg (x.goOn cfg k (.network stamp (.error ""))) d := by
        intro hs
        have hsame := hgoes hs
        rwa [Function.update_eq_self] at hsame
      cases hpanicked : (x.tasks k).node.panicked with
      | true =>
        have hstep : (x.tasks k).step (cfg k) (.network stamp (.error "")) = x.tasks k :=
          if_pos hpanicked
        exact ⟨[], rfl, hstays (hstep.symm ▸ habstracts)⟩
      | false =>
        have hstep : (x.tasks k).step (cfg k) (.network stamp (.error ""))
            = (x.tasks k).handleNetwork (cfg k) stamp (.error "") := if_neg (by simp [hpanicked])
        cases hat : (x.tasks k).networkHandler with
        | locked event =>
          obtain ⟨n, hn, hcommitted⟩ := habstracts.commitNetwork hpanicked hat stamp
          -- no request is due, so the commit posts nothing
          have hrequest : (d.nodes k).request (cfg k) (.handleNetwork n stamp (.error "")) = none :=
            (Tasks.request_of_abstracts habstracts hat hn _).trans hnone
          refine ⟨[Deployment.onNode k (.handleNetwork n stamp (.error ""))], rfl, ?_⟩
          rw [run_cons, run_nil, Deployment.step_onNode d k hrequest rfl]
          exact hgoes (hstep.symm ▸ hcommitted (.error ""))
        | _ =>
          exact ⟨[], rfl, hstays (hstep.symm ▸ habstracts.takeNetwork (by simp [hat]) _ _)⟩

/-- The broker is asked; the node of the deployment hears of it at once. -/
theorem Refines.ask (h : Refines cfg x d) (k : κ) (stamp : Stamp) (exchange : Exchange) :
    ∃ is, is.flatMap DeploymentInput.heard = []
      ∧ Refines cfg (x.ask cfg k stamp exchange) (run (Deployment.step cfg) d is) := by
  have hk : Stands (cfg k) (x.tasks k) (x.answers k) (d.nodes k) := h.nodes k
  unfold Fleet.ask
  cases hanswer : x.answers k with
  | some given => exact ⟨[], rfl, h⟩
  | none =>
    rw [hanswer] at hk
    have habstracts : (x.tasks k).Abstracts (d.nodes k) := hk
    cases hdue : (x.tasks k).due (cfg k) stamp with
    | none => exact ⟨[], rfl, h⟩
    | some record =>
      obtain ⟨hrunning, event, podInspect, hat, -⟩ := Tasks.due_eq_some_iff.mp hdue
      obtain ⟨n, hn, hcommitted⟩ := habstracts.commitNetwork hrunning hat stamp
      have hrequest : (d.nodes k).request (cfg k) (.handleNetwork n stamp (.error ""))
          = some record := (Tasks.request_of_abstracts habstracts hat hn _).trans hdue
      -- the deployment makes the request and commits the event in one step
      refine ⟨[.node k (.handleNetwork n stamp (.error "")) exchange], rfl, ?_⟩
      rw [run_cons, run_nil, Deployment.step_of_request d k hrequest, h.db]
      refine h.at k (fun k' hk' => ?_) rfl ?_
      · exact ⟨rfl, Function.update_of_ne hk' _ _, Function.update_of_ne hk' _ _⟩
      · simp only [Function.update_self]
        exact ⟨⟨record, hdue⟩, hcommitted _⟩

/-- A controller starts again, with or without an answer in hand. -/
theorem Refines.restart (h : Refines cfg x d) (k : κ) :
    Refines cfg (x.step cfg (.restart k)) (d.step cfg (.restart k)) := by
  refine h.at k (fun k' hk' => ?_) h.db ?_
  · exact ⟨Function.update_of_ne hk' _ _, Function.update_of_ne hk' _ _,
      Function.update_of_ne hk' _ _⟩
  · simp only [Fleet.step, Deployment.step, Function.update_self]
    exact Tasks.abstracts_start

/-- **Every step is followed**, by one run of the deployment that hears the same. -/
theorem Refines.step (hx : ∀ k, (x.tasks k).Coherent (cfg k)) (h : Refines cfg x d)
    (i : FleetInput κ τ) :
    ∃ is, is.flatMap DeploymentInput.heard = i.heard
      ∧ Refines cfg (x.step cfg i) (run (Deployment.step cfg) d is) := by
  cases i with
  | task k i =>
    cases i with
    | network stamp sent => exact h.goOnNetwork k stamp
    | _ => exact h.goOn hx k (by simp)
  | request k stamp exchange => exact h.ask k stamp exchange
  | restart k => exact ⟨[.restart k], rfl, h.restart k⟩
  | other orders post =>
    refine ⟨[.other orders post], rfl, ?_, h.nodes⟩
    show (Broker.handle d.db orders post.post).1 = (Broker.handle x.db orders post.post).1
    rw [h.db]

end Refines

/-! ## Runs

The relation of one step, carried along a run by the rule for simulations of `Lib.Run`.
-/

section Runs

variable {κ τ : Type*} [DecidableEq κ] {cfg : κ → NodeConfig}

/-- A task that goes on keeps its node's tasks coherent, and has nothing to do with the others'. -/
theorem coherent_goOn {x : Fleet κ τ} (hx : ∀ k, (x.tasks k).Coherent (cfg k)) (k : κ)
    (i : TaskInput τ) : ∀ k', ((x.goOn cfg k i).tasks k').Coherent (cfg k') :=
  (Function.forall_update_iff x.tasks fun k' t => t.Coherent (cfg k')).mpr
    ⟨(hx k).step i, fun k' _ => hx k'⟩

/-- The tasks of all nodes stay coherent, which is what `Refines.goOn` needs. -/
theorem coherent_step {x : Fleet κ τ} (hx : ∀ k, (x.tasks k).Coherent (cfg k))
    (i : FleetInput κ τ) : ∀ k, ((x.step cfg i).tasks k).Coherent (cfg k) := by
  cases i with
  | task k i =>
    cases i with
    | network stamp sent =>
      show ∀ k', ((x.goOnNetwork cfg k stamp).tasks k').Coherent (cfg k')
      unfold Fleet.goOnNetwork
      split
      · exact coherent_goOn hx k _
      · split
        · exact hx
        · exact coherent_goOn hx k _
    | _ => exact coherent_goOn hx k _
  | request k stamp exchange =>
    show ∀ k', ((x.ask cfg k stamp exchange).tasks k').Coherent (cfg k')
    unfold Fleet.ask
    split <;> exact hx
  | restart k =>
    exact (Function.forall_update_iff x.tasks fun k' t => t.Coherent (cfg k')).mpr
      ⟨Tasks.coherent_start, fun k' _ => hx k'⟩
  | other orders post => exact hx

/-- From wherever the two stand to each other, the deployment can follow any run of the tasks. The
invariant that carries the induction is the coherence of every node's tasks. -/
theorem Refines.run {x : Fleet κ τ} {d : Deployment κ τ} (h : Refines cfg x d)
    (hx : ∀ k, (x.tasks k).Coherent (cfg k)) (inputs : List (FleetInput κ τ)) :
    ∃ inputs', inputs'.flatMap DeploymentInput.heard = inputs.flatMap FleetInput.heard
      ∧ Refines cfg (Lib.run (Fleet.step cfg) x inputs)
        (Lib.run (Deployment.step cfg) d inputs') :=
  exists_run_of_follows (J := fun x : Fleet κ τ => ∀ k, (x.tasks k).Coherent (cfg k))
    hx h (fun _ i hx => coherent_step hx i) (fun _ _ i hx h => h.step hx i) inputs

/-- **The whole system does what the deployment does**, whatever order its tasks, its requests and
their answers come in: a run from the start has a run of the deployment from its own that was given
the same pods, calls, restarts and other requests, in the same order. -/
theorem refines_run (cfg : κ → NodeConfig) (inputs : List (FleetInput κ τ)) :
    ∃ inputs', inputs'.flatMap DeploymentInput.heard = inputs.flatMap FleetInput.heard
      ∧ Refines cfg (run (Fleet.step cfg) Fleet.start inputs)
        (run (Deployment.step cfg) Deployment.start inputs') :=
  refines_start.run (fun _ => Tasks.coherent_start) inputs

/-- So every row of its table is the record of an event of a call that it has heard, for a pod that
it has been given. -/
theorem rows_heard (cfg : κ → NodeConfig) (inputs : List (FleetInput κ τ)) :
    ∀ row ∈ (run (Fleet.step cfg) Fleet.start inputs).db.podTraffic,
      ∃ (k : κ) (o : Observation τ) (stamp : Stamp), row = (o.record (cfg k).endian stamp).row
      ∧ (∃ mem call, Heard.node k (.network o.tag mem call) ∈ inputs.flatMap FleetInput.heard)
      ∧ ∃ pod runtime podIp, Heard.node k (.apply pod runtime) ∈ inputs.flatMap FleetInput.heard
        ∧ podInode (cfg k).toWatcherConfig runtime pod = some o.data.inum ∧ Watched pod podIp
        ∧ o.podInspect = ⟨createPodInfo pod podIp⟩ := by
  intro row hrow
  have hstart : Refines cfg (Fleet.start : Fleet κ τ) Deployment.start := refines_start
  -- read back over a run of the deployment with the same inputs heard
  obtain ⟨inputs', hheard, hrefines⟩ := hstart.run (fun _ => Tasks.coherent_start) inputs
  rw [← hrefines.db] at hrow
  obtain ⟨k, o, stamp, heq, -, -, hemits, hregisters⟩ := Deployment.rows_sound cfg inputs' row hrow
  rw [← hheard]
  refine ⟨k, o, stamp, heq, ?_, ?_⟩
  · obtain ⟨i, hi, d, hemits⟩ := hemits.exists_mem
    cases i with
    | node k' i exchange =>
      obtain ⟨rfl, hemits⟩ := hemits
      cases i with
      | network tag mem call =>
        obtain ⟨-, -, rfl, -⟩ := hemits
        exact ⟨mem, call, heard_of_mem rfl hi⟩
      | _ => exact hemits.elim
    | restart k' => exact hemits.elim
    | other orders post => exact hemits.elim
  · obtain ⟨i, hi, d, hregisters⟩ := hregisters.exists_mem
    cases i with
    | node k' i exchange =>
      obtain ⟨rfl, hregisters⟩ := hregisters
      cases i with
      | apply pod runtime =>
        obtain ⟨hinode, podIp, hwatched, hpod⟩ := hregisters
        exact ⟨pod, runtime, podIp, heard_of_mem rfl hi, hinode, hwatched, hpod⟩
      | _ => exact hregisters.elim
    | restart k' => exact hregisters.elim
    | other orders post => exact hregisters.elim

end Runs

end KubeGuardian.System
