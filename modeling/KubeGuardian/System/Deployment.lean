import KubeGuardian.Controller.Sources
import KubeGuardian.System.RecordToRule
import KubeGuardian.System.CacheTransparent

/-!
# The controllers of all nodes and the broker

Every node runs a controller of its own, and all of them post to the one broker. A request may get
lost, and so may its answer when the broker has done what it was asked for; a controller may start
again with empty maps and an empty cache at any time. Nothing orders what the nodes do.

* **`rows_sound`** — every traffic row is the record of an event that a probe emitted on some node
  and that was handled there for a pod registered under the event's namespace;
* **`rows_complete`** — when the broker stores what it is given, every connection that was handled
  and whose request was not lost is in the table, as far as the broker tells rows apart;
* **`recorded_iff`** — so the table is just that.
-/

namespace KubeGuardian.System

open Controller Lib

/-! ## Requests

Every request of a controller is about one record of traffic. It may be lost before the broker has
it or after, and the controller cannot tell which.
-/

/-- What becomes of a request. An answer that is lost leaves what the broker has done. -/
inductive Exchange where
  | lost (err : String)
  | unanswered (orders : Broker.Orders) (err : String)
  | answered (orders : Broker.Orders)

/-- The orders in which the database yields its rows when the request arrives, if it does. -/
def Exchange.arrival : Exchange → Option Broker.Orders
  | .lost _ => none
  | .unanswered orders _ | .answered orders => some orders

/-- What a request does to the tables, and what its sender hears. The two come apart where the
answer is lost. -/
def Exchange.post (exchange : Exchange) (db : Broker.Db) (post : Broker.Post) : Broker.Db × Sent :=
  match exchange with
  | .lost err => (db, .error err)
  | .unanswered orders err => ((Broker.handle db orders post).1, .error err)
  | .answered orders =>
    let (db, reply) := Broker.handle db orders post
    (db, System.answered reply)

/-- The requests that are not about traffic. -/
inductive OtherPost where
  | podSpec (w : Broker.PodDetail)
  | svcSpec (w : Broker.SvcDetail)
  | podSyscalls (ws : List Broker.PodInputSyscalls)

def OtherPost.post : OtherPost → Broker.Post
  | .podSpec w => .podSpec w
  | .svcSpec w => .svcSpec w
  | .podSyscalls ws => .podSyscalls ws

/-! ## All nodes

The nodes share nothing but the broker, so a step of the deployment is one of a single node, or a
request that no modelled node makes.
-/

structure Deployment (κ τ : Type*) where
  nodes : κ → Node τ
  db : Broker.Db

/-- What can happen next: something on a node, with what becomes of its request if it makes one, a
controller that starts again, or another request to the broker. -/
inductive DeploymentInput (κ τ : Type*) where
  | node (k : κ) (i : NodeInput τ) (exchange : Exchange)
  | restart (k : κ)
  | other (orders : Broker.Orders) (post : OtherPost)

namespace Deployment

variable {κ τ : Type*} (cfg : κ → NodeConfig)

def start : Deployment κ τ := ⟨fun _ => .start τ, ⟨[], [], [], []⟩⟩

/-- What the broker does about the request of an input, and what the node hears of it. -/
def exchanged (d : Deployment κ τ) (k : κ) (i : NodeInput τ) (exchange : Exchange) :
    Broker.Db × Sent :=
  match (d.nodes k).request (cfg k) i with
  | none => (d.db, .error "")
  | some record => exchange.post d.db (.podTraffic record.row)

/-- The table after the requests of a node. -/
theorem podTraffic_exchanged (d : Deployment κ τ) (k : κ) (i : NodeInput τ) (exchange : Exchange) :
    (d.exchanged cfg k i exchange).1.podTraffic
      = match (d.nodes k).request (cfg k) i, exchange with
        | some record, .unanswered orders _ | some record, .answered orders =>
          (Broker.createPodTraffic orders.podTraffic d.db.podTraffic record.row).1
        | _, _ => d.db.podTraffic := by
  unfold exchanged
  cases (d.nodes k).request (cfg k) i with
  | none => rfl
  | some record => cases exchange <;> rfl

/-- Only an answer of the broker lets a node believe that its record arrived. -/
theorem answered_of_isOk {d : Deployment κ τ} {k : κ} {i : NodeInput τ} {exchange : Exchange}
    (h : (d.exchanged cfg k i exchange).2.isOk) : ∀ err, exchange ≠ .lost err := by
  rintro err rfl
  unfold exchanged at h
  cases hrequest : (d.nodes k).request (cfg k) i <;>
    simp [hrequest, Exchange.post, Except.isOk, Except.toBool] at h

variable [DecidableEq κ]

def step (d : Deployment κ τ) : DeploymentInput κ τ → Deployment κ τ
  | .node k i exchange =>
    let (db, sent) := d.exchanged cfg k i exchange
    { nodes := Function.update d.nodes k ((d.nodes k).step (cfg k) (i.withSent sent)), db }
  | .restart k => { d with nodes := Function.update d.nodes k (.start τ) }
  | .other orders post => { d with db := (Broker.handle d.db orders post.post).1 }

/-! ## What happens on a node

What the statements about runs are made of: events of a run, each of which some step of it is.
-/

/-- A probe on the node emits the event. -/
def Emits (k : κ) (tag : τ) (data : NetworkEventData) (d : Deployment κ τ) :
    DeploymentInput κ τ → Prop
  | .node k' i _ => k' = k ∧ i.Emits (cfg k) (d.nodes k) tag data
  | _ => False

/-- The watcher on the node is given the pod, to be registered under the number. -/
def Registers (k : κ) (inum : UInt64) (podInspect : PodInspect) (_ : Deployment κ τ) :
    DeploymentInput κ τ → Prop
  | .node k' i _ => k' = k ∧ i.Registers (cfg k) inum podInspect
  | _ => False

/-- The handler on the node takes the event up, for the pod. -/
def Observes (k : κ) (o : Observation τ) (d : Deployment κ τ) : DeploymentInput κ τ → Prop
  | .node k' i _ => k' = k ∧ ∃ stamp, (d.nodes k).observes i = some (o, stamp)
  | _ => False

/-- So it does, and its request is not lost, if there is one. -/
def Delivers (k : κ) (o : Observation τ) (d : Deployment κ τ) : DeploymentInput κ τ → Prop
  | .node k' i exchange => k' = k ∧ (∃ stamp, (d.nodes k).observes i = some (o, stamp))
      ∧ ((d.nodes k).request (cfg k) i ≠ none → ∀ err, exchange ≠ .lost err)
  | _ => False

/-- The broker stores the record of a request that arrives, or has the like of it. -/
def Accepts (d : Deployment κ τ) : DeploymentInput κ τ → Prop
  | .node k i exchange => ∀ record ∈ (d.nodes k).request (cfg k) i,
      ∀ orders ∈ exchange.arrival,
        (Broker.createPodTraffic orders.podTraffic d.db.podTraffic record.row).2 = .ok
  | _ => True

instance (d : Deployment κ τ) (i : DeploymentInput κ τ) : Decidable (d.Accepts cfg i) :=
  match i with
  | .node k i exchange => inferInstanceAs (Decidable (∀ record ∈ (d.nodes k).request (cfg k) i,
      ∀ orders ∈ exchange.arrival,
        (Broker.createPodTraffic orders.podTraffic d.db.podTraffic record.row).2 = .ok))
  | .restart _ | .other .. => inferInstanceAs (Decidable True)

section Steps

variable {cfg} {d : Deployment κ τ}

/-- A node goes on with the answer to its request. -/
theorem nodes_step_self (k : κ) (i : NodeInput τ) (exchange : Exchange) :
    (d.step cfg (.node k i exchange)).nodes k
      = (d.nodes k).step (cfg k) (i.withSent (d.exchanged cfg k i exchange).2) :=
  Function.update_self ..

theorem nodes_step_other {k k' : κ} (h : k' ≠ k) (i : NodeInput τ) (exchange : Exchange) :
    (d.step cfg (.node k i exchange)).nodes k' = d.nodes k' :=
  Function.update_of_ne h ..

/-- A controller that starts again has the state of the start. -/
theorem nodes_restart (k k' : κ) :
    (d.step cfg (.restart k)).nodes k' = if k' = k then .start τ else d.nodes k' := by
  by_cases h : k' = k
  · rw [if_pos h, h]
    exact Function.update_self ..
  · rw [if_neg h]
    exact Function.update_of_ne h ..

/-- The other requests leave the traffic table alone. -/
theorem podTraffic_other (cfg : κ → NodeConfig) (d : Deployment κ τ) (orders : Broker.Orders)
    (post : OtherPost) : (d.step cfg (.other orders post)).db.podTraffic = d.db.podTraffic := by
  cases post <;> rfl

/-- Rows stay, and one is new at most: that of the record that is posted. -/
theorem mem_podTraffic_step {i : DeploymentInput κ τ} {row : Broker.PodTraffic}
    (h : row ∈ (d.step cfg i).db.podTraffic) :
    row ∈ d.db.podTraffic ∨ ∃ k input exchange record, i = .node k input exchange
      ∧ (d.nodes k).request (cfg k) input = some record ∧ (∀ err, exchange ≠ .lost err)
      ∧ row = record.row := by
  cases i with
  | restart k => exact .inl h
  | other orders post => exact .inl (podTraffic_other cfg d orders post ▸ h)
  | node k input exchange =>
    have htable : row ∈ (d.exchanged cfg k input exchange).1.podTraffic := h
    rw [podTraffic_exchanged] at htable
    cases hrequest : (d.nodes k).request (cfg k) input with
    | none => exact .inl (by simpa [hrequest] using htable)
    | some record =>
      -- a request that is lost stores nothing; one whose answer is lost may have
      cases exchange with
      | lost err => exact .inl (by simpa [hrequest] using htable)
      | unanswered orders err =>
        simp only [hrequest] at htable
        exact (Broker.mem_createPodTraffic htable).imp_right fun heq =>
          ⟨k, input, _, record, rfl, hrequest, by simp, heq⟩
      | answered orders =>
        simp only [hrequest] at htable
        exact (Broker.mem_createPodTraffic htable).imp_right fun heq =>
          ⟨k, input, _, record, rfl, hrequest, by simp, heq⟩

end Steps

/-! ## Where the rows come from

Backwards, from a row of the table to the probe. The invariant `Sourced` ties what waits on a node,
what was observed there and what is in the table to what has happened before.
-/

section Sound

variable {cfg}

/-- What is delivered was observed. -/
theorem observes_of_delivers {inputs : List (DeploymentInput κ τ)} {k : κ} {o : Observation τ}
    (h : Occurs (Deployment.step cfg) (Delivers cfg k o) start inputs) :
    Occurs (Deployment.step cfg) (Observes k o) start inputs := by
  refine h.imp fun d i h => ?_
  cases i with
  | node k' i exchange => exact ⟨h.1, h.2.1⟩
  | restart k' => exact h
  | other orders post => exact h

/-- What waits on every node, and what was observed there, has been emitted and registered there,
and every row is the record of what was observed. -/
structure Sourced (cfg : κ → NodeConfig) (inputs : List (DeploymentInput κ τ))
    (d : Deployment κ τ) : Prop where
  nodes : ∀ k, ComesFrom (fun tag data => Occurs (step cfg) (Emits cfg k tag data) start inputs)
    (fun inum podInspect => Occurs (step cfg) (Registers cfg k inum podInspect) start inputs)
    (d.nodes k)
  observed : ∀ k o, Occurs (step cfg) (Observes k o) start inputs →
    Occurs (step cfg) (Emits cfg k o.tag o.data) start inputs
      ∧ Occurs (step cfg) (Registers cfg k o.data.inum o.podInspect) start inputs
  rows : ∀ row ∈ d.db.podTraffic, ∃ k o stamp, Occurs (step cfg) (Delivers cfg k o) start inputs
    ∧ ¬ o.Own (cfg k).endian ∧ row = (o.record (cfg k).endian stamp).row

/-- What is taken up was emitted and registered before. -/
theorem Sourced.of_observes {inputs : List (DeploymentInput κ τ)} {d : Deployment κ τ}
    (hd : Sourced cfg inputs d) {k : κ} {i : NodeInput τ} {o : Observation τ} {stamp : Stamp}
    (h : (d.nodes k).observes i = some (o, stamp)) :
    Occurs (step cfg) (Emits cfg k o.tag o.data) start inputs
      ∧ Occurs (step cfg) (Registers cfg k o.data.inum o.podInspect) start inputs := by
  obtain ⟨-, n, sent, -, hevent, hpod⟩ := observes_eq_some_iff.mp h
  exact ⟨(hd.nodes k).networkEvents _ (List.mem_of_getElem? hevent),
    (hd.nodes k).entries _ _ hpod⟩

/-- **One step.** What a node waits for or observes was emitted and registered there before, and a
new row is the record of what the step delivers. -/
theorem Sourced.step {inputs : List (DeploymentInput κ τ)}
    (hd : Sourced cfg inputs (run (step cfg) start inputs)) (i : DeploymentInput κ τ) :
    Sourced cfg (inputs ++ [i]) ((run (Deployment.step cfg) start inputs).step cfg i) where
  nodes k := by
    have hold : ComesFrom
        (fun tag data =>
          Occurs (Deployment.step cfg) (Emits cfg k tag data) start (inputs ++ [i]))
        (fun inum podInspect =>
          Occurs (Deployment.step cfg) (Registers cfg k inum podInspect) start (inputs ++ [i]))
        ((run (Deployment.step cfg) start inputs).nodes k) :=
      (hd.nodes k).mono (fun _ _ h => h.append _) fun _ _ h => h.append _
    cases i with
    | restart k' =>
      rw [nodes_restart]
      split
      · exact comesFrom_start
      · exact hold
    | other orders post => exact hold
    | node k' input exchange =>
      by_cases hk : k = k'
      · subst hk
        rw [nodes_step_self]
        -- the answer does not matter for what is emitted or registered
        refine hold.step (fun tag data h => occurs_snoc.mpr (.inr ⟨rfl, ?_⟩))
          fun inum podInspect h => occurs_snoc.mpr (.inr ⟨rfl, ?_⟩)
        · cases input <;> exact h
        · cases input <;> exact h
      · rw [nodes_step_other hk]
        exact hold
  observed k o h := by
    rcases occurs_snoc.mp h with h | h
    · exact (hd.observed k o h).imp (·.append _) (·.append _)
    · cases i with
      | node k' input exchange =>
        obtain ⟨rfl, stamp, hobserves⟩ := h
        exact (hd.of_observes hobserves).imp (·.append _) (·.append _)
      | restart k' => exact h.elim
      | other orders post => exact h.elim
  rows row hrow := by
    rcases mem_podTraffic_step hrow with
      hrow | ⟨k, input, exchange, record, rfl, hrequest, harrives, rfl⟩
    · obtain ⟨k, o, stamp, hdelivers, hown, rfl⟩ := hd.rows row hrow
      exact ⟨k, o, stamp, hdelivers.append _, hown, rfl⟩
    · obtain ⟨o, stamp, hobserves, hown, -, rfl⟩ := request_eq_some_iff.mp hrequest
      exact ⟨k, o, stamp, occurs_snoc.mpr (.inr ⟨rfl, ⟨stamp, hobserves⟩, fun _ => harrives⟩),
        hown, rfl⟩

/-- So it is after any run. -/
theorem sourced_run (cfg : κ → NodeConfig) (inputs : List (DeploymentInput κ τ)) :
    Sourced cfg inputs (run (Deployment.step cfg) start inputs) := by
  refine run_induction ?_ (fun inputs i hd => hd.step i) inputs
  exact
    { nodes := fun k => comesFrom_start
      observed := fun k o h => h.elim
      rows := fun row h => by cases h }

/-- **Nothing is in the table that no probe has seen** and no request has brought there. -/
theorem rows_sound (cfg : κ → NodeConfig) (inputs : List (DeploymentInput κ τ)) :
    ∀ row ∈ (run (Deployment.step cfg) start inputs).db.podTraffic, ∃ k o stamp,
      row = (o.record (cfg k).endian stamp).row ∧ ¬ o.Own (cfg k).endian
      ∧ Occurs (Deployment.step cfg) (Delivers cfg k o) start inputs
      ∧ Occurs (Deployment.step cfg) (Emits cfg k o.tag o.data) start inputs
      ∧ Occurs (Deployment.step cfg) (Registers cfg k o.data.inum o.podInspect) start inputs := by
  intro row hrow
  have hd := sourced_run cfg inputs
  obtain ⟨k, o, stamp, hdelivers, hown, heq⟩ := hd.rows row hrow
  exact ⟨k, o, stamp, heq, hown, hdelivers, hd.observed k o (observes_of_delivers hdelivers)⟩

end Sound

/-! ## What the table has of what was observed

Forwards, from an event that was handled to the table. The invariant `Kept` says that the table has
the key of everything that was delivered, and of everything that a node believes to have delivered.
-/

section Complete

variable {cfg} {d : Deployment κ τ}

/-- Whatever is posted under the key will be dropped. -/
def Has (d : Deployment κ τ) (key : TrafficKey) : Prop :=
  Covers Broker.hides IsEventRow rowKey d.db.podTraffic key

/-- An accepted request offers its record to the table, whether it is answered or not. -/
theorem podTraffic_of_accepts {k : κ} {i : NodeInput τ} {exchange : Exchange}
    (hok : d.Accepts cfg (.node k i exchange)) {record : Controller.PodTraffic}
    (hrequest : (d.nodes k).request (cfg k) i = some record)
    (harrives : ∀ err, exchange ≠ .lost err) :
    (d.step cfg (.node k i exchange)).db.podTraffic
      = offer Broker.hides d.db.podTraffic record.row := by
  have haccepted := hok record hrequest
  show (d.exchanged cfg k i exchange).1.podTraffic = _
  rw [podTraffic_exchanged, hrequest]
  cases exchange with
  | lost err => exact absurd rfl (harrives err)
  | unanswered orders err => exact createPodTraffic_of_ok (haccepted orders rfl)
  | answered orders => exact createPodTraffic_of_ok (haccepted orders rfl)

/-- Without a request that arrives the table stays as it is. -/
theorem podTraffic_of_not_posted {k : κ} {i : NodeInput τ} {exchange : Exchange}
    (h : (d.nodes k).request (cfg k) i = none ∨ ∃ err, exchange = .lost err) :
    (d.step cfg (.node k i exchange)).db.podTraffic = d.db.podTraffic := by
  show (d.exchanged cfg k i exchange).1.podTraffic = _
  rw [podTraffic_exchanged]
  rcases h with h | ⟨err, rfl⟩
  · rw [h]
  · cases (d.nodes k).request (cfg k) i <;> rfl

/-- What the table has it keeps. -/
theorem Has.step {key : TrafficKey} (h : d.Has key) {i : DeploymentInput κ τ}
    (hok : d.Accepts cfg i) : (d.step cfg i).Has key := by
  unfold Has at h ⊢
  cases i with
  | restart k => exact h
  | other orders post =>
    rw [podTraffic_other]
    exact h
  | node k i exchange =>
    cases hrequest : (d.nodes k).request (cfg k) i with
    | none =>
      rw [podTraffic_of_not_posted (.inl hrequest)]
      exact h
    | some record =>
      -- a request that arrives offers a row, and a row that is there stays
      by_cases hlost : ∃ err, exchange = .lost err
      · rw [podTraffic_of_not_posted (.inr hlost)]
        exact h
      · rw [podTraffic_of_accepts hok hrequest (not_exists.mp hlost)]
        exact h.offer _

/-- The broker has what reaches it. -/
theorem has_of_posted {k : κ} {i : NodeInput τ} {exchange : Exchange}
    (hok : d.Accepts cfg (.node k i exchange)) {o : Observation τ} {stamp : Stamp}
    (hrequest : (d.nodes k).request (cfg k) i = some (o.record (cfg k).endian stamp))
    (harrives : ∀ err, exchange ≠ .lost err) :
    (d.step cfg (.node k i exchange)).Has (o.key (cfg k).endian) := by
  unfold Has
  rw [podTraffic_of_accepts hok hrequest harrives]
  exact covers_offer absorbs_hides ⟨(cfg k).endian, stamp, o.data, o.podInspect, rfl⟩

/-- The table has every key that some node has cached, and of every event whose request was not
lost. -/
structure Kept (cfg : κ → NodeConfig) (inputs : List (DeploymentInput κ τ))
    (d : Deployment κ τ) : Prop where
  cached : ∀ k, ∀ key ∈ (d.nodes k).handler.cache, d.Has key
  delivered : ∀ k o, ¬ o.Own (cfg k).endian →
    Occurs (step cfg) (Delivers cfg k o) start inputs → d.Has (o.key (cfg k).endian)

/-- A key is new to a cache only after an answer, and then the broker has it; and what the broker
has it keeps. -/
theorem Kept.cached_step {inputs : List (DeploymentInput κ τ)} (hd : Kept cfg inputs d)
    {i : DeploymentInput κ τ} (hok : d.Accepts cfg i) (k : κ) :
    ∀ key ∈ ((d.step cfg i).nodes k).handler.cache, (d.step cfg i).Has key := by
  intro key hkey
  cases i with
  | other orders post => exact (hd.cached k key hkey).step hok
  | restart k' =>
    rw [nodes_restart] at hkey
    split at hkey
    · cases hkey
    · exact (hd.cached k key hkey).step hok
  | node k' i exchange =>
    by_cases hk : k = k'
    · subst hk
      rw [nodes_step_self] at hkey
      -- the key was cached before, or with the answer that is heard now
      rcases mem_cache_step hkey with hkey | ⟨hsent, o, stamp, hobserves, hown, hnew, rfl⟩
      · exact (hd.cached k key hkey).step hok
      · exact has_of_posted hok (request_eq_some_iff.mpr ⟨o, stamp, hobserves, hown, hnew, rfl⟩)
          (answered_of_isOk cfg hsent)
    · rw [nodes_step_other hk] at hkey
      exact (hd.cached k key hkey).step hok

/-- **One step.** An event is delivered with its request, or without one if its key is cached, and
then the table has the key already. -/
theorem Kept.step {inputs : List (DeploymentInput κ τ)}
    (hd : Kept cfg inputs (run (step cfg) start inputs)) {i : DeploymentInput κ τ}
    (hok : (run (step cfg) start inputs).Accepts cfg i) :
    Kept cfg (inputs ++ [i]) ((run (Deployment.step cfg) start inputs).step cfg i) where
  cached := hd.cached_step hok
  delivered k o hown h := by
    rcases occurs_snoc.mp h with h | h
    · exact (hd.delivered k o hown h).step hok
    · cases i with
      | restart k' => exact h.elim
      | other orders post => exact h.elim
      | node k' i exchange =>
        obtain ⟨rfl, ⟨stamp, hobserves⟩, harrives⟩ := h
        by_cases hcached : o.key (cfg k').endian
            ∈ ((run (Deployment.step cfg) start inputs).nodes k').handler.cache
        · -- nothing is posted, and nothing needs to be
          exact (hd.cached k' _ hcached).step hok
        · have hrequest := request_eq_some_iff.mpr ⟨o, stamp, hobserves, hown, hcached, rfl⟩
          exact has_of_posted hok hrequest (harrives (by simp [hrequest]))

/-- So it is after any run in which the broker stores what it is given. -/
theorem kept_run {inputs : List (DeploymentInput κ τ)}
    (hok : Meets (Deployment.step cfg) (fun d i => Accepts cfg d i) start inputs) :
    Kept cfg inputs (run (Deployment.step cfg) start inputs) := by
  induction inputs using List.reverseRecOn with
  | nil =>
    exact
      { cached := fun k key h => by cases h
        delivered := fun k o _ h => h.elim }
  | append_singleton inputs i ih =>
    obtain ⟨hbefore, hok, -⟩ := meets_append.mp hok
    rw [run_snoc]
    exact (ih hbefore).step hok

/-! ## Which records can be told from the others

The broker's query compares fewer columns than the key has. What it may leave out without harm is
what `Distinct` says.
-/

/-- The three probes make events of three kinds. -/
theorem knownKind_of_fire {host : Endian} {maps : NetworkMaps} {mem : Memory} {call : ProbeCall}
    {data : NetworkEventData} (h : (fire host maps mem call).2 = some data) : KnownKind data := by
  cases call with
  | udpSend sk =>
    rw [fire, traceUdpSend_eq] at h
    obtain ⟨-, h⟩ := Option.ite_none_right_eq_some.mp h
    obtain ⟨-, -, -, -, rfl⟩ := udpEvent_eq_some_iff.mp h
    exact .inr (.inr rfl)
  | connectExit tid ret =>
    cases hsk : maps.sockets.lookup tid with
    | none => simp [fire, tcpV4ConnectExit_of_none hsk] at h
    | some sk =>
      rw [fire, tcpV4ConnectExit_of_some hsk] at h
      obtain ⟨-, h⟩ := Option.ite_none_right_eq_some.mp h
      obtain ⟨-, -, -, -, rfl⟩ := connectEvent_eq_some_iff.mp h
      exact .inl rfl
  | acceptExit tid newSk =>
    cases hsk : maps.acceptedSockets.lookup tid with
    | none => simp [fire, tcpAcceptExit_of_none hsk] at h
    | some sk =>
      rw [fire, tcpAcceptExit_of_some hsk] at h
      obtain ⟨-, h⟩ := Option.ite_none_right_eq_some.mp h
      obtain ⟨-, -, rfl⟩ := acceptEvent_eq_some_iff.mp h
      exact .inr (.inl rfl)
  | connectEntry tid sk => cases h
  | acceptEntry tid sk => cases h

/-- So whatever is observed is of one of these. -/
theorem knownKind_of_observes {inputs : List (DeploymentInput κ τ)} {k : κ} {o : Observation τ}
    (h : Occurs (Deployment.step cfg) (Observes k o) start inputs) : KnownKind o.data := by
  have hemits := ((sourced_run cfg inputs).observed k o h).1
  have hkinds : Always (Deployment.step cfg) (fun _ => True) start inputs :=
    always_of_step trivial (fun _ _ _ => trivial) inputs
  obtain ⟨d, i, -, hemit⟩ := hemits.of_always hkinds
  cases i with
  | restart k' => exact hemit.elim
  | other orders post => exact hemit.elim
  | node k' input exchange =>
    obtain ⟨rfl, hemit⟩ := hemit
    cases input with
    | network tag mem call => exact knownKind_of_fire hemit.2.2.2
    | _ => exact hemit.elim

/-- No other pod was seen at the pod's address, nor a datagram from there to where a connection was
opened. -/
structure Distinct (cfg : κ → NodeConfig) (inputs : List (DeploymentInput κ τ)) (k : κ)
    (o : Observation τ) : Prop where
  pod : ∀ k' o', Occurs (Deployment.step cfg) (Observes k' o') start inputs →
    o'.podInspect.status.podIp = o.podInspect.status.podIp →
      o'.podInspect.status.podName = o.podInspect.status.podName
  datagram : ∀ k' o', Occurs (Deployment.step cfg) (Observes k' o') start inputs →
    o'.podInspect.status.podIp = o.podInspect.status.podIp → o'.data.kind = 3 →
      ¬ (o.data.kind = 1 ∧ peer (cfg k').endian o'.data = peer (cfg k).endian o.data
        ∧ o'.data.dport = o.data.dport)

/-- A port is told by its numeral. -/
theorem toString_port_inj {p q : UInt16} (h : toString p = toString q) : p = q :=
  UInt16.toNat_inj.mp (Nat.repr_injective h)

/-- Among records of connections, and datagrams told from them, the broker takes for the same what
has the same key. -/
theorem key_eq_of_hides {host host' : Endian} {stamp stamp' : Stamp} {o o' : Observation τ}
    (hkind : KnownKind o.data) (hkind' : KnownKind o'.data) (htcp : o.data.kind ≠ 3)
    (hpod : o'.podInspect.status.podIp = o.podInspect.status.podIp →
      o'.podInspect.status.podName = o.podInspect.status.podName)
    (hdatagram : o'.podInspect.status.podIp = o.podInspect.status.podIp → o'.data.kind = 3 →
      ¬ (o.data.kind = 1 ∧ peer host' o'.data = peer host o.data
        ∧ o'.data.dport = o.data.dport))
    (h : Broker.hides (o'.record host' stamp').row (o.record host stamp).row) :
    o'.key host' = o.key host := by
  have hprotocol : (classify o.data).protocol = "TCP" := by
    rcases hkind with hk | hk | hk
    · simp [classify, hk]
    · simp [classify, hk]
    · exact absurd hk htcp
  -- the five columns of the query for everything but UDP
  have hcolumns : o'.podInspect.status.podIp = o.podInspect.status.podIp
      ∧ toString (classify o'.data).podPort = toString (classify o.data).podPort
      ∧ (classify o'.data).trafficType = (classify o.data).trafficType
      ∧ ipv4String (fromBe host' o'.data.daddr) = ipv4String (fromBe host o.data.daddr)
      ∧ toString (classify o'.data).trafficInOutPort
        = toString (classify o.data).trafficInOutPort := by
    have hquery := h
    simp only [Broker.hides, Controller.PodTraffic.row, Observation.record, recordOf,
      hprotocol] at hquery
    simpa [Broker.bothPortsQuery, and_assoc] using hquery
  obtain ⟨hip, hpodPort, htype, hpeer, hport⟩ := hcolumns
  have hsame : (classify o'.data).protocol = (classify o.data).protocol := by
    rcases hkind' with hk' | hk' | hk'
    · rw [hprotocol]; simp [classify, hk']
    · rw [hprotocol]; simp [classify, hk']
    · -- a datagram is an egress record, as only an opened connection is
      have hopened : o.data.kind = 1 := by
        rcases hkind with hk | hk | hk
        · exact hk
        · simp [classify, hk, hk'] at htype
        · exact absurd hk htcp
      have hdport : o'.data.dport = o.data.dport :=
        toString_port_inj (by simpa [classify, hk', hopened] using hport)
      rw [ipv4String_fromBe, ipv4String_fromBe] at hpeer
      exact absurd ⟨hopened, hpeer, hdport⟩ (hdatagram hip hk')
  simp only [Observation.key, keyOf, recordOf, Controller.PodTraffic.key, Option.getD_some,
    TrafficKey.mk.injEq]
  exact ⟨hpod hip, hip, hpodPort, hpeer, hport, htype, hsame⟩

/-- **Every connection that was handled is in the table**, when the broker stores what it is given
and has no reason to take its record for another's. -/
theorem rows_complete {inputs : List (DeploymentInput κ τ)}
    (hok : Meets (Deployment.step cfg) (fun d i => Accepts cfg d i) start inputs) {k : κ}
    {o : Observation τ} (hdelivers : Occurs (Deployment.step cfg) (Delivers cfg k o) start inputs)
    (hown : ¬ o.Own (cfg k).endian) (htcp : o.data.kind ≠ 3) (hdistinct : Distinct cfg inputs k o) :
    ∃ row ∈ (run (Deployment.step cfg) start inputs).db.podTraffic,
      ∃ (k' : κ) (o' : Observation τ) (stamp : Stamp), row = (o'.record (cfg k').endian stamp).row
        ∧ o'.key (cfg k').endian = o.key (cfg k).endian := by
  have hobserves := observes_of_delivers hdelivers
  have hhas := (kept_run hok).delivered k o hown hdelivers
  -- a record of the event, whatever its id, would be dropped for a row
  obtain ⟨row, hrow, hhides⟩ := List.any_eq_true.mp
    (hhas (o.record (cfg k).endian ⟨"", 0⟩).row ⟨_, _, o.data, o.podInspect, rfl⟩ rfl)
  obtain ⟨k', o', stamp, rfl, -, hdelivers', -⟩ := rows_sound cfg inputs row hrow
  have hobserves' := observes_of_delivers hdelivers'
  refine ⟨_, hrow, k', o', stamp, rfl, ?_⟩
  exact key_eq_of_hides (knownKind_of_observes hobserves) (knownKind_of_observes hobserves') htcp
    (hdistinct.pod k' o' hobserves') (hdistinct.datagram k' o' hobserves') hhides

/-- **The table is what was observed and has arrived**, key by key: where the broker stores what it
is given and has no reason to take the records of a key for others. -/
theorem recorded_iff {inputs : List (DeploymentInput κ τ)}
    (hok : Meets (Deployment.step cfg) (fun d i => Accepts cfg d i) start inputs)
    {key : TrafficKey} (hkey : ∀ k (o : Observation τ), o.key (cfg k).endian = key →
      Occurs (Deployment.step cfg) (Delivers cfg k o) start inputs →
        o.data.kind ≠ 3 ∧ Distinct cfg inputs k o) :
    (∃ row ∈ (run (Deployment.step cfg) start inputs).db.podTraffic, rowKey row = key)
      ↔ ∃ k o, Occurs (Deployment.step cfg) (Delivers cfg k o) start inputs
        ∧ ¬ o.Own (cfg k).endian ∧ o.key (cfg k).endian = key := by
  constructor
  · rintro ⟨row, hrow, rfl⟩
    obtain ⟨k, o, stamp, rfl, hown, hdelivers, -⟩ := rows_sound cfg inputs row hrow
    exact ⟨k, o, hdelivers, hown, rfl⟩
  · rintro ⟨k, o, hdelivers, hown, rfl⟩
    obtain ⟨htcp, hdistinct⟩ := hkey k o rfl hdelivers
    obtain ⟨row, hrow, k', o', stamp, rfl, hsame⟩ :=
      rows_complete hok hdelivers hown htcp hdistinct
    exact ⟨_, hrow, hsame⟩

end Complete

/-! ## One connection -/

/-- A connection from 10.0.0.5 to 10.0.0.9, port 443. -/
def shopSock : Sock := ⟨6, 0x0500000a, 0x0900000a, 40000, 0xbb01⟩

def shopDetail : Broker.PodDetail := ⟨"web", "10.0.0.5", some "shop", some "app=web", 0⟩

/-- The pod `web` is registered and opens a connection; the record arrives, and its answer is
lost. -/
def oneConnection : List (DeploymentInput Unit Unit) :=
  [.node () (.apply shopPod fun _ => some 6) (.lost ""), .other .stored (.podSpec shopDetail),
    .node () .watch (.lost ""), .node () .watch (.lost ""), .node () .watch (.lost ""),
    .node () .receiveInode (.lost ""), .node () .updateSyscall (.lost ""),
    .node () (.network () (fun _ => shopSock) (.connectEntry 1 1)) (.lost ""),
    .node () (.network () (fun _ => shopSock) (.connectExit 1 0)) (.lost ""),
    .node () (.handleNetwork 0 ⟨"u1", 1⟩ (.error "")) (.unanswered .stored "timed out")]

def shopObservation : Observation Unit where
  tag := ()
  data := ⟨6, 0x0500000a, 16540, 0x0900000a, 443, 1⟩
  podInspect := ⟨⟨"web", some "shop", "10.0.0.5"⟩⟩

/-- The broker stores the record. -/
theorem accepts_oneConnection : Meets (step fun _ => shopConfig)
    (fun d i => Accepts (fun _ => shopConfig) d i) start oneConnection := by
  decide +kernel

/-- The last step is the handling of the event. -/
theorem observes_oneConnection :
    ((run (step fun _ => shopConfig) start (oneConnection.take 9)).nodes ()).observes
      (.handleNetwork 0 ⟨"u1", 1⟩ (.error "")) = some (shopObservation, ⟨"u1", 1⟩) := by
  rfl

/-- Its request is not lost, though its answer is. -/
theorem delivers_oneConnection :
    Occurs (step fun _ => shopConfig) (Delivers (fun _ => shopConfig) () shopObservation) start
      oneConnection := by
  have hsplit : oneConnection = oneConnection.take 9 ++ [_] := rfl
  rw [hsplit, occurs_snoc]
  exact .inr ⟨rfl, ⟨_, observes_oneConnection⟩, fun _ err h => by cases h⟩

/-- Nothing else is observed. -/
theorem eq_of_observes_oneConnection {k : Unit} {o : Observation Unit}
    (h : Occurs (step fun _ => shopConfig) (Observes k o) start oneConnection) :
    o = shopObservation := by
  have hsplit : oneConnection = oneConnection.take 9 ++ [_] := rfl
  rw [hsplit, occurs_snoc] at h
  rcases h with h | ⟨_, stamp, h⟩
  · simp [oneConnection, Occurs, Observes, Node.observes] at h
  · rw [observes_oneConnection] at h
    cases h
    rfl

/-- So there is no other record to take it for. -/
theorem distinct_oneConnection :
    Distinct (fun _ => shopConfig) oneConnection () shopObservation where
  pod k' o' h _ := by rw [eq_of_observes_oneConnection h]
  datagram k' o' h _ hkind := by
    rw [eq_of_observes_oneConnection h] at hkind
    exact absurd hkind (by decide)

/-- The record is in the table although the controller has not heard of it. -/
theorem recorded_iff_one_connection :
    ∃ row ∈ (run (step fun _ => shopConfig) start oneConnection).db.podTraffic,
      rowKey row = shopObservation.key .little :=
  (recorded_iff accepts_oneConnection fun k o _ hdelivers => by
      rw [eq_of_observes_oneConnection (observes_of_delivers hdelivers)]
      exact ⟨by decide, distinct_oneConnection⟩).mpr
    ⟨(), shopObservation, delivers_oneConnection, by decide +kernel, rfl⟩

end Deployment

end KubeGuardian.System
