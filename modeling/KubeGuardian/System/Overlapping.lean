import KubeGuardian.Broker.TrafficRace
import KubeGuardian.System.Fleet

/-!
# Requests that overlap at the broker

In `System.Fleet` a request is handled at the broker in one step. Here `create_pod_traffic` does it
statement by statement, and the statements of requests of any number of controllers mix, those of
requests whose sender has given up or started again among them.

* **`overlapping_refines`** — that changes how often a record is stored, and no more as far as
  `get_row` tells the records apart: to every run there is one of the deployment with the same pods,
  calls, restarts and other requests in the same order, whose nodes stand as these do and whose
  table has the same keys.
-/

namespace KubeGuardian.System

open Controller Lib

/-- What the handler of network events waits for: the answer to the request of a number, or to go
on with what it has heard. -/
inductive Asked where
  | waits (n : ℕ)
  | hears (sent : Sent)

def Asked.heard : Stamp × Asked → Option (Stamp × Sent)
  | (stamp, .hears sent) => some (stamp, sent)
  | (_, .waits _) => none

/-- The nodes with their tasks apart, the requests that have arrived with the place each has come
to, and the tables. -/
structure Overlapping (κ τ : Type*) where
  tasks : κ → Tasks τ
  /-- With the stamp of the record, where the handler of a node has a request to wait for. -/
  asked : κ → Option (Stamp × Asked)
  /-- The records of the requests that have reached the broker, by their numbers. -/
  arrived : List Broker.PodTraffic
  phase : ℕ → Broker.TrafficPhase
  db : Broker.Db

/-- What can happen next: a task that goes on; a request that is sent, and later heard of or given
up; the next statement of a request; a controller that starts again; another request. -/
inductive OverlappingInput (κ τ : Type*) where
  | task (k : κ) (i : TaskInput τ)
  | send (k : κ) (stamp : Stamp)
  | statement (n : ℕ) (order : Reordering Broker.PodTraffic)
  | hear (k : κ)
  | giveUp (k : κ) (stamp : Stamp) (err : String)
  | restart (k : κ)
  | other (orders : Broker.Orders) (post : OtherPost)

def OverlappingInput.heard {κ τ : Type*} : OverlappingInput κ τ → List (Heard κ τ)
  | .task k i => i.heard.map (.node k)
  | .restart k => [.restart k]
  | .other orders post => [.other orders post]
  | .send _ _ | .statement _ _ | .hear _ | .giveUp _ _ _ => []

namespace Overlapping

variable {κ τ : Type*} (cfg : κ → NodeConfig)

def start : Overlapping κ τ :=
  ⟨fun _ => .start τ, fun _ => none, [], fun _ => .lookup, ⟨[], [], [], []⟩⟩

/-- The next statement of the request of the number, if it has arrived. -/
def serve (x : Overlapping κ τ) (n : ℕ) (order : Reordering Broker.PodTraffic) :
    Overlapping κ τ :=
  match x.arrived[n]? with
  | none => x
  | some w =>
    let (podTraffic, phase) := Broker.trafficStatement w order x.db.podTraffic (x.phase n)
    { x with phase := Function.update x.phase n phase, db := { x.db with podTraffic } }

section Steps

variable [DecidableEq κ]

def goOn (x : Overlapping κ τ) (k : κ) (i : TaskInput τ) : Overlapping κ τ :=
  { x with tasks := Function.update x.tasks k ((x.tasks k).step (cfg k) i) }

/-- The handler of network events stays while it has a request to send or to wait for. -/
def goOnNetwork (x : Overlapping κ τ) (k : κ) (stamp : Stamp) : Overlapping κ τ :=
  match x.asked k with
  | some (stamp, .hears sent) =>
    { x.goOn cfg k (.network stamp sent) with asked := Function.update x.asked k none }
  | some (_, .waits _) => x
  | none =>
    if ((x.tasks k).due (cfg k) stamp).isSome then x
    else x.goOn cfg k (.network stamp (.error ""))

def ask (x : Overlapping κ τ) (k : κ) (stamp : Stamp) (asked : Asked) : Overlapping κ τ :=
  { x with asked := Function.update x.asked k (some (stamp, asked)) }

/-- The request of the handler reaches the broker. -/
def send (x : Overlapping κ τ) (k : κ) (stamp : Stamp) : Overlapping κ τ :=
  match x.asked k, (x.tasks k).due (cfg k) stamp with
  | none, some record =>
    { x.ask k stamp (.waits x.arrived.length) with
      arrived := x.arrived ++ [record.row]
      phase := Function.update x.phase x.arrived.length .lookup }
  | _, _ => x

/-- The answer reaches the handler. -/
def hear (x : Overlapping κ τ) (k : κ) : Overlapping κ τ :=
  match x.asked k with
  | some (stamp, .waits n) =>
    match x.phase n with
    | .replied reply => x.ask k stamp (.hears (answered reply))
    | _ => x
  | _ => x

/-- The request is lost before it arrives, or the handler hears no more of it. -/
def giveUp (x : Overlapping κ τ) (k : κ) (stamp : Stamp) (err : String) : Overlapping κ τ :=
  match x.asked k with
  | some (stamp, .waits _) => x.ask k stamp (.hears (.error err))
  | some (_, .hears _) => x
  | none =>
    if ((x.tasks k).due (cfg k) stamp).isSome then x.ask k stamp (.hears (.error err)) else x

/-- One step of a task, of a request, of its answer, a restart, or a post of something else. -/
def step (x : Overlapping κ τ) : OverlappingInput κ τ → Overlapping κ τ
  | .task k (.network stamp _) => x.goOnNetwork cfg k stamp
  | .task k i => x.goOn cfg k i
  | .send k stamp => x.send cfg k stamp
  | .statement n order => x.serve n order
  | .hear k => x.hear k
  | .giveUp k stamp err => x.giveUp cfg k stamp err
  | .restart k =>
    { x with
      tasks := Function.update x.tasks k (.start τ)
      asked := Function.update x.asked k none }
  | .other orders post => { x with db := (Broker.handle x.db orders post.post).1 }

end Steps

/-! ## Where the requests stand

What is to be known of a state to compare it with one of the deployment: which requests somebody
still waits for, and which records have reached the broker.
-/

/-- What the handler of a node has heard. -/
def answers (x : Overlapping κ τ) (k : κ) : Option (Stamp × Sent) := (x.asked k).bind Asked.heard

/-- The handler of the node waits for the request of the number. -/
def Awaits (x : Overlapping κ τ) (k : κ) (n : ℕ) : Prop :=
  ∃ stamp, x.asked k = some (stamp, .waits n)

/-- The broker is done with a request of the record. -/
def Replied (x : Overlapping κ τ) (w : Broker.PodTraffic) : Prop :=
  ∃ n, x.arrived[n]? = some w ∧ ∃ reply, x.phase n = .replied reply

/-- Nobody waits for a request of the record any more. -/
def Told (x : Overlapping κ τ) (w : Broker.PodTraffic) : Prop :=
  ∃ n, x.arrived[n]? = some w ∧ ∀ k, ¬ x.Awaits k n

/-- The requests have ids of their own. -/
def Distinct (x : Overlapping κ τ) : Prop := (x.arrived.map (·.uuid)).Nodup

variable {cfg} {x : Overlapping κ τ}

/-- A handler with an answer in hand, or without a request, waits for none. -/
theorem not_awaits {k : κ} {asked : Option (Stamp × Asked)} (h : x.asked k = asked)
    (hasked : ∀ stamp n, asked ≠ some (stamp, .waits n)) (n : ℕ) : ¬ x.Awaits k n := by
  rintro ⟨stamp, hwaits⟩
  exact hasked stamp n (h.symm.trans hwaits)

/-- Where the ids differ, an id belongs to one request. -/
theorem Distinct.eq_of_uuid (h : x.Distinct) {m n : ℕ} {v w : Broker.PodTraffic}
    (hm : x.arrived[m]? = some v) (hn : x.arrived[n]? = some w) (huuid : v.uuid = w.uuid) :
    m = n := by
  have hm' : (x.arrived.map (·.uuid))[m]? = some w.uuid := by
    rw [List.getElem?_map, hm, Option.map_some, huuid]
  have hn' : (x.arrived.map (·.uuid))[n]? = some w.uuid := by
    rw [List.getElem?_map, hn, Option.map_some]
  obtain ⟨hlt, -⟩ := List.getElem?_eq_some_iff.mp hm'
  exact (List.getElem?_inj hlt h).mp (hm'.trans hn'.symm)

/-! ## What holds of every state

The invariant of the overlapping system by itself, with no deployment to compare it with.
-/

/-- Who waits has the record of its request still to post, and the table has the records of the
requests that are done, each at least once or in the like of it. -/
structure Coherent (cfg : κ → NodeConfig) (x : Overlapping κ τ) : Prop where
  tasks : ∀ k, (x.tasks k).Coherent (cfg k)
  waits : ∀ k stamp (n : ℕ), x.asked k = some (stamp, .waits n) →
    ∃ record, (x.tasks k).due (cfg k) stamp = some record ∧ x.arrived[n]? = some record.row
  apart : ∀ k k' n, x.Awaits k n → x.Awaits k' n → k' = k
  events : ∀ (n : ℕ) w, x.arrived[n]? = some w → IsEventRow w
  udp : ∀ (n : ℕ) w, x.arrived[n]? = some w → x.phase n = .secondLookup → w.ipProtocol = some "UDP"
  replies : ∀ (n : ℕ) w reply, x.arrived[n]? = some w → x.phase n = .replied reply → reply = .ok
  table : Keeps Broker.hides x.db.podTraffic x.Replied

theorem coherent_start : Coherent cfg (start : Overlapping κ τ) where
  tasks _ := Tasks.coherent_start
  waits _ _ _ h := by cases h
  apart _ _ _ h := by
    obtain ⟨_, h⟩ := h
    cases h
  events _ _ h := by cases h
  udp _ _ h := by cases h
  replies _ _ _ h := by cases h
  table := Keeps.nil.congr fun w => by simp [Replied, start]

/-! ## Statements

A statement of some request changes its phase and the table, and nothing on any node.
-/

/-- A statement of a request leaves another one to come, or answers that all is well. -/
theorem Coherent.statement (hx : x.Coherent cfg) {n : ℕ} {w : Broker.PodTraffic}
    (hw : x.arrived[n]? = some w) (hopen : ∀ reply, x.phase n ≠ .replied reply)
    {next : Broker.TrafficPhase} (hudp : next = .secondLookup → w.ipProtocol = some "UDP")
    (hok : ∀ reply, next = .replied reply → reply = .ok) {podTraffic : List Broker.PodTraffic}
    (htable : Keeps Broker.hides podTraffic
      fun v => x.Replied v ∨ ((∃ reply, next = .replied reply) ∧ v = w)) :
    Coherent cfg
      { x with phase := Function.update x.phase n next, db := { x.db with podTraffic } } := by
  -- a request that is at `phase` afterwards was there before, or is the one served
  have hphase : ∀ {m : ℕ} {v phase}, x.arrived[m]? = some v →
      Function.update x.phase n next m = phase →
        (x.phase m = phase ∧ m ≠ n) ∨ (m = n ∧ v = w ∧ next = phase) := by
    intro m v phase hm h
    by_cases hmn : m = n
    · subst hmn
      rw [Function.update_self] at h
      exact .inr ⟨rfl, Option.some.inj (hm.symm.trans hw), h⟩
    · rw [Function.update_of_ne hmn] at h
      exact .inl ⟨h, hmn⟩
  refine { hx with udp := ?_, replies := ?_, table := ?_ }
  · intro m v hm h
    rcases hphase hm h with ⟨h, -⟩ | ⟨-, rfl, h⟩
    · exact hx.udp m v hm h
    · exact hudp h
  · intro m v reply hm h
    rcases hphase hm h with ⟨h, -⟩ | ⟨-, -, h⟩
    · exact hx.replies m v reply hm h
    · exact hok reply h
  · -- the rows kept are those of the requests replied to, now with this one
    refine htable.congr fun v => ⟨?_, ?_⟩
    · rintro ⟨m, hm, reply, h⟩
      rcases hphase hm h with ⟨h, -⟩ | ⟨-, hv, h⟩
      · exact .inl ⟨m, hm, reply, h⟩
      · exact .inr ⟨⟨reply, h⟩, hv⟩
    · rintro (⟨m, hm, reply, h⟩ | ⟨⟨reply, h⟩, rfl⟩)
      · have hmn : m ≠ n := by
          rintro rfl
          exact hopen reply h
        exact ⟨m, hm, reply, (Function.update_of_ne hmn _ _).trans h⟩
      · exact ⟨n, hw, reply, (Function.update_self _ _ _).trans h⟩

/-- What has reached the broker is the record of an event, and the lookup of such a record finds a
row like it. -/
theorem Coherent.hides_self (hx : x.Coherent cfg) {n : ℕ} {w : Broker.PodTraffic}
    (hw : x.arrived[n]? = some w) : Broker.hides w w :=
  absorbs_hides.self (hx.events n w hw) (hx.events n w hw) rfl

/-- **A statement keeps the state coherent.** An insert puts a row into the table whose request is
answered from then on, and no other request has its id. -/
theorem Coherent.serve (hx : x.Coherent cfg) (hdistinct : x.Distinct) (n : ℕ)
    (order : Reordering Broker.PodTraffic) : (x.serve n order).Coherent cfg := by
  unfold Overlapping.serve
  cases hw : x.arrived[n]? with
  | none => exact hx
  | some w =>
    dsimp only
    by_cases hopen : ∀ reply, x.phase n ≠ .replied reply
    · -- a look-up that finds nothing, one that finds a row, the insert, and the insert that fails
      rcases Broker.trafficStatement_outcome (o := order) (t := x.db.podTraffic) hopen
          (hx.udp n w hw) with
        ⟨next, hnext, hgoesOn, hudp⟩ | ⟨hnext, hfound⟩ | ⟨hnext, -⟩ | ⟨-, -, row, hrow, huuid⟩
      · rw [hnext]
        exact hx.statement hw hopen hudp (fun reply h => (hgoesOn reply h).elim)
          (hx.table.congr fun v => by simp [hgoesOn])
      · rw [hnext]
        refine hx.statement hw hopen ?_ ?_ ((hx.table.drop hfound).congr fun v => ?_)
        · exact nofun
        · exact fun reply h => (Broker.TrafficPhase.replied.inj h).symm
        · simp
      · rw [hnext]
        refine hx.statement hw hopen ?_ ?_
          ((hx.table.snoc (hx.hides_self hw)).congr fun v => ?_)
        · exact nofun
        · exact fun reply h => (Broker.TrafficPhase.replied.inj h).symm
        · simp
      · -- the row of that id would be the request's own
        obtain ⟨m, hm, reply, hreplied⟩ := hx.table.sound row hrow
        obtain rfl := hdistinct.eq_of_uuid hm hw huuid
        exact (hopen reply hreplied).elim
    · -- a request replied to takes no further statement
      push Not at hopen
      obtain ⟨reply, hreplied⟩ := hopen
      rw [hreplied, Broker.trafficStatement]
      dsimp only
      rw [← hreplied, Function.update_eq_self]
      exact hx

/-! ## Nodes

What is done on a node leaves the requests at the broker alone, apart from those that it makes or
stops waiting for.
-/

variable [DecidableEq κ]

/-- Something is done on one node, which waits for no other request than before. -/
theorem Coherent.at (hx : x.Coherent cfg) (k : κ) {t : Tasks τ} {asked : Option (Stamp × Asked)}
    (ht : t.Coherent (cfg k))
    (hwaits : ∀ stamp n, asked = some (stamp, .waits n) → x.asked k = some (stamp, .waits n)
      ∧ ∀ record, (x.tasks k).due (cfg k) stamp = some record → t.due (cfg k) stamp = some record) :
    Coherent cfg
      { x with
        tasks := Function.update x.tasks k t
        asked := Function.update x.asked k asked } := by
  -- who waits for a reply afterwards waited for it before
  have hbefore : ∀ k' stamp n, Function.update x.asked k asked k' = some (stamp, .waits n) →
      x.asked k' = some (stamp, .waits n) := by
    intro k' stamp n h
    by_cases hk : k' = k
    · subst hk
      rw [Function.update_self] at h
      exact (hwaits stamp n h).1
    · rwa [Function.update_of_ne hk] at h
  refine { hx with tasks := ?_, waits := ?_, apart := ?_ }
  · exact (Function.forall_update_iff x.tasks fun k' t => t.Coherent (cfg k')).mpr
      ⟨ht, fun k' _ => hx.tasks k'⟩
  · intro k' stamp n h
    obtain ⟨record, hdue, harrived⟩ := hx.waits k' stamp n (hbefore k' stamp n h)
    refine ⟨record, ?_, harrived⟩
    show (Function.update x.tasks k t k').due (cfg k') stamp = some record
    by_cases hk : k' = k
    · subst hk
      have hasked : asked = some (stamp, .waits n) := by simpa using h
      rw [Function.update_self]
      exact (hwaits stamp n hasked).2 record hdue
    · rw [Function.update_of_ne hk]
      exact hdue
  · -- no two nodes wait for one reply
    rintro k₁ k₂ n ⟨stamp, h⟩ ⟨stamp', h'⟩
    exact hx.apart k₁ k₂ n ⟨stamp, hbefore k₁ stamp n h⟩ ⟨stamp', hbefore k₂ stamp' n h'⟩

/-- A task goes on that does not touch the request of its node. -/
theorem Coherent.goOn (hx : x.Coherent cfg) (k : κ) {i : TaskInput τ}
    (hi : (∀ stamp sent, i ≠ .network stamp sent) ∨ ∀ n, ¬ x.Awaits k n) :
    (x.goOn cfg k i).Coherent cfg := by
  have hsame : x.goOn cfg k i = { x with
      tasks := Function.update x.tasks k ((x.tasks k).step (cfg k) i)
      asked := Function.update x.asked k (x.asked k) } := by
    rw [Function.update_eq_self]
    rfl
  rw [hsame]
  refine hx.at k ((hx.tasks k).step i) fun stamp n h => ⟨h, fun record hdue => ?_⟩
  rcases hi with hi | hi
  · exact Tasks.due_step (hx.tasks k) hdue hi
  · exact absurd ⟨stamp, h⟩ (hi n)

/-- The answer comes to the handler that waits for it. -/
theorem Coherent.hears (hx : x.Coherent cfg) (k : κ) (stamp : Stamp) (sent : Sent) :
    (x.ask k stamp (.hears sent)).Coherent cfg := by
  have hsame : x.ask k stamp (.hears sent) = { x with
      tasks := Function.update x.tasks k (x.tasks k)
      asked := Function.update x.asked k (some (stamp, .hears sent)) } := by
    rw [Function.update_eq_self]
    rfl
  rw [hsame]
  exact hx.at k (hx.tasks k) fun stamp n h => by cases h

/-- A place in a list with one more at its end is an old one, or the new one. -/
theorem getElem?_snoc {α : Type*} {l : List α} {a b : α} {n : ℕ} :
    (l ++ [a])[n]? = some b ↔ l[n]? = some b ∨ n = l.length ∧ b = a := by
  rcases Nat.lt_trichotomy n l.length with hn | rfl | hn
  · rw [List.getElem?_append_left hn]
    simp [hn.ne]
  · simp [eq_comm]
  · simp [hn.le, hn.ne', hn]

/-- A request gets a number that none has had. -/
theorem Coherent.send (hx : x.Coherent cfg) (k : κ) (stamp : Stamp) :
    (x.send cfg k stamp).Coherent cfg := by
  unfold Overlapping.send
  split
  · next record hasked hdue =>
    -- the new request gets the next number, so the phases of the others stand
    have hphase : ∀ {n : ℕ} {w}, x.arrived[n]? = some w →
        Function.update x.phase x.arrived.length .lookup n = x.phase n :=
      fun h => Function.update_of_ne (List.getElem?_eq_some_iff.mp h).1.ne _ _
    have hawaits : ∀ {k' stamp' n},
        Function.update x.asked k (some (stamp, .waits x.arrived.length)) k'
            = some (stamp', .waits n) →
          x.asked k' = some (stamp', .waits n)
          ∨ (k' = k ∧ stamp' = stamp ∧ n = x.arrived.length) := by
      intro k' stamp' n h
      by_cases hk : k' = k
      · subst hk
        rw [Function.update_self] at h
        cases h
        exact .inr ⟨rfl, rfl, rfl⟩
      · rw [Function.update_of_ne hk] at h
        exact .inl h
    -- nobody waits for a request that had not arrived
    have hearlier : ∀ {k' stamp'}, x.asked k' ≠ some (stamp', .waits x.arrived.length) := by
      intro k' stamp' h
      obtain ⟨_, -, harrived⟩ := hx.waits k' stamp' _ h
      simp at harrived
    -- field by field, the earlier requests apart from the new one
    refine ⟨hx.tasks, ?_, ?_, ?_, ?_, ?_, ?_⟩
    · intro k' stamp' n h
      rcases hawaits h with h | ⟨rfl, rfl, rfl⟩
      · obtain ⟨record', hdue', harrived⟩ := hx.waits k' stamp' n h
        exact ⟨record', hdue', getElem?_snoc.mpr (.inl harrived)⟩
      · exact ⟨record, hdue, getElem?_snoc.mpr (.inr ⟨rfl, rfl⟩)⟩
    · rintro k₁ k₂ n ⟨stamp₁, h₁⟩ ⟨stamp₂, h₂⟩
      rcases hawaits h₁ with hold₁ | ⟨rfl, -, hn₁⟩ <;> rcases hawaits h₂ with hold₂ | ⟨rfl, -, hn₂⟩
      · exact hx.apart k₁ k₂ n ⟨stamp₁, hold₁⟩ ⟨stamp₂, hold₂⟩
      · exact (hearlier (hn₂ ▸ hold₁)).elim
      · exact (hearlier (hn₁ ▸ hold₂)).elim
      · rfl
    · intro n w h
      rcases getElem?_snoc.mp h with h | ⟨-, rfl⟩
      · exact hx.events n w h
      · obtain ⟨-, event, podInspect, -, -, -, -, rfl⟩ := Tasks.due_eq_some_iff.mp hdue
        exact ⟨_, _, _, _, rfl⟩
    · intro n w h hnext
      rcases getElem?_snoc.mp h with h | ⟨rfl, -⟩
      · exact hx.udp n w h ((hphase h).symm.trans hnext)
      · simp at hnext
    · intro n w reply h hreplied
      rcases getElem?_snoc.mp h with h | ⟨rfl, -⟩
      · exact hx.replies n w reply h ((hphase h).symm.trans hreplied)
      · simp at hreplied
    · refine hx.table.congr fun w => ⟨?_, ?_⟩
      · rintro ⟨n, h, reply, hreplied⟩
        rcases getElem?_snoc.mp h with h | ⟨rfl, -⟩
        · exact ⟨n, h, reply, (hphase h).symm.trans hreplied⟩
        · simp at hreplied
      · rintro ⟨n, h, reply, hreplied⟩
        exact ⟨n, getElem?_snoc.mpr (.inl h), reply, (hphase h).trans hreplied⟩
  · exact hx

/-- The handler of network events goes on, with its answer if it has one. -/
theorem Coherent.goOnNetwork (hx : x.Coherent cfg) (k : κ) (stamp : Stamp) :
    (x.goOnNetwork cfg k stamp).Coherent cfg := by
  unfold Overlapping.goOnNetwork
  split
  · exact hx.at k ((hx.tasks k).step _) nofun
  · exact hx
  · next hasked =>
    split
    · exact hx
    · exact hx.goOn k (.inr (not_awaits hasked nofun))

/-- A controller starts again, and with it goes whatever it was waiting for; the requests themselves
stay at the broker. -/
theorem Coherent.restart (hx : x.Coherent cfg) (k : κ) :
    (x.step cfg (.restart k)).Coherent cfg :=
  hx.at k Tasks.coherent_start nofun

/-- A request that is not about traffic leaves the traffic table alone. -/
theorem Coherent.other (hx : x.Coherent cfg) (orders : Broker.Orders) (post : OtherPost) :
    (x.step cfg (.other orders post)).Coherent cfg := by
  have htable : (Broker.handle x.db orders post.post).1.podTraffic = x.db.podTraffic := by
    cases post <;> rfl
  refine { hx with table := ?_ }
  show Keeps Broker.hides (Broker.handle x.db orders post.post).1.podTraffic x.Replied
  rw [htable]
  exact hx.table

/-- No step changes the ids of the requests that are there. -/
theorem Distinct.of_step (i : OverlappingInput κ τ) (h : (x.step cfg i).Distinct) :
    x.Distinct := by
  -- requests are only added to those that have arrived
  have hgrows : ∃ l, (x.step cfg i).arrived = x.arrived ++ l := by
    cases i with
    | task k i =>
      cases i with
      | network stamp sent =>
        show ∃ l, (x.goOnNetwork cfg k stamp).arrived = x.arrived ++ l
        unfold goOnNetwork
        repeat' split
        all_goals exact ⟨[], (List.append_nil _).symm⟩
      | _ => exact ⟨[], (List.append_nil _).symm⟩
    | send k stamp =>
      show ∃ l, (x.send cfg k stamp).arrived = x.arrived ++ l
      unfold send
      split
      · exact ⟨_, rfl⟩
      · exact ⟨[], (List.append_nil _).symm⟩
    | statement n order =>
      show ∃ l, (x.serve n order).arrived = x.arrived ++ l
      unfold serve
      split <;> exact ⟨[], (List.append_nil _).symm⟩
    | hear k =>
      show ∃ l, (x.hear k).arrived = x.arrived ++ l
      unfold hear
      repeat' split
      all_goals exact ⟨[], (List.append_nil _).symm⟩
    | giveUp k stamp err =>
      show ∃ l, (x.giveUp cfg k stamp err).arrived = x.arrived ++ l
      unfold giveUp
      repeat' split
      all_goals exact ⟨[], (List.append_nil _).symm⟩
    | restart k => exact ⟨[], (List.append_nil _).symm⟩
    | other orders post => exact ⟨[], (List.append_nil _).symm⟩
  obtain ⟨l, hl⟩ := hgrows
  unfold Distinct at h
  rw [hl, List.map_append] at h
  exact h.of_append_left

end Overlapping

/-! ## The deployment follows

The deployment is asked when a request is made here and answered at once, so it is ahead by every
request that is still under way. The relation says by how much, and each kind of step keeps it.
-/

open Overlapping

/-- The controllers, with what they have heard, beside a table of traffic. -/
def Overlapping.fleet {κ τ : Type*} (x : Overlapping κ τ) (podTraffic : List Broker.PodTraffic) :
    Fleet κ τ where
  tasks := x.tasks
  answers := x.answers
  db := { x.db with podTraffic }

/-- The deployment has served the requests that nobody waits for, and no other. -/
structure Overlaps {κ τ : Type*} (cfg : κ → NodeConfig) (x : Overlapping κ τ)
    (d : Deployment κ τ) : Prop where
  coherent : x.Coherent cfg
  refines : Refines cfg (x.fleet d.db.podTraffic) d
  table : Keeps Broker.hides d.db.podTraffic x.Told

section Overlaps

variable {κ τ : Type*} {cfg : κ → NodeConfig} {x x' : Overlapping κ τ} {d d' : Deployment κ τ}

theorem overlaps_start : Overlaps cfg (Overlapping.start : Overlapping κ τ) Deployment.start where
  coherent := coherent_start
  refines := refines_start
  table := Keeps.nil.congr fun w => by simp [Told, Overlapping.start]

/-- The deployment does as the controllers do, and serves no request by that. -/
theorem Overlaps.of_refines (hx' : x'.Coherent cfg) (h : Overlaps cfg x d)
    (hrefines : Refines cfg (x'.fleet d.db.podTraffic) d') (harrived : x'.arrived = x.arrived)
    (hawaits : ∀ k n, x'.Awaits k n ↔ x.Awaits k n) : Overlaps cfg x' d' := by
  have hdb : d'.db.podTraffic = d.db.podTraffic := by rw [hrefines.db]; rfl
  refine ⟨hx', ?_, ?_⟩
  · rw [hdb]
    exact hrefines
  · rw [hdb]
    exact h.table.congr fun w => by simp only [Told, harrived, hawaits]

/-- The statements of a request change nothing there. -/
theorem Overlaps.serve (h : Overlaps cfg x d) (hdistinct : x.Distinct) (n : ℕ)
    (order : Reordering Broker.PodTraffic) : Overlaps cfg (x.serve n order) d := by
  have hcoherent := h.coherent.serve hdistinct n order
  unfold Overlapping.serve at hcoherent ⊢
  split
  · exact h
  · next w hw =>
    simp only [hw] at hcoherent
    exact h.of_refines hcoherent h.refines rfl fun _ _ => Iff.rfl

variable [DecidableEq κ]

/-- A task other than the handler of network events is followed as in `System.Fleet`, since no
request is concerned. -/
theorem Overlaps.goOn (h : Overlaps cfg x d) (k : κ) {i : TaskInput τ}
    (hi : ∀ stamp sent, i ≠ .network stamp sent) :
    ∃ is, is.flatMap DeploymentInput.heard = i.heard.map (Heard.node k)
      ∧ Overlaps cfg (x.goOn cfg k i) (run (Deployment.step cfg) d is) := by
  obtain ⟨is, hheard, hrefines⟩ := h.refines.goOn h.coherent.tasks k hi
  exact ⟨is, hheard, h.of_refines (h.coherent.goOn k (.inl hi)) hrefines rfl fun _ _ => Iff.rfl⟩

/-- A node that asks for something has another answer in hand, and the others have theirs. -/
theorem answers_of_update {k : κ} {asked : Option (Stamp × Asked)}
    (hx' : x'.asked = Function.update x.asked k asked) :
    x'.answers = Function.update x.answers k (asked.bind Asked.heard) := by
  funext k'
  unfold answers
  rw [hx']
  by_cases hk : k' = k
  · subst hk
    rw [Function.update_self, Function.update_self]
  · rw [Function.update_of_ne hk, Function.update_of_ne hk]

/-- Who goes on, or has heard, waits for nothing. -/
theorem awaits_of_update {k : κ} {asked : Option (Stamp × Asked)}
    (hx' : x'.asked = Function.update x.asked k asked)
    (hasked : ∀ stamp n, asked ≠ some (stamp, .waits n)) (k' : κ) (n : ℕ) :
    x'.Awaits k' n ↔ k' ≠ k ∧ x.Awaits k' n := by
  unfold Awaits
  rw [hx']
  by_cases hk : k' = k
  · subst hk
    simp [hasked]
  · simp [hk]

/-- Where the node waited for nothing and does not now, everybody waits for what they waited for. -/
theorem awaits_iff_of_update {k : κ} {asked : Option (Stamp × Asked)}
    (hx' : x'.asked = Function.update x.asked k asked)
    (hasked : ∀ stamp n, asked ≠ some (stamp, .waits n)) (hk : ∀ n, ¬ x.Awaits k n) (k' : κ)
    (n : ℕ) : x'.Awaits k' n ↔ x.Awaits k' n := by
  rw [awaits_of_update hx' hasked]
  refine and_iff_right_of_imp ?_
  rintro h rfl
  exact hk n h

/-- The answer that a node hears is the one it has in hand. -/
theorem answers_ask (x : Overlapping κ τ) (k : κ) (stamp : Stamp) (sent : Sent) :
    (x.ask k stamp (.hears sent)).answers = Function.update x.answers k (some (stamp, sent)) := by
  have hasked : (x.ask k stamp (.hears sent)).asked
      = Function.update x.asked k (some (stamp, .hears sent)) := rfl
  rw [answers_of_update hasked]
  rfl

/-- Then it waits no more. -/
theorem awaits_ask (x : Overlapping κ τ) (k : κ) (stamp : Stamp) (sent : Sent) (k' : κ) (n : ℕ) :
    (x.ask k stamp (.hears sent)).Awaits k' n ↔ k' ≠ k ∧ x.Awaits k' n := by
  have hasked : (x.ask k stamp (.hears sent)).asked
      = Function.update x.asked k (some (stamp, .hears sent)) := rfl
  exact awaits_of_update hasked nofun k' n

/-- A node that has asked waits for its own request and no other. -/
theorem awaits_ask_waits (x : Overlapping κ τ) (k : κ) (stamp : Stamp) (m : ℕ) (k' : κ) (n : ℕ) :
    (x.ask k stamp (.waits m)).Awaits k' n ↔ if k' = k then m = n else x.Awaits k' n := by
  unfold Awaits ask
  by_cases hk : k' = k
  · subst hk
    simp
  · simp [hk]

/-- **A request is served when its sender has heard of it or never will**, whenever its statements
came. -/
theorem Overlaps.settle (h : Overlaps cfg x d) (hdistinct : x.Distinct) {k : κ} {stamp : Stamp}
    {n : ℕ} (hasked : x.asked k = some (stamp, .waits n)) {sent : Sent}
    (hsent : sent = answered .ok ∨ ∃ err, sent = .error err) :
    ∃ is, is.flatMap DeploymentInput.heard = []
      ∧ Overlaps cfg (x.ask k stamp (.hears sent)) (run (Deployment.step cfg) d is) := by
  obtain ⟨record, hdue, harrived⟩ := h.coherent.waits k stamp n hasked
  -- no request that has been served has its id
  have hnew : ∀ row ∈ d.db.podTraffic, row.uuid ≠ record.row.uuid := by
    intro row hrow huuid
    obtain ⟨m, hm, hnobody⟩ := h.table.sound row hrow
    obtain rfl := hdistinct.eq_of_uuid hm harrived huuid
    exact hnobody k ⟨stamp, hasked⟩
  obtain ⟨exchange, hpost⟩ : ∃ exchange : Exchange,
      exchange.post (x.fleet d.db.podTraffic).db (.podTraffic record.row)
        = ({ x.db with podTraffic := offer Broker.hides d.db.podTraffic record.row }, sent) := by
    have hreply : Broker.createPodTraffic .stored d.db.podTraffic record.row
        = (offer Broker.hides d.db.podTraffic record.row, .ok) :=
      Broker.createPodTraffic_of_new hnew
    rcases hsent with rfl | ⟨err, rfl⟩
    · exact ⟨.answered .stored, by
        simp [Exchange.post, Broker.handle, Broker.Orders.stored, hreply, fleet]⟩
    · exact ⟨.unanswered .stored err, by
        simp [Exchange.post, Broker.handle, Broker.Orders.stored, hreply, fleet]⟩
  have hask : (x.fleet d.db.podTraffic).ask cfg k stamp exchange
      = (x.ask k stamp (.hears sent)).fleet
        (offer Broker.hides d.db.podTraffic record.row) := by
    have hnone : (x.fleet d.db.podTraffic).answers k = none := by
      simp [fleet, answers, hasked, Asked.heard]
    have hdue' : ((x.fleet d.db.podTraffic).tasks k).due (cfg k) stamp = some record := hdue
    unfold Fleet.ask
    simp only [hnone, hdue', hpost]
    unfold fleet
    rw [answers_ask]
    rfl
  obtain ⟨is, hheard, hrefines⟩ := h.refines.ask k stamp exchange
  rw [hask] at hrefines
  have hdb : (run (Deployment.step cfg) d is).db.podTraffic
      = offer Broker.hides d.db.podTraffic record.row := by
    rw [hrefines.db]
    rfl
  refine ⟨is, hheard, h.coherent.hears k stamp sent, ?_, ?_⟩
  · rw [hdb]
    exact hrefines
  · rw [hdb]
    refine (h.table.offer (h.coherent.hides_self harrived)).congr fun w => ⟨?_, ?_⟩
    · rintro ⟨m, hm, hnobody⟩
      by_cases hmn : m = n
      · subst hmn
        exact .inr (Option.some.inj (hm.symm.trans harrived))
      · refine .inl ⟨m, hm, fun k' hk' => hnobody k' ((awaits_ask ..).mpr ⟨?_, hk'⟩)⟩
        -- its sender waits for one request only
        rintro rfl
        obtain ⟨_, hasked'⟩ := hk'
        rw [hasked] at hasked'
        cases hasked'
        exact hmn rfl
    · rintro (⟨m, hm, hnobody⟩ | rfl)
      · exact ⟨m, hm, fun k' hk' => hnobody k' ((awaits_ask ..).mp hk').2⟩
      · refine ⟨n, harrived, fun k' hk' => ?_⟩
        obtain ⟨hne, hk'⟩ := (awaits_ask ..).mp hk'
        exact hne (h.coherent.apart k k' n ⟨stamp, hasked⟩ hk')

/-- The handler of network events goes on with the answer that the deployment's node had at once. -/
theorem Overlaps.goOnNetwork (h : Overlaps cfg x d) (k : κ) (stamp : Stamp) :
    ∃ is, is.flatMap DeploymentInput.heard = []
      ∧ Overlaps cfg (x.goOnNetwork cfg k stamp) (run (Deployment.step cfg) d is) := by
  have hcoherent := h.coherent.goOnNetwork k stamp
  obtain ⟨is, hheard, hrefines⟩ := h.refines.goOnNetwork k stamp
  unfold Overlapping.goOnNetwork at hcoherent ⊢
  cases hasked : x.asked k with
  | none =>
    have hanswer : (x.fleet d.db.podTraffic).answers k = none := by simp [fleet, answers, hasked]
    unfold Fleet.goOnNetwork at hrefines
    simp only [hasked] at hcoherent ⊢
    simp only [hanswer] at hrefines
    split at hcoherent
    · next hdue =>
      -- a request is due: the handler stays where it is
      rw [if_pos hdue]
      exact ⟨[], rfl, h⟩
    · next hdue =>
      have hdue' : ¬ (((x.fleet d.db.podTraffic).tasks k).due (cfg k) stamp).isSome := hdue
      rw [if_neg hdue]
      rw [if_neg hdue'] at hrefines
      exact ⟨is, hheard, h.of_refines hcoherent hrefines rfl fun _ _ => Iff.rfl⟩
  | some given =>
    -- it waits for the reply, or has heard it and goes on as the fleet's node does
    obtain ⟨stamp, waits | sent⟩ := given
    · exact ⟨[], rfl, h⟩
    · have hanswer : (x.fleet d.db.podTraffic).answers k = some (stamp, sent) := by
        simp [fleet, answers, hasked, Asked.heard]
      unfold Fleet.goOnNetwork at hrefines
      simp only [hasked] at hcoherent ⊢
      simp only [hanswer] at hrefines
      refine ⟨is, hheard, h.of_refines hcoherent ?_ rfl ?_⟩
      · convert hrefines using 1
        unfold fleet Fleet.goOn
        rw [answers_of_update (x := x) (k := k) rfl]
        rfl
      · exact awaits_iff_of_update (x := x) (k := k) rfl nofun (not_awaits hasked nofun)

/-- A request that is on its way is not served yet. -/
theorem Overlaps.send (h : Overlaps cfg x d) (k : κ) (stamp : Stamp) :
    Overlaps cfg (x.send cfg k stamp) d := by
  have hcoherent := h.coherent.send k stamp
  unfold Overlapping.send at hcoherent ⊢
  split at hcoherent
  · next record hasked hdue =>
    -- sending tells the node nothing, so the fleet is the same
    have hsame : ∀ podTraffic, Overlapping.fleet
        { x.ask k stamp (.waits x.arrived.length) with
          arrived := x.arrived ++ [record.row]
          phase := Function.update x.phase x.arrived.length .lookup } podTraffic
        = x.fleet podTraffic := by
      intro podTraffic
      have hnone : x.answers k = none := by simp [answers, hasked]
      unfold fleet
      rw [answers_of_update (x := x) (k := k) rfl]
      simp [Asked.heard, Function.update_eq_self_iff, hnone, ask]
    have hawaits := awaits_ask_waits x k stamp x.arrived.length
    refine ⟨hcoherent, ?_, h.table.congr fun w => ⟨?_, ?_⟩⟩
    · rw [hsame]
      exact h.refines
    · rintro ⟨n, hn, hnobody⟩
      -- the new request is awaited by its node, so it is not yet accounted for
      rcases getElem?_snoc.mp hn with hn | ⟨rfl, -⟩
      · refine ⟨n, hn, fun k' hk' => hnobody k' ((hawaits k' n).mpr ?_)⟩
        rwa [if_neg]
        rintro rfl
        exact not_awaits hasked nofun n hk'
      · exact absurd ((hawaits k _).mpr (by simp)) (hnobody k)
    · rintro ⟨n, hn, hnobody⟩
      refine ⟨n, getElem?_snoc.mpr (.inl hn), fun k' hk' => ?_⟩
      have hk' := (hawaits k' n).mp hk'
      split at hk'
      · subst hk'
        simp at hn
      · exact hnobody k' hk'
  · exact h

/-- The answer of a request whose last statement is done comes in. Here the deployment settles it:
it has the same request handled in one step, with the same reply. -/
theorem Overlaps.hear (h : Overlaps cfg x d) (hdistinct : x.Distinct) (k : κ) :
    ∃ is, is.flatMap DeploymentInput.heard = []
      ∧ Overlaps cfg (x.hear k) (run (Deployment.step cfg) d is) := by
  unfold Overlapping.hear
  split
  · next stamp n hasked =>
    split
    · next reply hreplied =>
      obtain ⟨record, -, harrived⟩ := h.coherent.waits k stamp n hasked
      obtain rfl := h.coherent.replies n _ reply harrived hreplied
      exact h.settle hdistinct hasked (.inl rfl)
    · exact ⟨[], rfl, h⟩
  · exact ⟨[], rfl, h⟩

/-- A handler stops waiting. The deployment settles the request as one that is lost or not answered,
whichever the broker has made of it. -/
theorem Overlaps.giveUp (h : Overlaps cfg x d) (hdistinct : x.Distinct) (k : κ) (stamp : Stamp)
    (err : String) :
    ∃ is, is.flatMap DeploymentInput.heard = []
      ∧ Overlaps cfg (x.giveUp cfg k stamp err) (run (Deployment.step cfg) d is) := by
  unfold Overlapping.giveUp
  cases hasked : x.asked k with
  | some given =>
    obtain ⟨stamp, n | sent⟩ := given
    · exact h.settle hdistinct hasked (.inr ⟨err, rfl⟩)
    · exact ⟨[], rfl, h⟩
  | none =>
    cases hdue : (x.tasks k).due (cfg k) stamp with
    | none => exact ⟨[], rfl, h⟩
    | some record =>
      -- the broker never hears of it
      have hask : (x.fleet d.db.podTraffic).ask cfg k stamp (.lost err)
          = (x.ask k stamp (.hears (.error err))).fleet d.db.podTraffic := by
        have hnone : (x.fleet d.db.podTraffic).answers k = none := by
          simp [fleet, answers, hasked]
        have hdue' : ((x.fleet d.db.podTraffic).tasks k).due (cfg k) stamp = some record := hdue
        unfold Fleet.ask
        rw [hnone, hdue']
        unfold fleet
        rw [answers_ask]
        rfl
      obtain ⟨is, hheard, hrefines⟩ := h.refines.ask k stamp (.lost err)
      rw [hask] at hrefines
      refine ⟨is, hheard, h.of_refines (h.coherent.hears k stamp _) hrefines rfl ?_⟩
      exact awaits_iff_of_update (x := x) (k := k) rfl nofun (not_awaits hasked nofun)

/-- A controller that starts again leaves its request to the broker. -/
theorem Overlaps.restart (h : Overlaps cfg x d) (hdistinct : x.Distinct) (k : κ) :
    ∃ is, is.flatMap DeploymentInput.heard = [.restart k]
      ∧ Overlaps cfg (x.step cfg (.restart k)) (run (Deployment.step cfg) d is) := by
  -- a node that waits for nothing restarts as the fleet's does
  have hidle : ∀ {x : Overlapping κ τ} {d : Deployment κ τ}, Overlaps cfg x d →
      (∀ n, ¬ x.Awaits k n) →
        Overlaps cfg (x.step cfg (.restart k)) (d.step cfg (.restart k)) := by
    intro x d h hk
    have hsame : (x.step cfg (.restart k)).fleet d.db.podTraffic
        = (x.fleet d.db.podTraffic).step cfg (.restart k) := by
      unfold fleet
      rw [answers_of_update (x := x) (k := k) rfl]
      rfl
    refine h.of_refines (h.coherent.restart k) ?_ rfl ?_
    · rw [hsame]
      exact h.refines.restart k
    · exact awaits_iff_of_update (x := x) (k := k) rfl nofun hk
  -- otherwise settle its request first: it is given up, and nobody waits for it
  by_cases hk : ∃ n, x.Awaits k n
  · obtain ⟨n, stamp, hasked⟩ := hk
    obtain ⟨is, hheard, hsettled⟩ := h.settle hdistinct hasked (.inr ⟨"", rfl⟩)
    have hnone : ∀ m, ¬ (x.ask k stamp (.hears (.error ""))).Awaits k m :=
      fun m hm => ((awaits_ask ..).mp hm).1 rfl
    have hsame : (x.ask k stamp (.hears (.error ""))).step cfg (.restart k)
        = x.step cfg (.restart k) := by
      simp [Overlapping.step, ask]
    refine ⟨is ++ [.restart k], ?_, ?_⟩
    · rw [List.flatMap_append, hheard]
      rfl
    · rw [run_snoc, ← hsame]
      exact hidle hsettled hnone
  · exact ⟨[.restart k], rfl, hidle h (not_exists.mp hk)⟩

/-- The other requests are handled alike, as they do not look at the traffic table. -/
theorem Overlaps.other (h : Overlaps cfg x d) (orders : Broker.Orders) (post : OtherPost) :
    Overlaps cfg (x.step cfg (.other orders post)) (d.step cfg (.other orders post)) := by
  have hsame : (x.step cfg (.other orders post)).fleet d.db.podTraffic
      = (x.fleet d.db.podTraffic).step cfg (.other orders post) := by
    cases post <;> rfl
  have hdb : d.db = (x.fleet d.db.podTraffic).db := h.refines.db
  refine h.of_refines (h.coherent.other orders post) ?_ rfl fun _ _ => Iff.rfl
  rw [hsame]
  refine ⟨?_, h.refines.nodes⟩
  show (Broker.handle d.db orders post.post).1
    = (Broker.handle (x.fleet d.db.podTraffic).db orders post.post).1
  rw [← hdb]

/-- **Every step is followed by a run of the deployment**, by the lemmas above. -/
theorem Overlaps.step (h : Overlaps cfg x d) (i : OverlappingInput κ τ)
    (hdistinct : x.Distinct) :
    ∃ is, is.flatMap DeploymentInput.heard = i.heard
      ∧ Overlaps cfg (x.step cfg i) (run (Deployment.step cfg) d is) := by
  cases i with
  | task k i =>
    cases i with
    | network stamp sent => exact h.goOnNetwork k stamp
    | _ => exact h.goOn k (by simp)
  | send k stamp => exact ⟨[], rfl, h.send k stamp⟩
  | statement n order => exact ⟨[], rfl, h.serve hdistinct n order⟩
  | hear k => exact h.hear hdistinct k
  | giveUp k stamp err => exact h.giveUp hdistinct k stamp err
  | restart k => exact h.restart hdistinct k
  | other orders post => exact ⟨[.other orders post], rfl, h.other orders post⟩

/-- So is every run in which the ids of all requests differ. If they do at the end they have done so
all along, since a request that has arrived keeps its id. -/
theorem exists_overlaps (cfg : κ → NodeConfig) {inputs : List (OverlappingInput κ τ)}
    (hdistinct : (run (Overlapping.step cfg) Overlapping.start inputs).Distinct) :
    ∃ inputs', inputs'.flatMap DeploymentInput.heard = inputs.flatMap OverlappingInput.heard
      ∧ Overlaps cfg (run (Overlapping.step cfg) Overlapping.start inputs)
        (run (Deployment.step cfg) Deployment.start inputs') :=
  exists_run_of_follows_of_last (P := Distinct) overlaps_start (fun _ i => Distinct.of_step i)
    (fun _ _ i hdistinct h => h.step i (hdistinct.of_step i)) hdistinct

end Overlaps

/-! ## The same keys

What is left of the relation when nothing of a key is under way any more: its rows may be repeated,
but one is here exactly when one is there.
-/

/-- Of a record with the key, every request is done and heard of. -/
def Overlapping.SettledFor {κ τ : Type*} (x : Overlapping κ τ) (key : TrafficKey) : Prop :=
  ∀ (n : ℕ) w, x.arrived[n]? = some w → rowKey w = key →
    (∃ reply, x.phase n = .replied reply) ∧ ∀ k, ¬ x.Awaits k n

/-- No record of another key passes for one of this key. -/
def Overlapping.ToldApart {κ τ : Type*} (x : Overlapping κ τ) (key : TrafficKey) : Prop :=
  ∀ v ∈ x.arrived, ∀ w ∈ x.arrived, rowKey w = key → Broker.hides v w → rowKey v = key

/-- Both tables have a row of a key, or neither does. -/
theorem Overlaps.row_iff {κ τ : Type*} {cfg : κ → NodeConfig} {x : Overlapping κ τ}
    {d : Deployment κ τ} (h : Overlaps cfg x d) {key : TrafficKey} (hsettled : x.SettledFor key)
    (hapart : x.ToldApart key) :
    (∃ row ∈ x.db.podTraffic, rowKey row = key) ↔ ∃ row ∈ d.db.podTraffic, rowKey row = key := by
  have hreplied : ∀ w, x.Replied w → w ∈ x.arrived := fun w hw => by
    obtain ⟨n, hn, -⟩ := hw
    exact List.mem_of_getElem? hn
  have htold : ∀ w, x.Told w → w ∈ x.arrived := fun w hw => by
    obtain ⟨n, hn, -⟩ := hw
    exact List.mem_of_getElem? hn
  constructor
  · refine h.coherent.table.key_mem h.table (fun w hkey hw => ?_) fun v w hv hw hkey hhides =>
      hapart v (htold v hv) w (hreplied w hw) hkey hhides
    obtain ⟨n, hn, -⟩ := hw
    exact ⟨n, hn, (hsettled n w hn hkey).2⟩
  · refine h.table.key_mem h.coherent.table (fun w hkey hw => ?_) fun v w hv hw hkey hhides =>
      hapart v (hreplied v hv) w (htold w hw) hkey hhides
    obtain ⟨n, hn, -⟩ := hw
    exact ⟨n, hn, (hsettled n w hn hkey).1⟩

/-- The nodes of the deployment stand as these do, and its tables are these but for how often a key
is in that of the traffic. -/
structure RefinesByKey {κ τ : Type*} (cfg : κ → NodeConfig) (x : Overlapping κ τ)
    (d : Deployment κ τ) : Prop where
  nodes : ∀ k, Stands (cfg k) (x.tasks k) (x.answers k) (d.nodes k)
  db : d.db = { x.db with podTraffic := d.db.podTraffic }
  keys : ∀ key, x.SettledFor key → x.ToldApart key →
    ((∃ row ∈ x.db.podTraffic, rowKey row = key) ↔ ∃ row ∈ d.db.podTraffic, rowKey row = key)

/-- **Requests that overlap change how often a record is stored**, and not whether, for a key that
`get_row` takes no other for. -/
theorem overlapping_refines {κ τ : Type*} [DecidableEq κ] (cfg : κ → NodeConfig)
    {inputs : List (OverlappingInput κ τ)}
    (hdistinct : (run (Overlapping.step cfg) Overlapping.start inputs).Distinct) :
    ∃ inputs', inputs'.flatMap DeploymentInput.heard = inputs.flatMap OverlappingInput.heard
      ∧ RefinesByKey cfg (run (Overlapping.step cfg) Overlapping.start inputs)
        (run (Deployment.step cfg) Deployment.start inputs') := by
  obtain ⟨inputs', hheard, hoverlaps⟩ := exists_overlaps cfg hdistinct
  exact ⟨inputs', hheard, hoverlaps.refines.nodes, hoverlaps.refines.db,
    fun _ hsettled hapart => hoverlaps.row_iff hsettled hapart⟩

/-! ## One connection, twice -/

/-- The pod `web` opens a connection, and its record is about to be posted. -/
def connecting : List (OverlappingInput Unit Unit) :=
  ([.outside (.apply shopPod fun _ => some 6), .watcher, .watcher, .watcher, .watcher,
    .ebpf none, .ebpf none, .ebpf none, .ebpf none, .ebpf none,
    .outside (.network () (fun _ => Deployment.shopSock) (.connectEntry 1 1)),
    .outside (.network () (fun _ => Deployment.shopSock) (.connectExit 1 0)),
    .ebpf (some 0), .ebpf none, .network ⟨"", 0⟩ (.error ""),
    .network ⟨"", 0⟩ (.error "")] : List (TaskInput Unit)).map (.task ())

/-- The controller starts again while its request is between two statements. -/
def connectedTwice : List (OverlappingInput Unit Unit) :=
  connecting ++ [.send () ⟨"u1", 1⟩, .statement 0 Broker.Orders.stored.podTraffic, .restart ()]
    ++ connecting ++ [.send () ⟨"u2", 2⟩, .statement 1 Broker.Orders.stored.podTraffic,
      .statement 0 Broker.Orders.stored.podTraffic, .statement 1 Broker.Orders.stored.podTraffic,
      .hear ()]

def afterBoth : Overlapping Unit Unit :=
  run (Overlapping.step fun _ => shopConfig) Overlapping.start connectedTwice

/-- Two requests with the same record have arrived. -/
theorem arrived_afterBoth :
    afterBoth.arrived = [(Deployment.shopObservation.record .little ⟨"u1", 1⟩).row,
      (Deployment.shopObservation.record .little ⟨"u2", 2⟩).row] := by
  decide +kernel

/-- Both of them are done with. -/
theorem settledFor_afterBoth (key : TrafficKey) : afterBoth.SettledFor key := by
  have hphases : ∀ n < 2, ∃ reply, afterBoth.phase n = .replied reply := by
    intro n hn
    refine ⟨.ok, ?_⟩
    interval_cases n <;> decide +kernel
  have hheard : afterBoth.answers () = some (⟨"u2", 2⟩, answered .ok) := by rfl
  intro n w hn hkey
  refine ⟨hphases n ?_, ?_⟩
  · rw [arrived_afterBoth] at hn
    obtain ⟨hlt, -⟩ := List.getElem?_eq_some_iff.mp hn
    exact hlt
  · rintro ⟨⟩ ⟨stamp, hwaits⟩
    unfold answers at hheard
    rw [hwaits] at hheard
    cases hheard

/-- Both lookups have come before an insert, so the record is stored twice. -/
theorem overlapping_refines_connected_twice :
    afterBoth.db.podTraffic.map (·.uuid) = ["u1", "u2"]
      ∧ ∃ inputs', inputs'.flatMap DeploymentInput.heard
          = connectedTwice.flatMap OverlappingInput.heard
        ∧ ∃ row ∈ (run (Deployment.step fun _ : Unit => shopConfig) Deployment.start
            inputs').db.podTraffic, rowKey row = Deployment.shopObservation.key .little := by
  have hdistinct : afterBoth.Distinct := by
    unfold Overlapping.Distinct
    rw [arrived_afterBoth]
    decide +kernel
  have hapart : afterBoth.ToldApart (Deployment.shopObservation.key .little) := by
    unfold Overlapping.ToldApart
    rw [arrived_afterBoth]
    decide +kernel
  have hrows : ∃ row ∈ afterBoth.db.podTraffic,
      rowKey row = Deployment.shopObservation.key .little := by
    decide +kernel
  refine ⟨by decide +kernel, ?_⟩
  obtain ⟨inputs', hheard, hrefines⟩ := overlapping_refines _ hdistinct
  exact ⟨inputs', hheard, (hrefines.keys _ (settledFor_afterBoth _) hapart).mp hrows⟩

end KubeGuardian.System
