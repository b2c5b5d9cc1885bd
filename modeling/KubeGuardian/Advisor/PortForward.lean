import KubeGuardian.Lib.Run
import Mathlib.Tactic.Common

/-!
# Waiting for the port forwarding

`PortForward` of `advisor/pkg/k8s/portforward.go`, with the goroutine that it starts, against the
code of `gen networkpolicy` and `gen seccomp` that waits for it. The goroutine sends an error on
`errChan` and then closes `done`; where the forwarding is ready it only closes `done`.

* **`remaining_next`** — every step brings the session nearer its end.
* **`startsOnlyWhenReady_iff`** — the commands start with the broker in reach, and end with the
  error that was reported, exactly when they never pass by an error that `errChan` holds.
-/

namespace KubeGuardian.Advisor.PortForward

open Lib

/-! ## The early returns -/

/-- A service as far as its selector, in the order in which the map is ranged over. -/
structure BrokerService where
  selector : List (String × String)

structure PodCondition where
  conditionType : String
  status : String

structure BrokerPod where
  name : String
  ns : String
  conditions : List PodCondition

structure Clientset where
  getService : String → String → Except String BrokerService
  listPods : String → String → Except String (List BrokerPod)

structure Config where
  clientset : Option Clientset
  hasRestConfig : Bool

/-- What a call of `PortForward` meets, short of the forwarding itself. -/
structure Surroundings where
  config : Option Config
  /-- The environment variable `KUBE_GUARDIAN_NAMESPACE`, empty when it is not set. -/
  kubeGuardianNamespace : String
  roundTripperFor : Except String Unit
  newForwarder : BrokerPod → Except String Unit

/-- The namespace that is used where the environment names none. -/
def serviceNamespace : String := "kube-guardian"
def serviceName : String := "broker"

/-- The checks before the goroutine is started: an error, or the clientset. -/
def validate (f : Surroundings) : Except String Clientset :=
  match f.config with
  | none => .error "nil Kubernetes configuration"
  | some config => match config.clientset with
    | none => .error "nil Kubernetes clientset"
    | some clientset =>
      if config.hasRestConfig then .ok clientset else .error "nil REST configuration"

/-- The service, and the namespace that it was found in. -/
def findService (clientset : Clientset) (actualNamespace : String) :
    Except String (BrokerService × String) :=
  match clientset.getService actualNamespace serviceName with
  | .ok service => .ok (service, actualNamespace)
  | .error err =>
    if actualNamespace ≠ "kube-system" then
      match clientset.getService "kube-system" serviceName with
      | .ok service => .ok (service, "kube-system")
      | .error err =>
        .error s!"failed to find kube-guardian broker service in any namespace: {err}"
    else .error s!"failed to find kube-guardian broker service: {err}"

/-- A pod without a `Ready` condition counts as ready. -/
def podReady (pod : BrokerPod) : Bool :=
  !pod.conditions.any fun condition => condition.conditionType = "Ready" ∧ condition.status ≠ "True"

/-- The goroutine up to the start of `ForwardPorts`. -/
def setUp (f : Surroundings) (clientset : Clientset) : Except String Unit := do
  let (service, actualNamespace) ← findService clientset
    (if f.kubeGuardianNamespace = "" then serviceNamespace else f.kubeGuardianNamespace)
  if service.selector.length = 0 then
    throw s!"service {actualNamespace}/{serviceName} has no selectors"
  let labelSelectorString :=
    ",".intercalate (service.selector.map fun (key, val) => key ++ "=" ++ val)
  match clientset.listPods actualNamespace labelSelectorString with
  | .error err => throw s!"failed to list kube-guardian broker pods: {err}"
  | .ok pods =>
    if pods.length = 0 then
      throw <| s!"no pods found for service {actualNamespace}/{serviceName}"
        ++ s!" with selector {labelSelectorString}"
    match pods.find? podReady with
    | none => throw s!"no ready pods found for service {actualNamespace}/{serviceName}"
    | some readyPod =>
      match f.roundTripperFor with
      | .error err => throw s!"port forwarding setup failed: {err}"
      | .ok () => match f.newForwarder readyPod with
        | .error err => throw s!"port forwarder creation failed: {err}"
        | .ok () => return ()

/-! ## Goroutines and channels -/

/-- The goroutine of `PortForward`, by what it does next. -/
inductive Worker where
  | settingUp (clientset : Clientset)
  | selecting
  | sending (err : String)
  | closing
  | returned

/-- The goroutine of `ForwardPorts`. -/
inductive Forwarder where
  | notStarted
  | running
  | returned
  deriving DecidableEq

/-- The command. `gen seccomp` passes its wait and then starts generating, beside a goroutine that
ends the process with the first error on `errChan`. -/
inductive Command where
  | waiting
  | passed
  | generating
  | finished
  | exited (err : String)
  | timedOut
  deriving DecidableEq

/-- The two commands that forward a port: they wait for it in the same way and go on differently. -/
inductive GenCommand where
  | networkPolicy
  | seccomp
  deriving DecidableEq

/-- The channels, each as far as it is used: a value that is held, or whether it fired. `reported`
is no channel but a record of the error that was sent on `errChan`. -/
structure Session where
  worker : Worker
  forwarder : Forwarder
  command : Command
  readyChan : Bool
  pfErrChan : Option String
  errChan : Option String
  done : Bool
  reported : Option String

/-- `PortForward`, up to its return. -/
def portForward (f : Surroundings) : Session :=
  match validate f with
  | .error err => ⟨.returned, .notStarted, .waiting, false, none, some err, true, some err⟩
  | .ok clientset => ⟨.settingUp clientset, .notStarted, .waiting, false, none, none, false, none⟩

/-- A step of one of the goroutines; a `select` is a step for each of its branches. -/
inductive Action where
  | setUp
  | becomeReady
  | forwardingFails (err : String)
  | selectReady
  | selectError
  | selectTimeout
  | sendError
  | closeDone
  | takeDone
  | takeError
  | takeTimeout
  | watchError
  | generate
  | finish

def Command.ended : Command → Bool
  | .finished => true
  | .exited _ => true
  | .timedOut => true
  | _ => false

/-- The session after a step, or none where the goroutine is not there or has to wait. -/
def next (f : Surroundings) (cmd : GenCommand) (s : Session) : Action → Option Session
  | .setUp => match s.worker with
    | .settingUp clientset => match setUp f clientset with
      | .error err => some { s with worker := .sending err }
      | .ok () => some { s with worker := .selecting, forwarder := .running }
    | _ => none
  | .becomeReady =>
    if s.forwarder = .running ∧ s.readyChan = false then some { s with readyChan := true } else none
  | .forwardingFails err =>
    if s.forwarder = .running then
      some { s with forwarder := .returned, pfErrChan := some err }
    else none
  | .selectReady => match s.worker with
    | .selecting => if s.readyChan then some { s with worker := .closing } else none
    | _ => none
  | .selectError => match s.worker, s.pfErrChan with
    | .selecting, some err =>
      some { s with worker := .sending s!"port forwarding failed: {err}", pfErrChan := none }
    | _, _ => none
  | .selectTimeout => match s.worker with
    | .selecting =>
      some { s with worker := .sending "timeout waiting for port forwarding to be ready" }
    | _ => none
  | .sendError => match s.worker, s.errChan with
    | .sending err, none =>
      some { s with worker := .closing, errChan := some err, reported := some err }
    | _, _ => none
  | .closeDone => match s.worker with
    | .closing => some { s with worker := .returned, done := true }
    | _ => none
  | .takeDone =>
    if s.command = .waiting ∧ s.done then match cmd with
      -- what is left before generating does not look at the channels
      | .networkPolicy => some { s with command := .generating }
      | .seccomp => some { s with command := .passed }
    else none
  | .takeError => match cmd, s.command, s.errChan with
    | .networkPolicy, .waiting, some err =>
      some { s with command := .exited err, errChan := none }
    | _, _, _ => none
  | .takeTimeout => match cmd, s.command with
    | .networkPolicy, .waiting => some { s with command := .timedOut }
    | _, _ => none
  | .watchError => match cmd, s.command, s.errChan with
    | .seccomp, .passed, some err => some { s with command := .exited err, errChan := none }
    | .seccomp, .generating, some err => some { s with command := .exited err, errChan := none }
    | _, _, _ => none
  | .generate => if s.command = .passed then some { s with command := .generating } else none
  | .finish => if s.command = .generating then some { s with command := .finished } else none

/-- A step of a schedule: the process is over once its command has ended. -/
def step (f : Surroundings) (cmd : GenCommand) (s : Session) (a : Action) : Session :=
  if s.command.ended then s else (next f cmd s a).getD s

/-! ## What a step can do -/

variable {f : Surroundings} {cmd : GenCommand} {s s' : Session}

/-- **What each step can do**, one constructor for each arm, with what must hold for it and the
session after it. -/
inductive Moves (f : Surroundings) (s : Session) : GenCommand → Action → Session → Prop where
  | setUpFails {cmd : GenCommand} {clientset : Clientset} {err : String}
      (hworker : s.worker = .settingUp clientset) (hfail : setUp f clientset = .error err) :
      Moves f s cmd .setUp { s with worker := .sending err }
  | setUp {cmd : GenCommand} {clientset : Clientset} (hworker : s.worker = .settingUp clientset) :
      Moves f s cmd .setUp { s with worker := .selecting, forwarder := .running }
  | becomeReady {cmd : GenCommand} (hrunning : s.forwarder = .running)
      (hready : s.readyChan = false) :
      Moves f s cmd .becomeReady { s with readyChan := true }
  | forwardingFails {cmd : GenCommand} {err : String} (hrunning : s.forwarder = .running) :
      Moves f s cmd (.forwardingFails err)
        { s with forwarder := .returned, pfErrChan := some err }
  | selectReady {cmd : GenCommand} (hworker : s.worker = .selecting)
      (hready : s.readyChan = true) :
      Moves f s cmd .selectReady { s with worker := .closing }
  | selectError {cmd : GenCommand} {err : String} (hworker : s.worker = .selecting) :
      Moves f s cmd .selectError { s with worker := .sending err, pfErrChan := none }
  | selectTimeout {cmd : GenCommand} {err : String} (hworker : s.worker = .selecting) :
      Moves f s cmd .selectTimeout { s with worker := .sending err }
  | sendError {cmd : GenCommand} {err : String} (hworker : s.worker = .sending err) :
      Moves f s cmd .sendError
        { s with worker := .closing, errChan := some err, reported := some err }
  | closeDone {cmd : GenCommand} (hworker : s.worker = .closing) :
      Moves f s cmd .closeDone { s with worker := .returned, done := true }
  | goOn (hcommand : s.command = .waiting) (hdone : s.done = true) :
      Moves f s .networkPolicy .takeDone { s with command := .generating }
  | pass (hcommand : s.command = .waiting) (hdone : s.done = true) :
      Moves f s .seccomp .takeDone { s with command := .passed }
  | takeError {err : String} (hcommand : s.command = .waiting) (herr : s.errChan = some err) :
      Moves f s .networkPolicy .takeError { s with command := .exited err, errChan := none }
  | takeTimeout (hcommand : s.command = .waiting) :
      Moves f s .networkPolicy .takeTimeout { s with command := .timedOut }
  | watchError {err : String} (hcommand : s.command = .passed ∨ s.command = .generating)
      (herr : s.errChan = some err) :
      Moves f s .seccomp .watchError { s with command := .exited err, errChan := none }
  | generate {cmd : GenCommand} (hcommand : s.command = .passed) :
      Moves f s cmd .generate { s with command := .generating }
  | finish {cmd : GenCommand} (hcommand : s.command = .generating) :
      Moves f s cmd .finish { s with command := .finished }

theorem moves_of_next {a : Action} (h : next f cmd s a = some s') : Moves f s cmd a s' := by
  cases a with
  | setUp =>
    simp only [next] at h
    split at h
    · next clientset hworker =>
      split at h
      · next err hfail =>
        obtain rfl := Option.some.inj h
        exact .setUpFails hworker hfail
      · obtain rfl := Option.some.inj h
        exact .setUp hworker
    · cases h
  | becomeReady =>
    simp only [next] at h
    split at h
    · next hguard =>
      obtain rfl := Option.some.inj h
      exact .becomeReady hguard.1 hguard.2
    · cases h
  | forwardingFails err =>
    simp only [next] at h
    split at h
    · next hrunning =>
      obtain rfl := Option.some.inj h
      exact .forwardingFails hrunning
    · cases h
  | selectReady =>
    simp only [next] at h
    split at h
    · next hworker =>
      split at h
      · next hready =>
        obtain rfl := Option.some.inj h
        exact .selectReady hworker hready
      · cases h
    · cases h
  | selectError =>
    simp only [next] at h
    split at h
    · next hworker _ =>
      obtain rfl := Option.some.inj h
      exact .selectError hworker
    · cases h
  | selectTimeout =>
    simp only [next] at h
    split at h
    · next hworker =>
      obtain rfl := Option.some.inj h
      exact .selectTimeout hworker
    · cases h
  | sendError =>
    simp only [next] at h
    split at h
    · next hworker _ =>
      obtain rfl := Option.some.inj h
      exact .sendError hworker
    · cases h
  | closeDone =>
    simp only [next] at h
    split at h
    · next hworker =>
      obtain rfl := Option.some.inj h
      exact .closeDone hworker
    · cases h
  | takeDone =>
    simp only [next] at h
    split at h
    · next hguard =>
      cases cmd with
      | networkPolicy =>
        obtain rfl := Option.some.inj h
        exact .goOn hguard.1 hguard.2
      | seccomp =>
        obtain rfl := Option.some.inj h
        exact .pass hguard.1 hguard.2
    · cases h
  | takeError =>
    simp only [next] at h
    split at h
    · next hcommand herr =>
      obtain rfl := Option.some.inj h
      exact .takeError hcommand herr
    · cases h
  | takeTimeout =>
    simp only [next] at h
    split at h
    · next hcommand =>
      obtain rfl := Option.some.inj h
      exact .takeTimeout hcommand
    · cases h
  | watchError =>
    simp only [next] at h
    split at h
    · next hcommand herr =>
      obtain rfl := Option.some.inj h
      exact .watchError (.inl hcommand) herr
    · next hcommand herr =>
      obtain rfl := Option.some.inj h
      exact .watchError (.inr hcommand) herr
    · cases h
  | generate =>
    simp only [next] at h
    split at h
    · next hcommand =>
      obtain rfl := Option.some.inj h
      exact .generate hcommand
    · cases h
  | finish =>
    simp only [next] at h
    split at h
    · next hcommand =>
      obtain rfl := Option.some.inj h
      exact .finish hcommand
    · cases h

/-- A step does nothing, or one thing that the list has. -/
theorem step_cases (f : Surroundings) (cmd : GenCommand) (s : Session) (a : Action) :
    step f cmd s a = s ∨ s.command.ended = false ∧ Moves f s cmd a (step f cmd s a) := by
  unfold step
  cases hended : s.command.ended with
  | true => exact .inl rfl
  | false =>
    cases hnext : next f cmd s a with
    | none => exact .inl rfl
    | some s' => exact .inr ⟨rfl, moves_of_next hnext⟩

/-! ## Every run ends -/

/-- The steps the worker can still take, at most. -/
def Worker.remaining : Worker → Nat
  | .settingUp _ => 5
  | .selecting => 3
  | .sending _ => 2
  | .closing => 1
  | .returned => 0

def Forwarder.remaining : Forwarder → Nat
  | .notStarted => 2
  | .running => 1
  | .returned => 0

def Command.remaining : Command → Nat
  | .waiting => 3
  | .passed => 2
  | .generating => 1
  | _ => 0

/-- The steps that a session can still take, at most. -/
def Session.remaining (s : Session) : Nat :=
  s.worker.remaining + s.forwarder.remaining + s.command.remaining
    + if s.readyChan then 0 else 1

/-- **Every step brings the session nearer its end**, so that no schedule goes on for ever. -/
theorem remaining_next {a : Action} (h : next f cmd s a = some s') :
    s'.remaining < s.remaining := by
  cases moves_of_next h with
  | setUpFails hworker _ => simp [Session.remaining, hworker, Worker.remaining]
  | setUp hworker =>
    -- the worker goes on to its select, and the forwarder starts
    simp only [Session.remaining, hworker, Worker.remaining, Forwarder.remaining]
    omega
  | becomeReady _ hready => simp [Session.remaining, hready]
  | forwardingFails hrunning => simp [Session.remaining, hrunning, Forwarder.remaining]
  | selectReady hworker _ => simp [Session.remaining, hworker, Worker.remaining]
  | selectError hworker => simp [Session.remaining, hworker, Worker.remaining]
  | selectTimeout hworker => simp [Session.remaining, hworker, Worker.remaining]
  | sendError hworker => simp [Session.remaining, hworker, Worker.remaining]
  | closeDone hworker => simp [Session.remaining, hworker, Worker.remaining]
  | goOn hcommand _ => simp [Session.remaining, hcommand, Command.remaining]
  | pass hcommand _ => simp [Session.remaining, hcommand, Command.remaining]
  | takeError hcommand _ => simp [Session.remaining, hcommand, Command.remaining]
  | takeTimeout hcommand => simp [Session.remaining, hcommand, Command.remaining]
  | watchError hcommand _ =>
    rcases hcommand with hcommand | hcommand <;>
      simp [Session.remaining, hcommand, Command.remaining]
  | generate hcommand => simp [Session.remaining, hcommand, Command.remaining]
  | finish hcommand => simp [Session.remaining, hcommand, Command.remaining]

/-! ## What the channels say -/

/-- The command is past its wait. -/
def Command.started : Command → Bool
  | .passed => true
  | .generating => true
  | .finished => true
  | _ => false

/-- What the goroutine has said, by where it is. -/
def Worker.Said (s : Session) : Worker → Prop
  | .settingUp _ => s.done = false ∧ s.reported = none
  | .selecting => s.done = false ∧ s.reported = none
  | .sending _ => s.done = false ∧ s.reported = none
  | .closing => s.done = false ∧ (s.reported = none → s.readyChan = true)
  | .returned => s.done = true ∧ (s.reported = none → s.readyChan = true)

theorem Worker.Said.of_eq {worker : Worker} (h : worker.Said s) (hdone : s'.done = s.done)
    (hreported : s'.reported = s.reported) (hready : s.readyChan = true → s'.readyChan = true) :
    worker.Said s' := by
  cases worker with
  | settingUp clientset => exact ⟨hdone.trans h.1, hreported.trans h.2⟩
  | selecting => exact ⟨hdone.trans h.1, hreported.trans h.2⟩
  | sending err => exact ⟨hdone.trans h.1, hreported.trans h.2⟩
  | closing => exact ⟨hdone.trans h.1, fun hnone => hready (h.2 (hreported.symm.trans hnone))⟩
  | returned => exact ⟨hdone.trans h.1, fun hnone => hready (h.2 (hreported.symm.trans hnone))⟩

/-- What the two channels hold is what the worker has said so far, and what the command has
heard. -/
structure Consistent (s : Session) : Prop where
  said : s.worker.Said s
  sent : ∀ err, s.errChan = some err → s.reported = some err
  held : s.command = .waiting ∨ s.command = .passed → s.errChan = s.reported
  waits : s.command.started = true → s.done = true

theorem consistent_portForward (f : Surroundings) : Consistent (portForward f) := by
  unfold portForward
  cases validate f with
  | error err => exact ⟨⟨rfl, nofun⟩, fun _ => id, fun _ => rfl, fun _ => rfl⟩
  | ok clientset => exact ⟨⟨rfl, rfl⟩, nofun, fun _ => rfl, nofun⟩

/-- `done` is closed on readiness, or after an error was sent. -/
theorem Worker.Said.readyChan {worker : Worker} (h : worker.Said s) (hdone : s.done = true)
    (hreported : s.reported = none) : s.readyChan = true := by
  cases worker with
  | settingUp clientset => exact absurd (hdone.symm.trans h.1) (by decide)
  | selecting => exact absurd (hdone.symm.trans h.1) (by decide)
  | sending err => exact absurd (hdone.symm.trans h.1) (by decide)
  | closing => exact h.2 hreported
  | returned => exact h.2 hreported

theorem Consistent.moves {a : Action} (hs : Consistent s) (h : Moves f s cmd a s') :
    Consistent s' := by
  obtain ⟨hsaid, hsent, hheld, hwaits⟩ := hs
  cases h with
  | setUpFails hworker _ =>
    rw [hworker] at hsaid
    exact ⟨hsaid, hsent, hheld, hwaits⟩
  | setUp hworker =>
    rw [hworker] at hsaid
    exact ⟨hsaid, hsent, hheld, hwaits⟩
  | becomeReady _ _ => exact ⟨hsaid.of_eq rfl rfl fun _ => rfl, hsent, hheld, hwaits⟩
  | forwardingFails _ => exact ⟨hsaid.of_eq rfl rfl id, hsent, hheld, hwaits⟩
  | selectReady hworker hready =>
    rw [hworker] at hsaid
    exact ⟨⟨hsaid.1, fun _ => hready⟩, hsent, hheld, hwaits⟩
  | selectError hworker =>
    rw [hworker] at hsaid
    exact ⟨hsaid, hsent, hheld, hwaits⟩
  | selectTimeout hworker =>
    rw [hworker] at hsaid
    exact ⟨hsaid, hsent, hheld, hwaits⟩
  | sendError hworker =>
    rw [hworker] at hsaid
    -- what is sent is what is reported
    exact ⟨⟨hsaid.1, nofun⟩, fun _ => id, fun _ => rfl, hwaits⟩
  | closeDone hworker =>
    rw [hworker] at hsaid
    exact ⟨⟨rfl, hsaid.2⟩, hsent, hheld, fun _ => rfl⟩
  | goOn _ hdone => exact ⟨hsaid.of_eq rfl rfl id, hsent, by simp, fun _ => hdone⟩
  | pass hcommand hdone =>
    exact ⟨hsaid.of_eq rfl rfl id, hsent, fun _ => hheld (.inl hcommand), fun _ => hdone⟩
  | takeError _ _ => exact ⟨hsaid.of_eq rfl rfl id, nofun, by simp, nofun⟩
  | takeTimeout _ => exact ⟨hsaid.of_eq rfl rfl id, hsent, by simp, nofun⟩
  | watchError _ _ => exact ⟨hsaid.of_eq rfl rfl id, nofun, by simp, nofun⟩
  | generate hcommand =>
    refine ⟨hsaid.of_eq rfl rfl id, hsent, by simp, fun _ => hwaits ?_⟩
    rw [hcommand, Command.started]
  | finish hcommand =>
    refine ⟨hsaid.of_eq rfl rfl id, hsent, by simp, fun _ => hwaits ?_⟩
    rw [hcommand, Command.started]

theorem Consistent.step (hs : Consistent s) (f : Surroundings) (cmd : GenCommand) (a : Action) :
    Consistent (step f cmd s a) := by
  rcases step_cases f cmd s a with heq | ⟨_, hmoves⟩
  · rwa [heq]
  · exact hs.moves hmoves

/-! ## When the commands start -/

/-- The commands generate with the forwarding ready and only then; an error that was reported
leaves the command no other end. -/
structure StartsOnlyWhenReady (s : Session) : Prop where
  ready : s.command = .generating ∨ s.command = .finished → s.readyChan = true
  error : ∀ err, s.reported = some err →
    s.command = .waiting ∨ s.command = .passed ∨ s.command = .exited err

/-- The command does not go on, or give up, beside an error that `errChan` holds: the `select` of
`gen networkpolicy` takes it, and the watching goroutine of `gen seccomp` is first. -/
def TakesErrorFirst (cmd : GenCommand) (s : Session) : Action → Prop
  | .takeDone => cmd = .networkPolicy → s.command = .waiting → s.done = true → s.errChan = none
  | .takeTimeout => cmd = .networkPolicy → s.command = .waiting → s.errChan = none
  | .generate => s.command = .passed → s.errChan = none
  | _ => True

theorem startsOnlyWhenReady_portForward (f : Surroundings) :
    StartsOnlyWhenReady (portForward f) := by
  unfold portForward
  cases validate f with
  | error err => exact ⟨by simp, fun _ _ => .inl rfl⟩
  | ok clientset => exact ⟨by simp, nofun⟩

/-- Where nothing is held, nothing was reported to a command that has not ended. -/
theorem Consistent.reported_eq_none (hs : Consistent s)
    (hcommand : s.command = .waiting ∨ s.command = .passed) (herr : s.errChan = none) :
    s.reported = none := by
  rw [← hs.held hcommand, herr]

/-- As long as `done` is open the command waits. -/
theorem Consistent.waiting_of_open (hs : Consistent s) (hended : s.command.ended = false)
    (hopen : s.done = false) : s.command = .waiting := by
  have hstarted : s.command.started = false := by
    rw [← Bool.not_eq_true]
    intro hstarted
    exact absurd ((hs.waits hstarted).symm.trans hopen) (by decide)
  cases hcommand : s.command with
  | waiting => rfl
  | passed => simp [hcommand, Command.started] at hstarted
  | generating => simp [hcommand, Command.started] at hstarted
  | finished => simp [hcommand, Command.started] at hstarted
  | exited err => simp [hcommand, Command.ended] at hended
  | timedOut => simp [hcommand, Command.ended] at hended

theorem StartsOnlyWhenReady.moves {a : Action} (hs : Consistent s) (h : StartsOnlyWhenReady s)
    (hended : s.command.ended = false) (hmoves : Moves f s cmd a s')
    (hguard : TakesErrorFirst cmd s a) : StartsOnlyWhenReady s' := by
  cases hmoves with
  | setUpFails _ _ => exact ⟨h.ready, h.error⟩
  | setUp _ => exact ⟨h.ready, h.error⟩
  | becomeReady _ _ => exact ⟨fun _ => rfl, h.error⟩
  | forwardingFails _ => exact ⟨h.ready, h.error⟩
  | selectReady _ _ => exact ⟨h.ready, h.error⟩
  | selectError _ => exact ⟨h.ready, h.error⟩
  | selectTimeout _ => exact ⟨h.ready, h.error⟩
  | sendError hworker =>
    have hsaid := hs.said
    rw [hworker] at hsaid
    -- `done` is still open, so the command waits
    exact ⟨h.ready, fun _ _ => .inl (hs.waiting_of_open hended hsaid.1)⟩
  | closeDone _ => exact ⟨h.ready, h.error⟩
  | goOn hcommand hdone =>
    -- nothing was reported, or the error would be taken first
    have hnone := hs.reported_eq_none (.inl hcommand) (hguard rfl hcommand hdone)
    exact ⟨fun _ => hs.said.readyChan hdone hnone, fun err herr => by simp [hnone] at herr⟩
  | pass _ _ => exact ⟨by simp, fun _ _ => .inr (.inl rfl)⟩
  | takeError hcommand herr =>
    refine ⟨by simp, fun err' herr' => .inr (.inr ?_)⟩
    -- the error taken is the one sent
    rw [Option.some.inj (herr'.symm.trans (hs.sent _ herr))]
  | takeTimeout hcommand =>
    have hnone := hs.reported_eq_none (.inl hcommand) (hguard rfl hcommand)
    exact ⟨by simp, fun err herr => by simp [hnone] at herr⟩
  | watchError _ herr =>
    refine ⟨by simp, fun err' herr' => .inr (.inr ?_)⟩
    rw [Option.some.inj (herr'.symm.trans (hs.sent _ herr))]
  | generate hcommand =>
    have hnone := hs.reported_eq_none (.inr hcommand) (hguard hcommand)
    have hdone := hs.waits (by rw [hcommand, Command.started])
    exact ⟨fun _ => hs.said.readyChan hdone hnone, fun err herr => by simp [hnone] at herr⟩
  | finish hcommand =>
    refine ⟨fun _ => h.ready (.inl hcommand), fun err herr => ?_⟩
    have hnot := h.error err herr
    simp [hcommand] at hnot

theorem StartsOnlyWhenReady.step {a : Action} (hs : Consistent s) (h : StartsOnlyWhenReady s)
    (hguard : TakesErrorFirst cmd s a) : StartsOnlyWhenReady (step f cmd s a) := by
  rcases step_cases f cmd s a with heq | ⟨hended, hmoves⟩
  · rwa [heq]
  · exact h.moves hs hended hmoves hguard

/-- A command that leaves the `select` rightly, but not by an error, leaves none behind. -/
theorem Consistent.errChan_eq_none (hs : Consistent s) {command : Command}
    (hleft : ∀ err, ¬ (command = .waiting ∨ command = .passed ∨ command = .exited err))
    (hnext : StartsOnlyWhenReady { s with command := command }) : s.errChan = none := by
  cases herr : s.errChan with
  | none => rfl
  | some err => exact absurd (hnext.error err (hs.sent err herr)) (hleft err)

/-- A step that passes by an error is never made good. -/
theorem takesErrorFirst_of_step (hs : Consistent s) {a : Action}
    (hnext : StartsOnlyWhenReady (step f cmd s a)) : TakesErrorFirst cmd s a := by
  cases a with
  | takeDone =>
    rintro rfl hcommand hdone
    have hstep : step f .networkPolicy s .takeDone = { s with command := .generating } := by
      simp [PortForward.step, next, hcommand, hdone, Command.ended]
    rw [hstep] at hnext
    -- a command past its wait has no error left to take
    exact hs.errChan_eq_none (by simp) hnext
  | takeTimeout =>
    rintro rfl hcommand
    have hstep : step f .networkPolicy s .takeTimeout = { s with command := .timedOut } := by
      simp [PortForward.step, next, hcommand, Command.ended]
    rw [hstep] at hnext
    exact hs.errChan_eq_none (by simp) hnext
  | generate =>
    intro hcommand
    have hstep : step f cmd s .generate = { s with command := .generating } := by
      simp [PortForward.step, next, hcommand, Command.ended]
    rw [hstep] at hnext
    exact hs.errChan_eq_none (by simp) hnext
  | _ => trivial

/-! ## Whole runs -/

/-- No goroutine can take a step any more. -/
def AtRest (f : Surroundings) (cmd : GenCommand) (s : Session) : Prop :=
  s.command.ended = true ∨ ∀ a, next f cmd s a = none

/-- At rest, an error that was reported has ended the command. -/
theorem exited_of_atRest (hs : Consistent s) (h : StartsOnlyWhenReady s)
    (hrest : AtRest f cmd s) {err : String} (herr : s.reported = some err) :
    s.command = .exited err := by
  rcases h.error err herr with hcommand | hcommand | hcommand
  · exfalso
    rcases hrest with hended | hstuck
    · simp [hcommand, Command.ended] at hended
    have hheld : s.errChan = some err := (hs.held (.inl hcommand)).trans herr
    cases cmd with
    | networkPolicy => simpa [next, hcommand, hheld] using hstuck .takeError
    | seccomp =>
      -- the worker still has to close `done`, or has
      have hsaid := hs.said
      cases hworker : s.worker with
      | settingUp clientset =>
        rw [hworker] at hsaid
        simpa [herr] using hsaid.2
      | selecting =>
        rw [hworker] at hsaid
        simpa [herr] using hsaid.2
      | sending err =>
        rw [hworker] at hsaid
        simpa [herr] using hsaid.2
      | closing => simpa [next, hworker] using hstuck .closeDone
      | returned =>
        rw [hworker] at hsaid
        simpa [next, hcommand, hsaid.1] using hstuck .takeDone
  · exfalso
    rcases hrest with hended | hstuck
    · simp [hcommand, Command.ended] at hended
    · simpa [next, hcommand] using hstuck .generate
  · exact hcommand

/-- **The commands start only with the forwarding ready, and end with the error that was reported,
exactly in the schedules that take an error first**; where such a schedule has come to rest, the
command has ended so. -/
theorem startsOnlyWhenReady_iff (f : Surroundings) (cmd : GenCommand) (schedule : List Action) :
    (Always (step f cmd) StartsOnlyWhenReady (portForward f) schedule
      ↔ Meets (step f cmd) (TakesErrorFirst cmd) (portForward f) schedule)
    ∧ (Meets (step f cmd) (TakesErrorFirst cmd) (portForward f) schedule →
      AtRest f cmd (run (step f cmd) (portForward f) schedule) →
      ∀ err, (run (step f cmd) (portForward f) schedule).reported = some err →
        (run (step f cmd) (portForward f) schedule).command = .exited err) := by
  have hkept : ∀ s a, Consistent s ∧ StartsOnlyWhenReady s → TakesErrorFirst cmd s a →
      Consistent (step f cmd s a) ∧ StartsOnlyWhenReady (step f cmd s a) :=
    fun s a hs hguard => ⟨hs.1.step f cmd a, hs.2.step hs.1 hguard⟩
  have hstart := And.intro (consistent_portForward f) (startsOnlyWhenReady_portForward f)
  refine ⟨?_, fun h hrest err herr => ?_⟩
  · exact always_iff_meets_of_invariant (J := Consistent)
      (fun s a hready hs => ⟨⟨takesErrorFirst_of_step hs, hready.step hs⟩, hs.step f cmd a⟩)
      hstart.2 hstart.1
  · obtain ⟨hs, hready⟩ := (always_of_meets hkept hstart h).last
    exact exited_of_atRest hs hready hrest herr

/-! ## A cluster without the broker -/

def withoutBroker : Surroundings where
  config := some ⟨some ⟨fun _ _ => .error "not found", fun _ _ => .ok []⟩, true⟩
  kubeGuardianNamespace := ""
  roundTripperFor := .ok ()
  newForwarder _ := .ok ()

/-- Both commands can generate although `PortForward` has reported an error and the forwarding was
never ready: one `select` finds `done` closed as well, and one watching goroutine comes too late. -/
theorem not_startsOnlyWhenReady :
    (¬ ∀ schedule, Always (step withoutBroker .networkPolicy) StartsOnlyWhenReady
        (portForward withoutBroker) schedule)
      ∧ ¬ ∀ schedule, Always (step withoutBroker .seccomp) StartsOnlyWhenReady
        (portForward withoutBroker) schedule := by
  constructor
  · intro h
    have hlast := (h [.setUp, .sendError, .closeDone, .takeDone]).last
    exact absurd (hlast.ready (.inl rfl)) (by decide)
  · intro h
    have hlast := (h [.setUp, .sendError, .closeDone, .takeDone, .generate]).last
    exact absurd (hlast.ready (.inl rfl)) (by decide)

end KubeGuardian.Advisor.PortForward
