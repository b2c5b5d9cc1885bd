import KubeGuardian.Controller.Progress
import KubeGuardian.Lib.Account

/-!
# Every event is handled once

An event goes from the buffer of its probe through a callback and a channel to a handler, which
keeps it while it waits for its mutexes. The kernel may drop it from the buffer; from there on
nothing is lost and nothing comes twice.

* **`accounted_run`** — what the probes have emitted is what the handlers are done with, what the
  buffers have lost and what is on its way;
* **`handled_of_rounds`** — and after enough rounds nothing is.
-/

namespace KubeGuardian.Controller

open Lib

/-- Events of both kinds, counted. -/
abbrev Events (τ : Type*) := Multiset (τ × NetworkEventData) × Multiset SyscallEventData

def Events.of {τ : Type*} (network : List (τ × NetworkEventData))
    (syscall : List SyscallEventData) : Events τ := (↑network, ↑syscall)

namespace Tasks

variable {τ : Type*}

/-- What the probes emit, which are detached when the loop ends. -/
def emits (cfg : NodeConfig) (t : Tasks τ) : TaskInput τ → Events τ
  | .outside (.network tag mem call) =>
    if t.node.panicked ∨ t.node.loop = .ended then 0
    else .of ((fire cfg.endian t.node.network mem call).2.toList.map (tag, ·)) []
  | .outside (.syscall netNs id) =>
    if t.node.panicked ∨ t.node.loop = .ended then 0
    else .of [] ((traceExecve t.node.syscallInodeNum.keySet netNs id).toList.map
      fun data => .ofBytes data.bytes)
  | _ => 0

/-- What drops out of a buffer. -/
def loses (t : Tasks τ) : TaskInput τ → Events τ
  | .outside (.loseNetwork n) =>
    if t.node.panicked then 0 else .of t.node.networkEvents[n]?.toList []
  | .outside (.loseSyscall n) =>
    if t.node.panicked then 0 else .of [] t.node.syscallEvents[n]?.toList
  | _ => 0

/-- What a handler is done with. -/
def handles (cfg : NodeConfig) (t : Tasks τ) : TaskInput τ → Events τ
  | .network _ _ => if t.node.panicked then 0 else .of t.doneNetwork []
  | .syscall => if t.node.panicked then 0 else .of [] (t.doneSyscall cfg)
  | _ => 0

def waiting (t : Tasks τ) : Events τ := .of t.networkWaiting t.syscallWaiting

section Step

variable {cfg : NodeConfig} {t t' : Tasks τ}

theorem Events.of_nil : (Events.of [] [] : Events τ) = 0 := rfl

theorem Events.of_add_of (l l' : List (τ × NetworkEventData)) (m m' : List SyscallEventData) :
    Events.of l m + Events.of l' m' = Events.of (l ++ l') (m ++ m') := rfl

theorem Events.of_eq_of {l l' : List (τ × NetworkEventData)} {m m' : List SyscallEventData}
    (hl : l.Perm l') (hm : m.Perm m') : Events.of l m = Events.of l' m' :=
  Prod.ext (Multiset.coe_eq_coe.mpr hl) (Multiset.coe_eq_coe.mpr hm)

theorem Passes.waiting_eq {network : List (τ × NetworkEventData)} {syscall : List SyscallEventData}
    (h : Passes t t' network syscall) : t.waiting = .of network syscall + t'.waiting := by
  unfold waiting
  rw [Events.of_add_of]
  exact Events.of_eq_of h.network h.syscall

/-- A call puts its event behind the others. -/
theorem waiting_networkCall (tag : τ) (mem : Memory) (call : ProbeCall)
    (hrunning : t.node.panicked = false) :
    t.waiting + emits cfg t (.outside (.network tag mem call))
      = waiting { t with node := t.node.networkCall cfg tag mem call } := by
  by_cases hended : t.node.loop = .ended
  · simp [emits, Node.networkCall, hended]
  · simp only [emits, hrunning, hended, Node.networkCall, Bool.false_eq_true, or_self, if_false]
    unfold waiting
    rw [Events.of_add_of]
    refine Events.of_eq_of (.of_eq ?_) (.of_eq (List.append_nil _))
    simp [networkWaiting, networkAway]

theorem waiting_syscallCall (netNs : UInt64) (id : Int64) (hrunning : t.node.panicked = false) :
    t.waiting + emits cfg t (.outside (.syscall netNs id))
      = waiting { t with node := t.node.syscallCall netNs id } := by
  by_cases hended : t.node.loop = .ended
  · simp [emits, Node.syscallCall, hended]
  · simp only [emits, hrunning, hended, Node.syscallCall, Bool.false_eq_true, or_self, if_false]
    cases traceExecve t.node.syscallInodeNum.keySet netNs id with
    | none => exact add_zero _
    | some data =>
      unfold waiting
      rw [Events.of_add_of]
      refine Events.of_eq_of (.of_eq (List.append_nil _)) (.of_eq ?_)
      simp [syscallWaiting, syscallAway]

theorem perm_lost {α : Type*} (away waiting : List α) (n : Nat) :
    (away ++ waiting).Perm (waiting[n]?.toList ++ (away ++ waiting.eraseIdx n)) := by
  cases hn : waiting[n]? with
  | none =>
    rw [List.eraseIdx_of_length_le (List.getElem?_eq_none_iff.mp hn)]
    rfl
  | some a => exact ((perm_of_getElem? hn).append_left away).trans List.perm_middle

/-- What comes from outside: calls that put events in, and a buffer that drops one. -/
theorem accounted_outside (i : NodeInput τ) (hrunning : t.node.panicked = false) :
    t.waiting + emits cfg t (.outside i) = t.loses (.outside i) + (t.outside cfg i).waiting := by
  have hblind : ∀ {g : Node τ → Node τ} {dropped}, Blind g →
      t.waiting + 0 = 0 + waiting { t with node := g t.node, dropped := dropped } := by
    intro g dropped hg
    rw [add_zero, (passes_blind hg dropped).waiting_eq, Events.of_nil]
  cases i with
  | apply pod runtime => exact hblind (blind_apply cfg pod runtime)
  | evict key => exact hblind (g := fun s => s.next cfg (.evict key)) fun _ _ _ => rfl
  | evictSyscalls podName =>
    exact hblind (g := fun s => s.next cfg (.evictSyscalls podName)) fun _ _ _ => rfl
  | network tag mem call =>
    exact (waiting_networkCall tag mem call hrunning).trans (zero_add _).symm
  | syscall netNs id => exact (waiting_syscallCall netNs id hrunning).trans (zero_add _).symm
  | loseNetwork n =>
    simp only [emits, loses, hrunning, Bool.false_eq_true, if_false, add_zero]
    refine Events.of_eq_of ?_ (.refl _)
    exact perm_lost t.networkAway t.node.networkEvents n
  | loseSyscall n =>
    simp only [emits, loses, hrunning, Bool.false_eq_true, if_false, add_zero]
    refine Events.of_eq_of (.refl _) ?_
    exact perm_lost t.syscallAway t.node.syscallEvents n
  | _ => exact add_comm _ _

/-- **The books of one step.** -/
theorem accounted_step (cfg : NodeConfig) (t : Tasks τ) (i : TaskInput τ) :
    t.waiting + emits cfg t i = (handles cfg t i + loses t i) + (t.step cfg i).waiting := by
  -- no event comes or goes
  have hpasses : ∀ {t' : Tasks τ}, Passes t t' [] [] → t.waiting + 0 = 0 + 0 + t'.waiting := by
    intro t' h
    rw [add_zero, add_zero, h.waiting_eq, Events.of_nil]
  cases hpanicked : t.node.panicked with
  | true =>
    have hsame : t.step cfg i = t := if_pos hpanicked
    rw [hsame, add_comm]
    cases i with
    | outside i => cases i <;> simp [emits, handles, loses, hpanicked]
    | _ => simp [emits, handles, loses, hpanicked]
  | false =>
    have hnext : t.step cfg i = t.next cfg i := if_neg (by simp [hpanicked])
    rw [hnext]
    cases i with
    | outside i =>
      show t.waiting + emits cfg t (.outside i)
        = 0 + t.loses (.outside i) + (t.outside cfg i).waiting
      rw [zero_add]
      exact accounted_outside i hpanicked
    | tick podNames =>
      refine hpasses ?_
      show Passes t (t.tick podNames) [] []
      unfold Tasks.tick
      split <;> exact ⟨.refl _, .refl _⟩
    | look =>
      refine hpasses ?_
      show Passes t t.look [] []
      unfold Tasks.look
      split <;> exact ⟨.refl _, .refl _⟩
    | watcher => exact hpasses passes_watch
    | network stamp sent =>
      have hdone : Passes t (t.handleNetwork cfg stamp sent) t.doneNetwork [] :=
        passes_handleNetwork stamp sent
      simp only [emits, handles, loses, hpanicked, Bool.false_eq_true, if_false, add_zero]
      exact hdone.waiting_eq
    | syscall =>
      have hdone : Passes t (t.handleSyscall cfg) [] (t.doneSyscall cfg) := passes_handleSyscall
      simp only [emits, handles, loses, hpanicked, Bool.false_eq_true, if_false, add_zero]
      exact hdone.waiting_eq
    | recorder => exact hpasses passes_record
    | ebpf n => exact hpasses (passes_poll n)

end Step

/-- The books of a run from anywhere: what waits at first and what comes in is what goes out and
what waits at last. -/
theorem waiting_add_emits (cfg : NodeConfig) (t : Tasks τ) (inputs : List (TaskInput τ)) :
    t.waiting + total (Tasks.step cfg) (emits cfg) t inputs
      = total (Tasks.step cfg) (handles cfg) t inputs + total (Tasks.step cfg) loses t inputs
        + (run (Tasks.step cfg) t inputs).waiting := by
  have hbooks := held_add_total (accounted_step cfg) t inputs
  rwa [total_add] at hbooks

/-- **Nothing is lost and nothing comes twice**: in every run of the tasks, what the probes have
emitted is what the handlers are done with, what dropped out of the buffers, and what is on its
way. -/
theorem accounted_run (cfg : NodeConfig) (inputs : List (TaskInput τ)) :
    total (Tasks.step cfg) (emits cfg) (Tasks.start τ) inputs
      = total (Tasks.step cfg) (handles cfg) (Tasks.start τ) inputs
        + total (Tasks.step cfg) loses (Tasks.start τ) inputs
        + (run (Tasks.step cfg) (Tasks.start τ) inputs).waiting :=
  -- nothing waits at the start
  (zero_add _).symm.trans (waiting_add_emits cfg (Tasks.start τ) inputs)

theorem emits_eq_zero {cfg : NodeConfig} {t : Tasks τ} {i : TaskInput τ} (hi : t.OnTurn i) :
    emits cfg t i = 0 := by
  cases i <;> first | rfl | exact hi.elim

theorem loses_eq_zero {t : Tasks τ} {i : TaskInput τ} (hi : t.OnTurn i) : t.loses i = 0 := by
  cases i <;> first | rfl | exact hi.elim

/-- Once the tasks have come to rest every event has been handled, but for those that dropped out of
the buffers. -/
theorem handled_of_rounds (cfg : NodeConfig) (inputs : List (TaskInput τ))
    {rounds : List (List (TaskInput τ))}
    (hfair : ∀ round ∈ rounds, ∀ task, ∃ i ∈ round, i.task = some task)
    (hturns : Meets (Tasks.step cfg) OnTurn (run (Tasks.step cfg) (Tasks.start τ) inputs)
      rounds.flatten)
    (hmany : (run (Tasks.step cfg) (Tasks.start τ) inputs).toDo cfg < rounds.length)
    (hrunning : (run (Tasks.step cfg) (Tasks.start τ) (inputs ++ rounds.flatten)).node.panicked
      = false)
    (hloop : (run (Tasks.step cfg) (Tasks.start τ) (inputs ++ rounds.flatten)).node.loop
      ≠ .ended) :
    total (Tasks.step cfg) (emits cfg) (Tasks.start τ) inputs
      = total (Tasks.step cfg) (handles cfg) (Tasks.start τ) (inputs ++ rounds.flatten)
        + total (Tasks.step cfg) loses (Tasks.start τ) inputs := by
  have hidle : (run (Tasks.step cfg) (Tasks.start τ) (inputs ++ rounds.flatten)).Idle := by
    have hfinished :
        (run (Tasks.step cfg) (Tasks.start τ) (inputs ++ rounds.flatten)).Finished := by
      rw [run_append]
      exact (drains cfg).finishes ⟨inputs, rfl⟩ hfair hturns hmany
    rcases hfinished with hpanicked | hended | hidle
    · simp [hrunning] at hpanicked
    · exact absurd hended hloop
    · exact hidle
  have hwaiting :
      (run (Tasks.step cfg) (Tasks.start τ) (inputs ++ rounds.flatten)).waiting = 0 := by
    unfold waiting
    rw [hidle.networkEvents, hidle.syscallEvents]
    rfl
  -- the rounds let nothing in from outside
  have hemits : total (Tasks.step cfg) (emits cfg) (Tasks.start τ) (inputs ++ rounds.flatten)
      = total (Tasks.step cfg) (emits cfg) (Tasks.start τ) inputs := by
    rw [total_append, total_eq_zero (fun _ _ hi => emits_eq_zero hi) hturns, add_zero]
  have hloses : total (Tasks.step cfg) loses (Tasks.start τ) (inputs ++ rounds.flatten)
      = total (Tasks.step cfg) loses (Tasks.start τ) inputs := by
    rw [total_append, total_eq_zero (fun _ _ hi => loses_eq_zero hi) hturns, add_zero]
  have hbooks := waiting_add_emits cfg (Tasks.start τ) (inputs ++ rounds.flatten)
  rw [hwaiting, add_zero] at hbooks
  rw [← hemits, ← hloses]
  exact (zero_add _).symm.trans hbooks

end Tasks

end KubeGuardian.Controller
