import KubeGuardian.Controller.SyscallPanic
import KubeGuardian.Controller.TrafficCache

/-!
# What a last sent set promises

A set that equals the one last sent is not sent again, so between two ticks it should have been
delivered. The sender marks the sets of a batch as sent before it posts the batch.

* **`marksDelivered_of_meets`** — the marks are right in all of a run in which no `POST` fails
  with a pod in its batch that has been quiet since its set was read.
-/

namespace KubeGuardian.Controller

open Lib

namespace Recorder

/-! ## The property and the condition -/

/-- The pod's set went to the broker, in a batch that was accepted. -/
def Delivered (s : Recorder) (podName : String) (syscalls : HashSet String) : Prop :=
  ∃ exchange ∈ s.exchanges, Taken exchange.2 ∧
    ∃ entry ∈ exchange.1, entry.podName = podName ∧ entry.syscalls.Perm syscalls.elems

/-- The pod has a set, and no visit finds it different from the one last sent. -/
def Quiet (s : Recorder) (podName : String) : Prop :=
  (s.syscallCache.get podName).elems ≠ [] ∧
    (s.syscallCache.get podName).Same (s.lastSentCache.get podName)

instance (s : Recorder) (podName : String) : Decidable (s.Quiet podName) :=
  inferInstanceAs (Decidable (_ ∧ _))

/-- Between ticks, what is not sent again has been delivered. -/
def MarksDelivered (s : Recorder) : Prop :=
  s.batch = [] → ∀ podName, s.Quiet podName →
    s.Delivered podName (s.syscallCache.get podName)

/-- The set waits in the batch of the current tick. -/
def Pending (s : Recorder) (podName : String) (syscalls : HashSet String) : Prop :=
  ∃ entry ∈ s.batch, entry.podName = podName ∧ entry.syscalls.Perm syscalls.elems

/-- A `POST` that fails carries no set of a quiet pod that was not delivered before, and no event
makes the set of an entry that had been dropped up to one last sent in vain. -/
def SendsWell (host : Host) (s : Recorder) : RecorderInput → Prop
  | .post sent => Taken sent ∨ ∀ entry ∈ s.batch, s.Quiet entry.podName →
      s.Delivered entry.podName (s.syscallCache.get entry.podName)
  | .syscall inodeNum netNs id => ∀ podInspect syscallName, netNs ∈ inodeNum →
      s.containerMap.lookup netNs = some podInspect →
      host.syscallName (sysnbrOf id) = some syscallName →
      let syscalls := s.syscallCache.get podInspect.status.podName
      syscallName ∉ syscalls →
      (syscalls.insert syscallName).Same (s.lastSentCache.get podInspect.status.podName) →
      s.Delivered podInspect.status.podName (syscalls.insert syscallName)
        ∨ s.Pending podInspect.status.podName (syscalls.insert syscallName)
  | _ => True

/-! ## One input -/

/-- The property with the current tick: a quiet pod's set is delivered or on its way. -/
def Covered (s : Recorder) : Prop :=
  ∀ podName, s.Quiet podName → s.Delivered podName (s.syscallCache.get podName)
    ∨ s.Pending podName (s.syscallCache.get podName)

theorem Covered.marksDelivered {s : Recorder} (h : s.Covered) : s.MarksDelivered := by
  intro hbatch podName hquiet
  rcases h podName hquiet with hdelivered | ⟨entry, hentry, _⟩
  · exact hdelivered
  · simp [hbatch] at hentry

theorem covered_visit {host : Host} {s : Recorder} (hs : s.Covered) (podName : String)
    (order : Reordering String) (timeStamp : Nat) :
    (s.visit host podName order timeStamp).Covered := by
  rcases visit_cases host s podName order timeStamp
    with ⟨_, h⟩ | ⟨syscalls, hlookup, _, h⟩ | ⟨_, _, _, h⟩
  · rw [h]; exact hs
  · -- the visited pod is pending, the others are as before
    rw [h]
    rintro podName' ⟨hne, hsame⟩
    by_cases hpod : podName' = podName
    · subst hpod
      refine .inr ⟨_, List.mem_append_right _ (List.mem_singleton_self _), rfl, ?_⟩
      rw [SyscallCache.get_of_lookup hlookup]
      exact syscalls.perm_iter order
    · rw [SyscallCache.get_insert_ne _ _ hpod] at hsame
      rcases hs podName' ⟨hne, hsame⟩ with hdelivered | ⟨entry, hentry, h⟩
      · exact .inl hdelivered
      · -- what was pending is still pending
        exact .inr ⟨entry, List.mem_append_left _ hentry, h⟩
  · rw [h]
    rintro podName' ⟨hne, hsame⟩
    exact hs podName' ⟨hne, by simpa using hsame⟩

theorem covered_post {host : Host} {s : Recorder} (hs : s.Covered) {sent : Sent}
    (hsent : SendsWell host s (.post sent)) : (s.post sent).Covered := by
  unfold post
  split
  · exact hs
  · intro podName hquiet
    refine .inl ?_
    rcases hs podName hquiet with ⟨exchange, hmem, h⟩ | ⟨entry, hentry, rfl, hperm⟩
    · exact ⟨exchange, List.mem_append_left _ hmem, h⟩
    · rcases hsent with htaken | hbefore
      · exact ⟨_, List.mem_append_right _ (List.mem_singleton_self _), htaken, entry, hentry, rfl,
          hperm⟩
      · obtain ⟨exchange, hmem, h⟩ := hbefore entry hentry hquiet
        exact ⟨exchange, List.mem_append_left _ hmem, h⟩

theorem covered_syscall {host : Host} {s : Recorder} (hs : s.Covered) {inodeNum : Finset UInt64}
    {netNs : UInt64} {id : Int64} (hwell : SendsWell host s (.syscall inodeNum netNs id)) :
    (s.next host (.syscall inodeNum netNs id)).Covered := by
  rcases next_syscall_cases host s inodeNum netNs id
    with h | ⟨_, h⟩ | ⟨pod, name, hmem, hpod, hname, h⟩
  · rw [h]; exact hs
  · rw [h]; exact hs
  · rw [h]
    rintro podName ⟨hne, hsame⟩
    by_cases heq : podName = pod.status.podName
    · subst heq
      simp only [record, SyscallCache.get_insert] at hne hsame ⊢
      by_cases hold : name ∈ s.syscallCache.get pod.status.podName
      · -- the name is there already
        rw [HashSet.insert_of_mem hold] at hne hsame ⊢
        exact hs _ ⟨hne, hsame⟩
      · exact hwell pod name hmem hpod hname hold hsame
    · simp only [record, SyscallCache.get_insert_ne _ _ heq] at hne hsame ⊢
      exact hs podName ⟨hne, hsame⟩

theorem covered_step {host : Host} {s : Recorder} (hs : s.Covered) {i : RecorderInput}
    (hwell : SendsWell host s i) : (s.step host i).Covered := by
  unfold step
  split
  · exact hs
  · cases i with
    | syscall inodeNum netNs id => exact covered_syscall hs hwell
    | visit podName order timeStamp => exact covered_visit hs podName order timeStamp
    | post sent => exact covered_post hs hwell
    | register inodeNum podInspect => exact hs
    | evictSyscalls podName =>
      rintro podName' ⟨hne, hsame⟩
      by_cases hpod : podName' = podName
      · subst hpod
        -- the dropped set is the empty one
        simp [next, SyscallCache.get] at hne
      · simp only [next, SyscallCache.get_erase_ne _ hpod] at hne hsame ⊢
        exact hs podName' ⟨hne, hsame⟩
    | evictLastSent podName =>
      rintro podName' ⟨hne, hsame⟩
      by_cases hpod : podName' = podName
      · -- no set but the empty one equals a dropped one
        subst hpod
        simp only [next, SyscallCache.get_erase] at hsame
        exact absurd (List.perm_nil.mp hsame) hne
      · simp only [next, SyscallCache.get_erase_ne _ hpod] at hsame
        exact hs podName' ⟨hne, hsame⟩

/-! ## Without evictions -/

/-- Sets only grow. -/
theorem mem_syscallCache_step {host : Host} {s : Recorder} {podName name : String}
    (h : name ∈ s.syscallCache.get podName) {i : RecorderInput} (hi : ¬ i.Evicts) :
    name ∈ (s.step host i).syscallCache.get podName := by
  unfold step
  split
  · exact h
  · cases i with
    | syscall inodeNum netNs id =>
      rcases next_syscall_cases host s inodeNum netNs id
        with hnext | ⟨_, hnext⟩ | ⟨pod, _, _, _, _, hnext⟩
      · rw [hnext]; exact h
      · rw [hnext]; exact h
      · rw [hnext]
        -- a recorded name joins its own pod's set
        by_cases heq : podName = pod.status.podName
        · subst heq
          simp [record, h]
        · simpa [record, SyscallCache.get_insert_ne _ _ heq] using h
    | visit podName order timeStamp =>
      rw [next]
      rcases visit_cases host s podName order timeStamp
        with ⟨_, hnext⟩ | ⟨_, _, _, hnext⟩ | ⟨_, _, _, hnext⟩
      all_goals rw [hnext]; exact h
    | post sent => simpa [next] using h
    | register inodeNum podInspect => exact h
    | evictSyscalls podName => exact absurd trivial hi
    | evictLastSent podName => exact absurd trivial hi

/-- What was sent of a pod is part of its set. -/
def SentIsKept (s : Recorder) : Prop :=
  ∀ podName, ∀ name ∈ s.lastSentCache.get podName, name ∈ s.syscallCache.get podName

theorem sentIsKept_step {host : Host} {s : Recorder} (hs : s.SentIsKept) {i : RecorderInput}
    (hi : ¬ i.Evicts) : (s.step host i).SentIsKept := by
  intro podName name hsent
  by_cases hold : name ∈ s.lastSentCache.get podName
  · exact mem_syscallCache_step (hs podName name hold) hi
  · -- only a visit writes the other cache, and it writes the set
    unfold step at hsent ⊢
    split at hsent
    · exact absurd hsent hold
    · next halive =>
      rw [if_neg halive]
      cases i with
      | syscall inodeNum netNs id =>
        rcases next_syscall_cases host s inodeNum netNs id
          with hnext | ⟨_, hnext⟩ | ⟨_, _, _, _, _, hnext⟩
        all_goals rw [hnext] at hsent; exact absurd hsent hold
      | visit visited order timeStamp =>
        rw [next] at hsent ⊢
        rcases visit_cases host s visited order timeStamp
          with ⟨_, hnext⟩ | ⟨syscalls, hlookup, _, hnext⟩ | ⟨_, _, _, hnext⟩
        · exact absurd (hnext ▸ hsent) hold
        · rw [hnext] at hsent ⊢
          by_cases heq : podName = visited
          · subst heq
            rw [SyscallCache.get_insert] at hsent
            rwa [SyscallCache.get_of_lookup hlookup]
          · rw [SyscallCache.get_insert_ne _ _ heq] at hsent
            exact absurd hsent hold
        · rw [hnext] at hsent
          exact absurd (by simpa using hsent) hold
      | post sent => exact absurd (by simpa [next] using hsent) hold
      | register inodeNum podInspect => exact absurd hsent hold
      | evictSyscalls podName => exact absurd trivial hi
      | evictLastSent podName => exact absurd trivial hi

theorem sentIsKept_run {host : Host} {inputs : List RecorderInput}
    (hevicts : ∀ i ∈ inputs, ¬ i.Evicts) : (run (step host) (start ∅) inputs).SentIsKept := by
  induction inputs using List.reverseRecOn with
  | nil => exact fun podName name hname => hname
  | append_singleton inputs i ih =>
    rw [run_snoc]
    exact sentIsKept_step (ih fun j hj => hevicts j (by simp [hj])) (hevicts i (by simp))

/-- A name that is new to a pod is not in what was sent of it, so no event makes up a set that was
sent. -/
theorem SentIsKept.sendsWell_syscall {host : Host} {s : Recorder} (hs : s.SentIsKept)
    (inodeNum : Finset UInt64) (netNs : UInt64) (id : Int64) :
    SendsWell host s (.syscall inodeNum netNs id) := by
  intro podInspect syscallName _ _ _ syscalls hnew hsame
  have hsent := (HashSet.same_iff.mp hsame syscallName).mp (by simp)
  exact absurd (hs _ _ hsent) hnew

/-- A step that leaves the marks right sends well, as long as nothing is dropped. -/
theorem sendsWell_of_marksDelivered {host : Host} {s : Recorder} (hs : s.SentIsKept)
    (halive : s.panicked = false) {i : RecorderInput} (h : (s.step host i).MarksDelivered) :
    SendsWell host s i := by
  cases i with
  | syscall inodeNum netNs id => exact hs.sendsWell_syscall inodeNum netNs id
  | post sent =>
    by_cases hbatch : s.batch = []
    · exact .inr (by simp [hbatch])
    · -- the batch leaves with the answer it got
      have hstep : s.step host (.post sent)
          = { s with batch := [], exchanges := s.exchanges ++ [(s.batch, sent)] } := by
        simp [step, halive, next, post, hbatch]
      by_cases htaken : Taken sent
      · exact .inl htaken
      · refine .inr fun entry _ hquiet => ?_
        rw [hstep] at h
        obtain ⟨exchange, hmem, hexchange, hentry⟩ := h rfl entry.podName hquiet
        -- taken earlier, or by this request after all
        rcases List.mem_append.mp hmem with hold | hnew
        · exact ⟨exchange, hold, hexchange, hentry⟩
        · obtain rfl := List.mem_singleton.mp hnew
          exact absurd hexchange htaken
  | visit podName order timeStamp => trivial
  | register inodeNum podInspect => trivial
  | evictSyscalls podName => trivial
  | evictLastSent podName => trivial

/-! ## Runs -/

/-- **The marks are right, in all of a run, where the sender sends well**; and, where no entry is
dropped, only there. -/
theorem marksDelivered_of_meets (host : Host) (inputs : List RecorderInput) :
    (Meets (step host) (fun s i => s.panicked = false → SendsWell host s i) (start ∅) inputs →
        Always (step host) MarksDelivered (start ∅) inputs)
      ∧ ((∀ i ∈ inputs, ¬ i.Evicts) → Always (step host) MarksDelivered (start ∅) inputs →
        Meets (step host) (fun s i => s.panicked = false → SendsWell host s i) (start ∅)
          inputs) := by
  constructor
  · intro h
    -- nothing is recorded at the start
    have hstart : (start ∅).Covered := by
      rintro podName ⟨hne, _⟩
      exact absurd rfl hne
    refine (always_of_meets (P := Covered) (fun s i hs hwell => ?_) hstart h).imp
      fun _ hs => hs.marksDelivered
    by_cases halive : s.panicked = false
    · exact covered_step hs (hwell halive)
    · simpa [step, halive] using hs
  · intro hevicts h
    -- nothing is sent at the start
    have hstart : (start ∅).SentIsKept := fun podName name hname => hname
    have hstep : ∀ s i, ¬ i.Evicts → SentIsKept s → (s.step host i).MarksDelivered →
        (s.panicked = false → SendsWell host s i) ∧ (s.step host i).SentIsKept :=
      fun s i hi hs hmarks =>
        ⟨fun halive => sendsWell_of_marksDelivered hs halive hmarks, sentIsKept_step hs hi⟩
    exact meets_of_always hstep hstart hevicts h

/-! ## Two lost batches -/

/-- `web` makes one syscall, and the broker is not reached when the batch with it is posted. -/
def lostBatch : List RecorderInput :=
  [.register 1 webPod, .syscall {1} 1 0, .visit "web" .stored 1, .post (.error "connect")]

def noNames : Host := ⟨"x86_64", fun _ _ => none⟩

/-- The next tick, which visits the pod again and could deliver the set, posts nothing. -/
theorem lost_batch_not_sent_again :
    ¬ Always (step noNames) MarksDelivered (start ∅) lostBatch
      ∧ (run (step noNames) (start ∅)
          (lostBatch ++ [.visit "web" .stored 2, .post (.ok ⟨200⟩)])).exchanges
        = (run (step noNames) (start ∅) lostBatch).exchanges := by
  constructor
  · intro h
    have hquiet : (run (step noNames) (start ∅) lostBatch).Quiet "web" := by decide +kernel
    obtain ⟨exchange, hmem, htaken, -⟩ := h.last rfl "web" hquiet
    have hlost : (run (step noNames) (start ∅) lostBatch).exchanges.map (·.2)
        = [.error "connect"] := rfl
    have hsent : exchange.2 = .error "connect" := by
      simpa [hlost] using List.mem_map_of_mem (f := (·.2)) hmem
    rw [hsent] at htaken
    exact htaken
  · rfl

/-- `web` makes another syscall before the batch is posted, so the next tick sends its set again. -/
def sentAgain : List RecorderInput :=
  [.register 1 webPod, .syscall {1} 1 0, .visit "web" .stored 1, .syscall {1} 1 1,
    .post (.error "connect"), .visit "web" .stored 2, .post (.ok ⟨200⟩)]

theorem sendsWell_sentAgain :
    Meets (step noNames) (fun s i => s.panicked = false → SendsWell noNames s i) (start ∅)
      sentAgain := by
  have hkept : ∀ n, (run (step noNames) (start ∅) (sentAgain.take n)).SentIsKept := by
    refine fun n => sentIsKept_run fun i hi => ?_
    have hmem := List.mem_of_mem_take hi
    simp only [sentAgain, List.mem_cons, List.not_mem_nil, or_false] at hmem
    rcases hmem with rfl | rfl | rfl | rfl | rfl | rfl | rfl <;> exact id
  refine ⟨fun _ => trivial, fun _ => (hkept 1).sendsWell_syscall {1} 1 0, fun _ => trivial,
    fun _ => (hkept 3).sendsWell_syscall {1} 1 1, fun _ => .inr fun entry hentry hquiet => ?_,
    fun _ => trivial, fun _ => .inl ⟨by decide, by decide⟩, trivial⟩
  -- the set of `web` has grown since it was put into the batch
  have hweb : entry.podName ∈ ["web"] := List.mem_map_of_mem (f := (·.podName)) hentry
  rw [List.mem_singleton.mp hweb] at hquiet
  exact absurd hquiet (by decide +kernel)

/-- The first `POST` fails, and all marks are right nevertheless. -/
theorem marksDelivered_of_meets_sent_again :
    Always (step noNames) MarksDelivered (start ∅) sentAgain
      ∧ (run (step noNames) (start ∅) sentAgain).exchanges.map (·.2)
        = [.error "connect", .ok ⟨200⟩] :=
  ⟨(marksDelivered_of_meets noNames sentAgain).1 sendsWell_sentAgain, rfl⟩

end Recorder

end KubeGuardian.Controller
