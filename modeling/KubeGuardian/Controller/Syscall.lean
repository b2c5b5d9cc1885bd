import KubeGuardian.Controller.Network
import KubeGuardian.Lib.Bytes
import KubeGuardian.Lib.HashSet
import KubeGuardian.Lib.Run
import Mathlib.Data.List.AList

/-!
# The recorder of syscalls

`trace_execve` of `controller/src/bpf/syscall.bpf.c` and `controller/src/syscall.rs`. The handler
adds a name for each event to the set of the pod; once a minute the sender visits the sets one by
one, and posts those that differ from what it last sent in one batch.

The handler and the sender take turns in any order, and both caches drop entries when they like.
Which entries a tick visits, and when, is left to the run: the iterator over the cache promises no
order. An event is one step and so is a visit, since each holds the lock of the pod's set.
-/

namespace KubeGuardian.Controller

open Lib

/-! ## From the probe to the handler

The probe writes 16 bytes, of which the handler reads the first 12: the namespace whole, and the
lower half of the number.
-/

/-- A `data_t` of the probe: 16 bytes without padding. -/
structure DataT where
  inum : UInt64
  sysnbr : UInt64

/-- `trace_execve`, for a syscall `id` of a process in the network namespace `netNs`. -/
def traceExecve (inodeNum : Finset UInt64) (netNs : UInt64) (id : Int64) : Option DataT :=
  if netNs ∈ inodeNum then
    -- a `long` goes into a `__u64`
    some ⟨netNs, id.toUInt64⟩
  else none

def DataT.bytes (data : DataT) : List UInt8 :=
  bytesLE 8 data.inum.toNat ++ bytesLE 8 data.sysnbr.toNat

structure SyscallEventData where
  inum : UInt64
  sysnbr : UInt32

/-- The sample as `sample_cb` reads it, four bytes short of its end. -/
def SyscallEventData.ofBytes (data : List UInt8) : SyscallEventData where
  inum := .ofNat (ofBytesLE (data.take 8))
  sysnbr := .ofNat (ofBytesLE ((data.drop 8).take 4))

/-- What arrives of a syscall number: its low half. -/
def sysnbrOf (id : Int64) : UInt32 := .ofNat (id.toUInt64.toNat % 2 ^ 32)

/-- The handler sees the number modulo two to the thirty-second. -/
theorem toNat_sysnbrOf (id : Int64) : (sysnbrOf id).toNat = id.toUInt64.toNat % 2 ^ 32 := by
  simp [sysnbrOf]

/-- **What comes out of the buffer is what went in**, but for the upper half of the number. -/
theorem ofBytes_bytes (netNs : UInt64) (id : Int64) :
    SyscallEventData.ofBytes (DataT.bytes ⟨netNs, id.toUInt64⟩) = ⟨netNs, sysnbrOf id⟩ := by
  have hinum : netNs.toNat % 256 ^ 8 = netNs.toNat :=
    Nat.mod_eq_of_lt (by have := netNs.toNat_lt; omega)
  have htake : (DataT.bytes ⟨netNs, id.toUInt64⟩).take 8 = bytesLE 8 netNs.toNat := by
    simp [DataT.bytes]
  have hdrop : (DataT.bytes ⟨netNs, id.toUInt64⟩).drop 8 = bytesLE 8 id.toUInt64.toNat := by
    simp [DataT.bytes]
  unfold SyscallEventData.ofBytes
  rw [htake, hdrop, ofBytesLE_bytesLE, ofBytesLE_take (by omega), hinum, UInt64.ofNat_toNat]
  rfl

/-! ## The name of a syscall

What libseccomp says of a number depends on the architecture that the controller was built for,
which is a parameter.
-/

inductive ScmpArch where
  | x8664
  | aarch64

/-- What differs from node to node: the architecture that the controller was built for, and what
libseccomp calls a syscall there. -/
structure Host where
  arch : String
  getNameByArch : ScmpArch → Int32 → Option String

/-- The lookup of a name: an architecture that is neither of the two has no names. -/
def Host.getSyscallName (host : Host) (syscallNumber : Int32) : Option String :=
  if host.arch = "x86_64" then host.getNameByArch .x8664 syscallNumber
  else if host.arch = "aarch64" then host.getNameByArch .aarch64 syscallNumber
  else none

/-- `try_into` from `u32` to `i32`. -/
def tryIntoI32 (n : UInt32) : Option Int32 :=
  if n.toNat < 2 ^ 31 then some n.toInt32 else none

/-- The name that an event is recorded under; `none` where the `unwrap` panics. -/
def Host.syscallName (host : Host) (sysnbr : UInt32) : Option String :=
  (tryIntoI32 sysnbr).map fun syscallNumber =>
    (host.getSyscallName syscallNumber).getD (toString sysnbr)

/-- The conversion to a signed number is what fails. -/
theorem Host.syscallName_eq_none_iff {host : Host} {sysnbr : UInt32} :
    host.syscallName sysnbr = none ↔ 2 ^ 31 ≤ sysnbr.toNat := by
  simp [Host.syscallName, tryIntoI32]

/-! ## The two caches

Both are maps from a pod's name to a set, and a pod without an entry has the empty set.
-/

abbrev SyscallCache := AList fun _ : String => HashSet String

/-- The set that `get_with` yields, which is empty where there was none. -/
def SyscallCache.get (cache : SyscallCache) (podName : String) : HashSet String :=
  (cache.lookup podName).getD ∅

@[simp] theorem SyscallCache.get_insert (cache : SyscallCache) (podName : String)
    (syscalls : HashSet String) :
    SyscallCache.get (cache.insert podName syscalls) podName = syscalls := by
  simp [SyscallCache.get]

/-- The sets of other names are as they were. -/
theorem SyscallCache.get_insert_ne (cache : SyscallCache) {podName podName' : String}
    (syscalls : HashSet String) (h : podName' ≠ podName) :
    SyscallCache.get (cache.insert podName syscalls) podName' = cache.get podName' := by
  simp [SyscallCache.get, h]

/-- What `get_with` leaves behind is not seen by another `get_with`. -/
@[simp] theorem SyscallCache.get_insert_get (cache : SyscallCache) (podName podName' : String) :
    SyscallCache.get (cache.insert podName (cache.get podName)) podName' = cache.get podName' := by
  by_cases h : podName' = podName
  · rw [h, get_insert]
  · exact get_insert_ne _ _ h

theorem SyscallCache.get_of_lookup {cache : SyscallCache} {podName : String}
    {syscalls : HashSet String} (h : cache.lookup podName = some syscalls) :
    cache.get podName = syscalls := by
  simp [SyscallCache.get, h]

@[simp] theorem SyscallCache.get_erase (cache : SyscallCache) (podName : String) :
    SyscallCache.get (cache.erase podName) podName = ∅ := by
  simp [SyscallCache.get]

theorem SyscallCache.get_erase_ne (cache : SyscallCache) {podName podName' : String}
    (h : podName' ≠ podName) :
    SyscallCache.get (cache.erase podName) podName' = cache.get podName' := by
  simp [SyscallCache.get, h]

/-- `process_syscall_event`, up to a panic. -/
def processSyscallEvent (host : Host) (syscallCache : SyscallCache) (data : SyscallEventData)
    (podData : PodInspect) : Option SyscallCache :=
  (host.syscallName data.sysnbr).map fun syscallName =>
    let podName := podData.status.podName
    syscallCache.insert podName ((syscallCache.get podName).insert syscallName)

/-- A `SyscallData` of `controller/src/models.rs`, an entry of the body of `POST /pod/syscalls`. -/
structure SyscallData where
  podName : String
  podNamespace : String
  syscalls : List String
  arch : String
  timeStamp : Nat

/-! ## Runs

The controller's part in what is recorded of syscalls, as one state: the handler, the sender and the
broker's answers to it. Evictions are inputs, since nothing says when the caches drop an entry.
-/

/-- The caches, the batch of the current tick, and the exchanges with the broker so far. A panic
ends the process, and the sender with it. -/
structure Recorder where
  containerMap : AList fun _ : UInt64 => PodInspect
  syscallCache : SyscallCache
  lastSentCache : SyscallCache
  batch : List SyscallData
  exchanges : List (List SyscallData × Sent)
  panicked : Bool

def Recorder.start (containerMap : AList fun _ : UInt64 => PodInspect) : Recorder :=
  ⟨containerMap, ∅, ∅, [], [], false⟩

/-- What can happen next. The event of a syscall comes with the probe's map at the time of the
syscall, a visit with the order in which the set is iterated over, and a `POST` with its result. -/
inductive RecorderInput where
  | register (inodeNum : UInt64) (podInspect : PodInspect)
  | syscall (inodeNum : Finset UInt64) (netNs : UInt64) (id : Int64)
  | visit (podName : String) (order : Reordering String) (timeStamp : Nat)
  | post (sent : Sent)
  | evictSyscalls (podName : String)
  | evictLastSent (podName : String)

def RecorderInput.Evicts : RecorderInput → Prop
  | .evictSyscalls _ | .evictLastSent _ => True
  | _ => False

namespace Recorder

/-- One round of `handle_syscall_events`. -/
def handleSyscallEvent (host : Host) (s : Recorder) (event : SyscallEventData) : Recorder :=
  match s.containerMap.lookup event.inum with
  | none => s
  | some podInspect =>
    match processSyscallEvent host s.syscallCache event podInspect with
    | none => { s with panicked := true }
    | some syscallCache => { s with syscallCache := syscallCache }

/-- One round of the inner loop of `send_syscall_cache_periodically`. -/
def visit (host : Host) (s : Recorder) (podName : String) (order : Reordering String)
    (timeStamp : Nat) : Recorder :=
  match s.syscallCache.lookup podName with
  | none => s
  | some syscalls =>
    if ¬ syscalls.Same (s.lastSentCache.get podName) then
      let z : SyscallData :=
        { podName
          podNamespace := ""
          syscalls := syscalls.iter order
          arch := host.arch
          timeStamp }
      { s with
        batch := s.batch ++ [z]
        -- before the batch is posted
        lastSentCache := s.lastSentCache.insert podName syscalls }
    else { s with lastSentCache := s.lastSentCache.insert podName (s.lastSentCache.get podName) }

/-- The end of a tick. The result of the call is logged, whatever it is. -/
def post (s : Recorder) (sent : Sent) : Recorder :=
  if s.batch = [] then s
  else { s with batch := [], exchanges := s.exchanges ++ [(s.batch, sent)] }

def next (host : Host) (s : Recorder) : RecorderInput → Recorder
  | .register inodeNum podInspect =>
    { s with containerMap := s.containerMap.insert inodeNum podInspect }
  | .syscall inodeNum netNs id =>
    match traceExecve inodeNum netNs id with
    | none => s
    | some data => s.handleSyscallEvent host (.ofBytes data.bytes)
  | .visit podName order timeStamp => s.visit host podName order timeStamp
  | .post sent => s.post sent
  | .evictSyscalls podName => { s with syscallCache := s.syscallCache.erase podName }
  | .evictLastSent podName => { s with lastSentCache := s.lastSentCache.erase podName }

def step (host : Host) (s : Recorder) (i : RecorderInput) : Recorder :=
  if s.panicked then s else s.next host i

/-- What a syscall leads to, with the bytes in between left out. -/
theorem next_syscall (host : Host) (s : Recorder) (inodeNum : Finset UInt64) (netNs : UInt64)
    (id : Int64) : s.next host (.syscall inodeNum netNs id)
      = if netNs ∈ inodeNum then s.handleSyscallEvent host ⟨netNs, sysnbrOf id⟩ else s := by
  rw [← ofBytes_bytes]
  by_cases h : netNs ∈ inodeNum <;> simp [next, traceExecve, h]

def record (s : Recorder) (podName syscallName : String) : Recorder :=
  { s with
    syscallCache := s.syscallCache.insert podName
      ((s.syscallCache.get podName).insert syscallName) }

/-- Of a monitored namespace with an entry, it leads to a name in the pod's set. -/
theorem next_syscall_eq_record {host : Host} {s : Recorder} {inodeNum : Finset UInt64}
    {netNs : UInt64} {id : Int64} {podInspect : PodInspect} {syscallName : String}
    (hmem : netNs ∈ inodeNum) (hpod : s.containerMap.lookup netNs = some podInspect)
    (hname : host.syscallName (sysnbrOf id) = some syscallName) :
    s.next host (.syscall inodeNum netNs id) = s.record podInspect.status.podName syscallName := by
  rw [next_syscall, if_pos hmem]
  simp [handleSyscallEvent, processSyscallEvent, hpod, hname, record]

/-- **All that the event of a syscall can do**: nothing, panic, or record a name. -/
theorem next_syscall_cases (host : Host) (s : Recorder) (inodeNum : Finset UInt64)
    (netNs : UInt64) (id : Int64) :
    s.next host (.syscall inodeNum netNs id) = s
      ∨ (host.syscallName (sysnbrOf id) = none ∧
        s.next host (.syscall inodeNum netNs id) = { s with panicked := true })
      ∨ ∃ podInspect syscallName, netNs ∈ inodeNum ∧
        s.containerMap.lookup netNs = some podInspect ∧
        host.syscallName (sysnbrOf id) = some syscallName ∧
        s.next host (.syscall inodeNum netNs id)
          = s.record podInspect.status.podName syscallName := by
  by_cases hmem : netNs ∈ inodeNum
  · cases hpod : s.containerMap.lookup netNs with
    | none => exact .inl (by simp [next_syscall, hmem, handleSyscallEvent, hpod])
    | some podInspect =>
      cases hname : host.syscallName (sysnbrOf id) with
      | none => exact .inr (.inl ⟨rfl, by simp [next_syscall, hmem, handleSyscallEvent,
          processSyscallEvent, hpod, hname]⟩)
      | some syscallName => exact .inr (.inr ⟨podInspect, syscallName, hmem, rfl, rfl,
          next_syscall_eq_record hmem hpod hname⟩)
  · exact .inl (by rw [next_syscall, if_neg hmem])

/-- What a visit adds to the batch for a set that differs from the one last sent. -/
def syscallData (host : Host) (podName : String) (syscalls : HashSet String)
    (order : Reordering String) (timeStamp : Nat) : SyscallData where
  podName := podName
  podNamespace := ""
  syscalls := syscalls.iter order
  arch := host.arch
  timeStamp := timeStamp

/-- **All that a visit can do**: nothing, put the set into the batch, or find it unchanged. -/
theorem visit_cases (host : Host) (s : Recorder) (podName : String) (order : Reordering String)
    (timeStamp : Nat) :
    (s.syscallCache.lookup podName = none ∧ s.visit host podName order timeStamp = s)
      ∨ (∃ syscalls, s.syscallCache.lookup podName = some syscalls ∧
        ¬ syscalls.Same (s.lastSentCache.get podName) ∧
        s.visit host podName order timeStamp =
          { s with
            batch := s.batch ++ [syscallData host podName syscalls order timeStamp]
            lastSentCache := s.lastSentCache.insert podName syscalls })
      ∨ (∃ syscalls, s.syscallCache.lookup podName = some syscalls ∧
        syscalls.Same (s.lastSentCache.get podName) ∧
        s.visit host podName order timeStamp =
          { s with
            lastSentCache := s.lastSentCache.insert podName (s.lastSentCache.get podName) }) := by
  unfold visit
  cases hlookup : s.syscallCache.lookup podName with
  | none => exact .inl ⟨rfl, rfl⟩
  | some syscalls =>
    by_cases hsame : syscalls.Same (s.lastSentCache.get podName)
    · exact .inr (.inr ⟨syscalls, rfl, hsame, if_neg (not_not.mpr hsame)⟩)
    · exact .inr (.inl ⟨syscalls, rfl, hsame, if_pos hsame⟩)

section Post

variable (s : Recorder) (sent : Sent)

/-- After a tick the batch is empty. -/
@[simp] theorem batch_post : (s.post sent).batch = [] := by
  unfold post
  split
  · assumption
  · rfl

/-- Posting looks at no set. -/
@[simp] theorem syscallCache_post : (s.post sent).syscallCache = s.syscallCache := by
  unfold post
  split <;> rfl

/-- Nor does it mark any. -/
@[simp] theorem lastSentCache_post : (s.post sent).lastSentCache = s.lastSentCache := by
  unfold post
  split <;> rfl

@[simp] theorem containerMap_post : (s.post sent).containerMap = s.containerMap := by
  unfold post
  split <;> rfl

/-- It does not panic, whatever the answer. -/
@[simp] theorem panicked_post : (s.post sent).panicked = s.panicked := by
  unfold post
  split <;> rfl

end Post

/-- Only the pod watcher writes the map of containers. -/
theorem containerMap_step (host : Host) (s : Recorder) {i : RecorderInput}
    (hi : ∀ inodeNum podInspect, i ≠ .register inodeNum podInspect) :
    (s.step host i).containerMap = s.containerMap := by
  unfold step
  split
  · rfl
  · cases i with
    | register inodeNum podInspect => exact absurd rfl (hi inodeNum podInspect)
    | syscall inodeNum netNs id =>
      rcases next_syscall_cases host s inodeNum netNs id with h | ⟨_, h⟩ | ⟨_, _, _, _, _, h⟩
      · rw [h]
      · rw [h]
      · rw [h]; rfl
    | visit podName order timeStamp =>
      rcases visit_cases host s podName order timeStamp
        with ⟨_, h⟩ | ⟨_, _, _, h⟩ | ⟨_, _, _, h⟩
      all_goals rw [next, h]
    | post sent =>
      simp only [next, post]
      split <;> rfl
    | evictSyscalls podName => rfl
    | evictLastSent podName => rfl

end Recorder

end KubeGuardian.Controller
