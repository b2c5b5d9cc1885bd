import KubeGuardian.Controller.Syscall

/-!
# Which syscalls stop the controller

The number of a syscall is a `long` in the kernel, a `__u64` in the sample, its low half in the
event, and an `i32` for libseccomp. Only the last conversion is checked, and by an `unwrap`.

* **`panicFree_iff`** — no event panics in all of a run exactly when bit 31 is clear in every
  number that comes from a monitored pod.
-/

namespace KubeGuardian.Controller

open Lib

/-- Bit 31 of the syscall number, in a namespace that both maps know. -/
def Bit31Clear (s : Recorder) : RecorderInput → Prop
  | .syscall inodeNum netNs id => netNs ∈ inodeNum → (s.containerMap.lookup netNs).isSome →
      id.toUInt64.toNat.testBit 31 = false
  | _ => True

theorem bit31_iff {n : Nat} : n.testBit 31 = false ↔ n % 2 ^ 32 < 2 ^ 31 := by
  rw [Nat.testBit_eq_decide_div_mod_eq]
  simp only [decide_eq_false_iff_not]
  omega

theorem panicked_handleSyscallEvent {host : Host} {s : Recorder} (hs : s.panicked = false)
    (event : SyscallEventData) :
    (s.handleSyscallEvent host event).panicked = false
      ↔ ((s.containerMap.lookup event.inum).isSome → event.sysnbr.toNat < 2 ^ 31) := by
  unfold Recorder.handleSyscallEvent processSyscallEvent
  cases hpod : s.containerMap.lookup event.inum with
  | none => simp [hs]
  | some podInspect =>
    have hlow : event.sysnbr.toNat < 2 ^ 31 ↔ host.syscallName event.sysnbr ≠ none := by
      rw [Ne, host.syscallName_eq_none_iff, not_le]
    simp only [Option.isSome_some, forall_const, hlow]
    cases hname : host.syscallName event.sysnbr with
    | none => simp
    | some syscallName => simp [hs]

/-- One input panics exactly when it is a syscall with bit 31 set. -/
theorem panicked_step_iff {host : Host} {s : Recorder} (hs : s.panicked = false)
    (i : RecorderInput) : (s.step host i).panicked = false ↔ Bit31Clear s i := by
  have hnext : s.step host i = s.next host i := by simp [Recorder.step, hs]
  rw [hnext]
  cases i with
  | syscall inodeNum netNs id =>
    by_cases hmem : netNs ∈ inodeNum
    · rw [Recorder.next_syscall, if_pos hmem, panicked_handleSyscallEvent hs, toNat_sysnbrOf,
        ← bit31_iff]
      exact ⟨fun h _ => h, fun h => h hmem⟩
    · rw [Recorder.next_syscall, if_neg hmem]
      exact iff_of_true hs fun h => absurd h hmem
  | visit podName order timeStamp =>
    refine iff_of_true ?_ trivial
    simp only [Recorder.next, Recorder.visit]
    split
    · exact hs
    · split <;> exact hs
  | post sent =>
    refine iff_of_true ?_ trivial
    simp only [Recorder.next, Recorder.post]
    split <;> exact hs
  | register inodeNum podInspect => exact iff_of_true hs trivial
  | evictSyscalls podName => exact iff_of_true hs trivial
  | evictLastSent podName => exact iff_of_true hs trivial

/-- **No event panics, in all of a run, exactly when no monitored pod sets bit 31.** -/
theorem panicFree_iff (host : Host) (inputs : List RecorderInput) :
    Always (Recorder.step host) (·.panicked = false) (.start ∅) inputs
      ↔ Meets (Recorder.step host) Bit31Clear (.start ∅) inputs :=
  always_iff_meets (fun _ i hs => panicked_step_iff hs i) rfl

/-! ## A syscall of number −1 -/

def webPod : PodInspect := ⟨⟨"web", some "shop", "10.0.0.5"⟩⟩

/-- A process of `web` calls `syscall(-1)`. -/
theorem panicked_of_minus_one :
    ¬ Always (Recorder.step ⟨"x86_64", fun _ _ => none⟩) (·.panicked = false) (.start ∅)
      [.register 1 webPod, .syscall {1} 1 (-1)] := by
  intro h
  exact absurd h.last (by decide +kernel)

end KubeGuardian.Controller
