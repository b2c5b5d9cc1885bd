import KubeGuardian.Controller.Sources

/-!
# Calls in two halves

`tcp_v4_connect` and `inet_csk_accept` are probed where a thread enters them and where it leaves
them. What is left of the first half is an entry in a map, under the thread.

* **`fire_eq_some_iff`** — which calls make an event, and of what;
* **`left_step`** — an entry is that of the thread's last monitored way in, which it has not left.
-/

namespace KubeGuardian.Controller

open Lib

/-- The functions that are probed at their entry and at their return. -/
inductive TwoHalves where
  | tcpV4Connect
  | inetCskAccept
  deriving DecidableEq

/-- The thread and the socket of a first half. -/
def ProbeCall.entry : ProbeCall → Option (TwoHalves × UInt32 × SockPtr)
  | .connectEntry tid sk => some (.tcpV4Connect, tid, sk)
  | .acceptEntry tid sk => some (.inetCskAccept, tid, sk)
  | _ => none

def ProbeCall.exit : ProbeCall → Option (TwoHalves × UInt32)
  | .connectExit tid _ => some (.tcpV4Connect, tid)
  | .acceptExit tid _ => some (.inetCskAccept, tid)
  | _ => none

/-- The map in which the entry half leaves its socket for the return half. -/
def NetworkMaps.left (maps : NetworkMaps) : TwoHalves → BoundedMap UInt32 SockPtr maxEntries
  | .tcpV4Connect => maps.sockets
  | .inetCskAccept => maps.acceptedSockets

/-! ## Probes -/

section Fire

variable {host : Endian} {maps : NetworkMaps} {mem : Memory}

/-- The call makes the event: a datagram is about to be sent, a connect has succeeded, or an accept
has brought a socket. `Entered` are the sockets that threads have come in with. -/
def ProbeCall.Makes (host : Endian) (maps : NetworkMaps) (mem : Memory)
    (Entered : TwoHalves → UInt32 → SockPtr → Prop) (data : NetworkEventData) : ProbeCall → Prop
  | .udpSend sk => sk ≠ 0 ∧ maps.Monitors (mem.read sk)
      ∧ udpEvent host maps (mem.read sk).inum.toUInt64 (mem.read sk) = some data
  | .connectExit tid ret => ret = 0 ∧ ∃ sk, Entered .tcpV4Connect tid sk ∧ sk ≠ 0
      ∧ maps.Monitors (mem.read sk)
      ∧ connectEvent host maps (mem.read sk).inum.toUInt64 (mem.read sk) = some data
  | .acceptExit tid newSk => newSk ≠ 0 ∧ ∃ sk, Entered .inetCskAccept tid sk
      ∧ maps.Monitors (mem.read sk)
      ∧ acceptEvent host maps (mem.read sk).inum.toUInt64 (mem.read newSk) = some data
  | .connectEntry _ _ | .acceptEntry _ _ => False

theorem ProbeCall.Makes.mono {Entered Entered' : TwoHalves → UInt32 → SockPtr → Prop}
    (hentered : ∀ f tid sk, Entered f tid sk → Entered' f tid sk) {data : NetworkEventData}
    {call : ProbeCall} (h : call.Makes host maps mem Entered data) :
    call.Makes host maps mem Entered' data := by
  cases call with
  | udpSend sk => exact h
  | connectEntry tid sk => exact h
  | acceptEntry tid sk => exact h
  | connectExit tid ret =>
    obtain ⟨hret, sk, hsk, hrest⟩ := h
    exact ⟨hret, sk, hentered _ _ _ hsk, hrest⟩
  | acceptExit tid newSk =>
    obtain ⟨hnew, sk, hsk, hrest⟩ := h
    exact ⟨hnew, sk, hentered _ _ _ hsk, hrest⟩

/-- **What the probes emit.** -/
theorem fire_eq_some_iff {call : ProbeCall} {data : NetworkEventData} :
    (fire host maps mem call).2 = some data
      ↔ call.Makes host maps mem (fun f tid sk => (maps.left f).lookup tid = some sk) data := by
  cases call with
  | udpSend sk =>
    rw [fire, traceUdpSend_eq, Option.ite_none_right_eq_some, and_assoc]
    rfl
  | connectEntry tid sk => simp [fire, ProbeCall.Makes]
  | acceptEntry tid sk => simp [fire, ProbeCall.Makes]
  | connectExit tid ret =>
    -- the exit half reads what the entry half has left
    show (tcpV4ConnectExit host maps mem tid ret).2 = some data ↔ ret = 0 ∧ ∃ sk,
      maps.sockets.lookup tid = some sk ∧ sk ≠ 0 ∧ maps.Monitors (mem.read sk)
        ∧ connectEvent host maps (mem.read sk).inum.toUInt64 (mem.read sk) = some data
    cases hsk : maps.sockets.lookup tid with
    | none => simp [tcpV4ConnectExit_of_none hsk]
    | some sk =>
      rw [tcpV4ConnectExit_of_some hsk, Option.ite_none_right_eq_some]
      simp only [Option.some.injEq, exists_eq_left']
      tauto
  | acceptExit tid newSk =>
    show (tcpAcceptExit host maps mem tid newSk).2 = some data ↔ newSk ≠ 0 ∧ ∃ sk,
      maps.acceptedSockets.lookup tid = some sk ∧ maps.Monitors (mem.read sk)
        ∧ acceptEvent host maps (mem.read sk).inum.toUInt64 (mem.read newSk) = some data
    cases hsk : maps.acceptedSockets.lookup tid with
    | none => simp [tcpAcceptExit_of_none hsk]
    | some sk =>
      rw [tcpAcceptExit_of_some hsk, Option.ite_none_right_eq_some]
      simp only [Option.some.injEq, exists_eq_left']
      tauto

/-- What a first half leaves: it replaces an entry of the thread even where there is no room for
another. -/
theorem left_entry {m : BoundedMap UInt32 SockPtr maxEntries} {tid tid' : UInt32}
    {sk sk' : SockPtr} (h : (m.tryUpdate tid' sk').lookup tid = some sk) :
    tid' = tid ∧ sk' = sk ∨ m.lookup tid = some sk ∧ tid' ≠ tid := by
  by_cases htid : tid' = tid
  · subst htid
    cases hupdate : m.update tid' sk' with
    | some m' =>
      rw [BoundedMap.tryUpdate, hupdate, Option.getD_some,
        BoundedMap.lookup_of_update_self hupdate] at h
      exact .inl ⟨rfl, Option.some.inj h⟩
    | none =>
      -- then the thread has no entry
      have hnone : m.lookup tid' = none := by
        rw [BoundedMap.lookup_eq_none_iff]
        intro hmem
        have hroom : (m.update tid' sk').isSome := BoundedMap.update_isSome_iff.mpr (.inl hmem)
        simp [hupdate] at hroom
      rw [BoundedMap.tryUpdate, hupdate, Option.getD_none, hnone] at h
      cases h
  · rw [BoundedMap.lookup_tryUpdate_ne (Ne.symm htid)] at h
    exact .inr ⟨h, htid⟩

theorem left_exit {m : BoundedMap UInt32 SockPtr maxEntries} {tid tid' : UInt32} {sk : SockPtr}
    (h : (m.delete tid').lookup tid = some sk) : m.lookup tid = some sk ∧ tid' ≠ tid := by
  by_cases htid : tid' = tid
  · rw [htid, BoundedMap.lookup_delete_self] at h
    cases h
  · rw [BoundedMap.lookup_delete_ne (Ne.symm htid)] at h
    exact ⟨h, htid⟩

/-- The thread comes in with a monitored socket. -/
def ProbeCall.Enters (maps : NetworkMaps) (mem : Memory) (f : TwoHalves) (tid : UInt32)
    (sk : SockPtr) (call : ProbeCall) : Prop :=
  call.entry = some (f, tid, sk) ∧ maps.Monitors (mem.read sk)

/-- The thread leaves, or comes in again. -/
def ProbeCall.Leaves (maps : NetworkMaps) (mem : Memory) (f : TwoHalves) (tid : UInt32)
    (call : ProbeCall) : Prop :=
  call.exit = some (f, tid) ∨ ∃ sk, call.Enters maps mem f tid sk

/-- A first half writes to the map of its function, if the socket is monitored. -/
theorem left_fire_entry {call : ProbeCall} {f f' : TwoHalves} {tid : UInt32} {sk : SockPtr}
    (hcall : call.entry = some (f', tid, sk)) :
    (fire host maps mem call).1.left f
      = if f' = f ∧ maps.Monitors (mem.read sk) then (maps.left f).tryUpdate tid sk
        else maps.left f := by
  cases call with
  | connectEntry tid' sk' =>
    cases hcall
    rw [fire, tcpV4ConnectEntry_eq]
    by_cases hmon : maps.Monitors (mem.read sk) <;> cases f <;> simp [hmon, NetworkMaps.left]
  | acceptEntry tid' sk' =>
    cases hcall
    rw [fire, tcpAcceptEntry_eq]
    by_cases hmon : maps.Monitors (mem.read sk) <;> cases f <;> simp [hmon, NetworkMaps.left]
  | _ => cases hcall

/-- Every other probe takes the thread's entry out of its map at most. -/
theorem left_fire_other {call : ProbeCall} {f : TwoHalves} {tid : UInt32} {sk : SockPtr}
    (hcall : call.entry = none) (h : ((fire host maps mem call).1.left f).lookup tid = some sk) :
    (maps.left f).lookup tid = some sk ∧ call.exit ≠ some (f, tid) := by
  cases call with
  | udpSend sk' => exact ⟨h, by simp [ProbeCall.exit]⟩
  | connectExit tid' ret =>
    rw [fire] at h
    cases hsk : maps.sockets.lookup tid' with
    | none =>
      rw [tcpV4ConnectExit_of_none hsk] at h
      refine ⟨h, fun hexit => ?_⟩
      cases hexit
      simp [NetworkMaps.left, hsk] at h
    | some sk' =>
      rw [tcpV4ConnectExit_of_some hsk] at h
      cases f with
      | inetCskAccept => exact ⟨h, by simp [ProbeCall.exit]⟩
      | tcpV4Connect =>
        -- its own entry is taken away, those of the other threads stay
        obtain ⟨hleft, htid⟩ := left_exit h
        exact ⟨hleft, by simp [ProbeCall.exit, htid]⟩
  | acceptExit tid' newSk =>
    rw [fire] at h
    cases hsk : maps.acceptedSockets.lookup tid' with
    | none =>
      rw [tcpAcceptExit_of_none hsk] at h
      refine ⟨h, fun hexit => ?_⟩
      cases hexit
      simp [NetworkMaps.left, hsk] at h
    | some sk' =>
      rw [tcpAcceptExit_of_some hsk] at h
      cases f with
      | tcpV4Connect => exact ⟨h, by simp [ProbeCall.exit]⟩
      | inetCskAccept =>
        obtain ⟨hleft, htid⟩ := left_exit h
        exact ⟨hleft, by simp [ProbeCall.exit, htid]⟩
  | connectEntry tid' sk' => cases hcall
  | acceptEntry tid' sk' => cases hcall

theorem exit_of_entry {call : ProbeCall} {entered : TwoHalves × UInt32 × SockPtr}
    (h : call.entry = some entered) : call.exit = none := by
  cases call <;> first | rfl | cases h

/-- **An entry is new, or it was there and the thread has not left.** -/
theorem left_fire {call : ProbeCall} {f : TwoHalves} {tid : UInt32} {sk : SockPtr}
    (h : ((fire host maps mem call).1.left f).lookup tid = some sk) :
    call.Enters maps mem f tid sk
      ∨ (maps.left f).lookup tid = some sk ∧ ¬ call.Leaves maps mem f tid := by
  cases hcall : call.entry with
  | none =>
    obtain ⟨hleft, hexit⟩ := left_fire_other hcall h
    refine .inr ⟨hleft, fun hleaves => ?_⟩
    rcases hleaves with hleaves | ⟨sk', hentry, -⟩
    · exact hexit hleaves
    · simp [hcall] at hentry
  | some entered =>
    obtain ⟨f', tid', sk'⟩ := entered
    -- there is nothing to show for a way in of another kind or thread
    have hstays : (maps.left f).lookup tid = some sk
        → ¬ (f' = f ∧ tid' = tid ∧ maps.Monitors (mem.read sk'))
        → (maps.left f).lookup tid = some sk ∧ ¬ call.Leaves maps mem f tid := by
      refine fun hleft hnot => ⟨hleft, fun hleaves => ?_⟩
      rcases hleaves with hleaves | ⟨sk'', hentry, hmon⟩
      · simp [exit_of_entry hcall] at hleaves
      · rw [hcall] at hentry
        cases hentry
        exact hnot ⟨rfl, rfl, hmon⟩
    rw [left_fire_entry hcall] at h
    by_cases hwrites : f' = f ∧ maps.Monitors (mem.read sk')
    · rw [if_pos hwrites] at h
      obtain ⟨rfl, hmon⟩ := hwrites
      rcases left_entry h with ⟨rfl, rfl⟩ | ⟨hleft, htid⟩
      · exact .inl ⟨hcall, hmon⟩
      · exact .inr (hstays hleft fun hsame => htid hsame.2.1)
    · rw [if_neg hwrites] at h
      exact .inr (hstays h fun hsame => hwrites ⟨hsame.1, hsame.2.2⟩)

end Fire

/-! ## Nodes -/

section Nodes

variable {τ : Type*} {cfg : NodeConfig} {s : Node τ}

/-- The probes are attached to the kernel. -/
structure Node.Attached (s : Node τ) : Prop where
  panicked : s.panicked = false
  loop : s.loop ≠ .ended

def NodeInput.Enters (s : Node τ) (f : TwoHalves) (tid : UInt32) (sk : SockPtr) :
    NodeInput τ → Prop
  | .network _ mem call => call.Enters s.network mem f tid sk
  | _ => False

def NodeInput.Leaves (s : Node τ) (f : TwoHalves) (tid : UInt32) : NodeInput τ → Prop
  | .network _ mem call => call.Leaves s.network mem f tid
  | _ => False

/-- Probes that are detached stay so. -/
theorem loop_of_next {i : NodeInput τ} (h : (s.next cfg i).loop ≠ .ended) : s.loop ≠ .ended := by
  cases i with
  | apply pod runtime =>
    have hsame : (s.apply cfg pod runtime).loop = s.loop := by
      unfold Node.apply
      split <;> rfl
    exact hsame ▸ h
  | watch =>
    have hsame : s.watch.loop = s.loop := by
      unfold Node.watch
      split <;> rfl
    exact hsame ▸ h
  | network tag mem call =>
    have hsame : (s.networkCall cfg tag mem call).loop = s.loop := by
      unfold Node.networkCall
      split <;> rfl
    exact hsame ▸ h
  | handleNetwork n stamp sent =>
    have hsame : (s.handleNetworkEvent cfg n stamp sent).loop = s.loop := by
      unfold Node.handleNetworkEvent
      dsimp only
      repeat' split
      all_goals rfl
    exact hsame ▸ h
  | receiveIp =>
    -- the address is what may bring the loop down, and not when it is down already
    intro hended
    have hsame : s.receiveIp cfg = s := by simp [Node.receiveIp, hended]
    exact h ((congrArg Node.loop hsame).trans hended)
  | _ =>
    refine (untouched_next ?_).loop h
    trivial

theorem Node.Attached.of_step {i : NodeInput τ} (h : (s.step cfg i).Attached) : s.Attached := by
  cases hpanicked : s.panicked with
  | true =>
    have hsame : s.step cfg i = s := if_pos hpanicked
    exact hsame ▸ h
  | false =>
    refine ⟨hpanicked, ?_⟩
    rw [Node.step_of_running hpanicked] at h
    exact loop_of_next h.loop

/-- Nothing but a call touches what threads have left. -/
theorem left_next {i : NodeInput τ} (hi : ∀ tag mem call, i ≠ .network tag mem call)
    (f : TwoHalves) : (s.next cfg i).network.left f = s.network.left f := by
  cases i with
  | apply pod runtime =>
    show (s.apply cfg pod runtime).network.left f = _
    unfold Node.apply
    split <;> rfl
  | watch =>
    show s.watch.network.left f = _
    unfold Node.watch
    split <;> rfl
  | receiveInode =>
    show s.receiveInode.network.left f = _
    unfold Node.receiveInode
    cases f <;> repeat' split
    all_goals rfl
  | updateSyscall =>
    show s.updateSyscall.network.left f = _
    unfold Node.updateSyscall
    repeat' split
    all_goals rfl
  | receiveIp =>
    show (s.receiveIp cfg).network.left f = _
    unfold Node.receiveIp
    dsimp only
    cases f <;> repeat' split
    all_goals rfl
  | syscall netNs id =>
    show (s.syscallCall netNs id).network.left f = _
    unfold Node.syscallCall
    repeat' split
    all_goals rfl
  | handleNetwork n stamp sent =>
    show (s.handleNetworkEvent cfg n stamp sent).network.left f = _
    unfold Node.handleNetworkEvent
    dsimp only
    repeat' split
    all_goals rfl
  | handleSyscall n =>
    show (s.handleSyscallEvent cfg n).network.left f = _
    unfold Node.handleSyscallEvent
    dsimp only
    repeat' split
    all_goals rfl
  | network tag mem call => exact absurd rfl (hi tag mem call)
  | _ => rfl

/-- **The same of a step of the node.** -/
theorem left_step {i : NodeInput τ} {f : TwoHalves} {tid : UInt32} {sk : SockPtr}
    (hattached : (s.step cfg i).Attached)
    (h : ((s.step cfg i).network.left f).lookup tid = some sk) :
    i.Enters s f tid sk ∨ (s.network.left f).lookup tid = some sk ∧ ¬ i.Leaves s f tid := by
  have hbefore : s.Attached := hattached.of_step
  rw [Node.step_of_running hbefore.panicked] at h
  cases i with
  | network tag mem call =>
    -- the loop is up, so the call is probed
    have hfired : (s.networkCall cfg tag mem call).network
        = (fire cfg.endian s.network mem call).1 := by
      unfold Node.networkCall
      rw [if_neg hbefore.loop]
    have hleft : ((fire cfg.endian s.network mem call).1.left f).lookup tid = some sk := by
      rw [← hfired]
      exact h
    exact left_fire hleft
  | _ =>
    rw [left_next (by simp)] at h
    exact .inr ⟨h, id⟩

end Nodes

end KubeGuardian.Controller
