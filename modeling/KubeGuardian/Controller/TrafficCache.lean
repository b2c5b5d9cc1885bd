import KubeGuardian.Controller.Network
import KubeGuardian.Lib.Sender
import Mathlib.Data.List.AList

/-!
# What the traffic cache remembers

The handler of network events takes one event at a time, against the map of containers that the
pod watcher fills and a cache that drops entries when it likes. An event whose key is cached is not
posted, so the cache should hold keys of accepted records only.

* **`lossless_iff`** — it does in all of a run exactly when no new key's `POST` is answered with
  an error status, whatever requests do not get through at all.
-/

namespace KubeGuardian.Controller

open Lib

/-! ## The handler -/

/-- The map of containers, the cache, and the exchanges with the broker so far. -/
structure Handler where
  containerMap : AList fun _ : UInt64 => PodInspect
  cache : Finset TrafficKey
  exchanges : List (PodTraffic × Sent)

def Handler.start : Handler := ⟨∅, ∅, []⟩

/-- What can happen next: a pod is registered, the cache drops an entry, or an event is received,
with the result of the `POST` if it leads to one. -/
inductive Input where
  | register (inodeNum : UInt64) (podInspect : PodInspect)
  | evict (key : TrafficKey)
  | event (data : NetworkEventData) (stamp : Stamp) (sent : Sent)

/-- One round of `handle_network_events`, or what comes between two rounds. -/
def step (host : Endian) (s : Handler) : Input → Handler
  | .register inodeNum podInspect =>
    { s with containerMap := s.containerMap.insert inodeNum podInspect }
  | .evict key => { s with cache := s.cache.erase key }
  | .event data stamp sent =>
    match s.containerMap.lookup data.inum with
    | none => s
    | some podInspect =>
      let (cache, posted) := processNetworkEvent host stamp sent s.cache data podInspect
      { s with
        cache := cache
        exchanges := s.exchanges ++ posted.toList.map (·, sent) }

/-! ## The property and the condition -/

def Taken : Sent → Prop
  | .ok res => res.isSuccess
  | .error _ => False

def Handler.Accepted (s : Handler) (key : TrafficKey) : Prop :=
  ∃ exchange ∈ s.exchanges, exchange.1.key = key ∧ Taken exchange.2

/-- Every cached key is that of an accepted record; so an event whose record was not accepted is
posted when it occurs. -/
structure Lossless (host : Endian) (s : Handler) : Prop where
  cached_accepted : ∀ key ∈ s.cache, s.Accepted key
  posted : ∀ data podInspect, s.containerMap.lookup data.inum = some podInspect →
    ¬ ownAddress host data podInspect → ¬ s.Accepted (keyOf host data podInspect) →
    ∀ stamp sent, (processNetworkEvent host stamp sent s.cache data podInspect).2
      = some (recordOf host stamp data podInspect)

/-- An event that is posted and answered is answered with success, unless a record of its key was
accepted before. -/
def WellAnswered (host : Endian) (s : Handler) : Input → Prop
  | .event data _ (.ok res) => ∀ podInspect, s.containerMap.lookup data.inum = some podInspect →
      ¬ ownAddress host data podInspect → keyOf host data podInspect ∉ s.cache →
      res.isSuccess ∨ s.Accepted (keyOf host data podInspect)
  | _ => True

/-! ## The handler is a sender -/

/-- What the handler is, its containers aside. -/
def Handler.sender (s : Handler) : Sender TrafficKey Sent where
  remembered := s.cache
  attempts := s.exchanges.map fun exchange => (exchange.1.key, exchange.2)

theorem accepted_iff {s : Handler} {key : TrafficKey} :
    s.Accepted key ↔ Sender.Accepted Taken s.sender.attempts key := by
  simp only [Handler.Accepted, Sender.Accepted, Handler.sender, List.mem_map, Prod.mk.injEq]
  constructor
  · rintro ⟨exchange, hmem, hkey, htaken⟩
    exact ⟨_, ⟨exchange, hmem, hkey, rfl⟩, htaken⟩
  · rintro ⟨_, ⟨exchange, hmem, hkey, rfl⟩, htaken⟩
    exact ⟨exchange, hmem, hkey, htaken⟩

/-- **An event of a registered pod is a submission of its key.** -/
theorem sender_step_event {host : Endian} {s : Handler} {data : NetworkEventData} {stamp : Stamp}
    {sent : Sent} {podInspect : PodInspect}
    (hpod : s.containerMap.lookup data.inum = some podInspect)
    (hown : ¬ ownAddress host data podInspect) :
    (step host s (.event data stamp sent)).sender
      = s.sender.submit Except.isOk (keyOf host data podInspect) sent := by
  simp only [step, hpod, processNetworkEvent_eq, hown, false_or]
  unfold Sender.submit
  by_cases hcached : keyOf host data podInspect ∈ s.cache
  · simp [hcached, Handler.sender]
  · simp [hcached, Handler.sender, key_recordOf]

theorem step_event_own {host : Endian} {s : Handler} {data : NetworkEventData} {stamp : Stamp}
    {sent : Sent} {podInspect : PodInspect}
    (hpod : s.containerMap.lookup data.inum = some podInspect)
    (hown : ownAddress host data podInspect) : step host s (.event data stamp sent) = s := by
  simp [step, hpod, processNetworkEvent_eq, hown]

theorem lossless_iff_sound {host : Endian} {s : Handler} :
    Lossless host s ↔ s.sender.Sound Taken := by
  constructor
  · intro h key hkey
    exact accepted_iff.mp (h.cached_accepted key hkey)
  · intro h
    have hcached : ∀ key ∈ s.cache, s.Accepted key := fun key hkey => accepted_iff.mpr (h key hkey)
    refine ⟨hcached, fun data podInspect _ hown hnot stamp sent => ?_⟩
    have hnew : keyOf host data podInspect ∉ s.cache := fun hmem => hnot (hcached _ hmem)
    exact posted_eq_some_iff.mpr ⟨hown, hnew, rfl⟩

/-- One input keeps the memory sound exactly when it is well answered. -/
theorem sound_step_iff {host : Endian} {s : Handler} (hs : s.sender.Sound Taken) (i : Input) :
    (step host s i).sender.Sound Taken ↔ WellAnswered host s i := by
  cases i with
  | register inodeNum podInspect => exact iff_of_true hs trivial
  | evict key => exact iff_of_true (Sender.sound_forget hs) trivial
  | event data stamp sent =>
    cases hpod : s.containerMap.lookup data.inum with
    | none =>
      -- an event of no registered pod is dropped
      have hsame : step host s (.event data stamp sent) = s := by simp [step, hpod]
      rw [hsame]
      refine iff_of_true hs ?_
      cases sent with
      | error e => trivial
      | ok res => exact fun podInspect h => absurd (hpod.symm.trans h) (by simp)
    | some podInspect =>
      by_cases hown : ownAddress host data podInspect
      · rw [step_event_own hpod hown]
        refine iff_of_true hs ?_
        cases sent with
        | error e => trivial
        | ok res =>
          rintro podInspect' h hnot
          obtain rfl := Option.some.inj (hpod.symm.trans h)
          exact absurd hown hnot
      · rw [sender_step_event hpod hown, Sender.sound_submit_iff hs, ← accepted_iff]
        cases sent with
        -- a request that does not get through leaves the cache alone
        | error e => exact iff_of_true (fun _ h => by cases h) trivial
        | ok res =>
          constructor
          · rintro h podInspect' hpod' _ hnew
            obtain rfl := Option.some.inj (hpod.symm.trans hpod')
            exact h hnew rfl
          · intro h hnew _
            exact h podInspect hpod hown hnew

/-- **The cache holds accepted keys only, in all of a run, exactly when the run is well
answered.** -/
theorem lossless_iff (host : Endian) (inputs : List Input) :
    Always (step host) (Lossless host) Handler.start inputs
      ↔ Meets (step host) (WellAnswered host) Handler.start inputs := by
  refine always_iff_meets (fun s i hs => ?_) (lossless_iff_sound.mpr (by simp [Sender.Sound,
    Handler.sender, Handler.start]))
  rw [lossless_iff_sound]
  exact sound_step_iff (lossless_iff_sound.mp hs) i

/-! ## A refused record -/

def webInspect : PodInspect := ⟨⟨"web", some "shop", "10.0.0.5"⟩⟩

def webEvent : NetworkEventData := ⟨1, 0x0500000a, 40000, 0x0a00600a, 443, 1⟩

def webRegistered : Handler := step .little .start (.register 1 webInspect)

/-- The broker fails to store the first record of `web` and answers 500; the record is not posted
again. -/
theorem refused_record_cached :
    ¬ Always (step .little) (Lossless .little) Handler.start
        [.register 1 webInspect, .event webEvent ⟨"u1", 1⟩ (.ok ⟨500⟩)]
      ∧ (processNetworkEvent .little ⟨"u2", 2⟩ (.ok ⟨200⟩)
          (step .little webRegistered (.event webEvent ⟨"u1", 1⟩ (.ok ⟨500⟩))).cache
          webEvent webInspect).2 = none := by
  constructor
  · intro h
    have hbefore : webRegistered.sender.Sound Taken := by
      simp [Sender.Sound, Handler.sender, webRegistered, step, Handler.start]
    have hafter : (step .little webRegistered (.event webEvent ⟨"u1", 1⟩ (.ok ⟨500⟩))).sender.Sound
        Taken := lossless_iff_sound.mp h.last
    have hwell := (sound_step_iff hbefore _).mp hafter
    rcases hwell webInspect rfl (by decide) (by decide) with hsuccess | ⟨exchange, hmem, _⟩
    · exact absurd hsuccess (by decide)
    · simp [webRegistered, step, Handler.start] at hmem
  · decide

end KubeGuardian.Controller
