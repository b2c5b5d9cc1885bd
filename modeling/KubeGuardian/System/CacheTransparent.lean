import KubeGuardian.Broker.Server
import KubeGuardian.Controller.TrafficCache
import KubeGuardian.System.Wire

/-!
# The traffic cache changes nothing in the table

A controller with its cache beside the broker's `pod_traffic` table, to which other controllers
post as well. The cache skips a post on a key of seven fields, and the broker drops a record on
columns of its own choice.

* **`cache_transparent`** — with and without the cache, and whatever the cache forgets, the same
  rows are stored in the end.
-/

namespace KubeGuardian.System

open Controller Lib

/-! ## The controller and the table -/

structure Monitor where
  containerMap : AList fun _ : UInt64 => PodInspect
  cache : Finset TrafficKey
  podTraffic : List Broker.PodTraffic

def Monitor.start (podTraffic : List Broker.PodTraffic) : Monitor := ⟨∅, ∅, podTraffic⟩

/-- A pod is registered, the cache drops an entry, an event is received, or another controller
posts. Each `POST` comes with the order in which the database yields its rows at that moment. -/
inductive MonitorInput where
  | register (inodeNum : UInt64) (podInspect : PodInspect)
  | evict (key : TrafficKey)
  | event (data : NetworkEventData) (stamp : Stamp) (order : Reordering Broker.PodTraffic)
  | foreign (w : Broker.PodTraffic) (order : Reordering Broker.PodTraffic)

/-- The record that the event is posted with, if it is: the answer has no part in that. -/
def postedRecord (host : Endian) (s : Monitor) (data : NetworkEventData) (stamp : Stamp) :
    Option Controller.PodTraffic :=
  (s.containerMap.lookup data.inum).bind fun podInspect =>
    (processNetworkEvent host stamp (.error "") s.cache data podInspect).2

/-- A registration, an eviction, an event with its request, or a request of somebody else. -/
def Monitor.step (host : Endian) (s : Monitor) : MonitorInput → Monitor
  | .register inodeNum podInspect =>
    { s with containerMap := s.containerMap.insert inodeNum podInspect }
  | .evict key => { s with cache := s.cache.erase key }
  | .event data stamp order =>
    match s.containerMap.lookup data.inum, postedRecord host s data stamp with
    | some podInspect, some record =>
      let (podTraffic, reply) := Broker.createPodTraffic order s.podTraffic record.row
      { s with
        cache := (processNetworkEvent host stamp (answered reply) s.cache data podInspect).1
        podTraffic := podTraffic }
    | _, _ => s
  | .foreign w order => { s with podTraffic := (Broker.createPodTraffic order s.podTraffic w).1 }

/-- The same, but for a cache that is empty whenever it is asked. -/
def Monitor.stepWithoutCache (host : Endian) (s : Monitor) (i : MonitorInput) : Monitor :=
  Monitor.step host { s with cache := ∅ } i

/-- The `POST` that the input leads to, if any, is accepted. -/
def Accepted (host : Endian) (s : Monitor) : MonitorInput → Prop
  | .event data stamp order => ∀ record ∈ postedRecord host s data stamp,
      (Broker.createPodTraffic order s.podTraffic record.row).2 = .ok
  | .foreign w order => (Broker.createPodTraffic order s.podTraffic w).2 = .ok
  | _ => True

instance (host : Endian) (s : Monitor) (i : MonitorInput) : Decidable (Accepted host s i) :=
  match i with
  | .register .. | .evict _ => inferInstanceAs (Decidable True)
  | .event data stamp order => inferInstanceAs (Decidable (∀ record ∈
      postedRecord host s data stamp,
      (Broker.createPodTraffic order s.podTraffic record.row).2 = .ok))
  | .foreign w order =>
    inferInstanceAs (Decidable ((Broker.createPodTraffic order s.podTraffic w).2 = .ok))

/-- A row without what is drawn afresh for each record. -/
def unstampedRow (row : Broker.PodTraffic) : Broker.PodTraffic :=
  { row with uuid := "", timeStamp := 0 }

/-- The same input, with an id and a time of its own and for rows in an order of its own. -/
inductive SameInput : MonitorInput → MonitorInput → Prop where
  | register (inodeNum : UInt64) (podInspect : PodInspect) :
      SameInput (.register inodeNum podInspect) (.register inodeNum podInspect)
  | evict (key key' : TrafficKey) : SameInput (.evict key) (.evict key')
  | event (data : NetworkEventData) (stamp stamp' : Stamp)
      (order order' : Reordering Broker.PodTraffic) :
      SameInput (.event data stamp order) (.event data stamp' order')
  | foreign {w w' : Broker.PodTraffic} (order order' : Reordering Broker.PodTraffic)
      (h : unstampedRow w = unstampedRow w') : SameInput (.foreign w order) (.foreign w' order')

/-! ## The table as a duplicate store -/

theorem hides_unstampedRow (s w : Broker.PodTraffic) :
    Broker.hides (unstampedRow s) (unstampedRow w) = Broker.hides s w := rfl

theorem offer_unstampedRow (t : List Broker.PodTraffic) (w : Broker.PodTraffic) :
    (offer Broker.hides t w).map unstampedRow
      = offer Broker.hides (t.map unstampedRow) (unstampedRow w) := by
  have hany : (t.map unstampedRow).any (Broker.hides · (unstampedRow w))
      = t.any (Broker.hides · w) := by
    rw [List.any_map]
    exact congrArg t.any (funext fun s => hides_unstampedRow s w)
  unfold offer
  rw [hany]
  split <;> simp

/-- An accepted `POST` offers its record to the store, whatever the order of the rows. -/
theorem createPodTraffic_of_ok {o : Reordering Broker.PodTraffic} {t : List Broker.PodTraffic}
    {w : Broker.PodTraffic} (h : (Broker.createPodTraffic o t w).2 = .ok) :
    (Broker.createPodTraffic o t w).1 = offer Broker.hides t w := by
  unfold Broker.createPodTraffic at h ⊢
  unfold offer
  cases hany : t.any (Broker.hides · w) with
  | false =>
    rw [(w.getRow_eq_none_iff o t).mpr hany] at h ⊢
    by_cases huuid : t.any (·.uuid = w.uuid) = true
    · simp [huuid] at h
    · simp [huuid]
  | true =>
    have hfound : w.getRow o t ≠ none := by
      rw [Ne, w.getRow_eq_none_iff, hany]; simp
    simp [hfound]

/-- The rows of events, and the keys they are cached under. -/
def IsEventRow (row : Broker.PodTraffic) : Prop :=
  ∃ host stamp data podInspect, row = (recordOf host stamp data podInspect).row

/-- The cache key of the record that a row came from. -/
def rowKey (row : Broker.PodTraffic) : TrafficKey where
  podName := row.podName.getD ""
  podIp := row.podIp.getD ""
  podPort := row.podPort.getD ""
  trafficInOutIp := row.trafficInOutIp.getD ""
  trafficInOutPort := row.trafficInOutPort.getD ""
  trafficType := row.trafficType.getD ""
  ipProtocol := row.ipProtocol.getD ""

/-- Every column that the broker compares is in the key. -/
theorem absorbs_hides : Absorbs Broker.hides IsEventRow rowKey := by
  constructor
  · rintro _ _ ⟨_, _, data, podInspect, rfl⟩ ⟨_, _, data', podInspect', rfl⟩ hkey s
    simp only [rowKey, Controller.PodTraffic.row, recordOf, Option.getD_some,
      TrafficKey.mk.injEq] at hkey
    simp only [Broker.hides, Broker.peerPortQuery, Broker.podPortQuery, Broker.bothPortsQuery,
      Controller.PodTraffic.row, recordOf, hkey]
    rfl
  · rintro _ _ ⟨_, _, data, podInspect, rfl⟩ ⟨_, _, data', podInspect', rfl⟩ hkey
    simp only [rowKey, Controller.PodTraffic.row, recordOf, Option.getD_some,
      TrafficKey.mk.injEq] at hkey
    simp [Broker.hides, Broker.peerPortQuery, Broker.bothPortsQuery,
      Controller.PodTraffic.row, recordOf, hkey]

/-! ## One input -/

/-- The columns of the table without ids and times, and what the cache promises about them. -/
structure Simulates (s s' : Monitor) : Prop where
  containerMap : s.containerMap = s'.containerMap
  podTraffic : s.podTraffic.map unstampedRow = s'.podTraffic.map unstampedRow
  covered : ∀ key ∈ s.cache, Covers Broker.hides IsEventRow rowKey s.podTraffic key

theorem postedRecord_eq (host : Endian) {s : Monitor} {data : NetworkEventData} (stamp : Stamp)
    {podInspect : PodInspect} (hpod : s.containerMap.lookup data.inum = some podInspect) :
    postedRecord host s data stamp
      = if ownAddress host data podInspect ∨ keyOf host data podInspect ∈ s.cache then none
        else some (recordOf host stamp data podInspect) := by
  simp only [postedRecord, hpod, Option.bind_some, processNetworkEvent_eq]
  split <;> rfl

/-- What an event does to the table and the cache, if its `POST` is accepted. -/
theorem step_event {host : Endian} {s : Monitor} {data : NetworkEventData} {stamp : Stamp}
    {order : Reordering Broker.PodTraffic} {podInspect : PodInspect}
    (hpod : s.containerMap.lookup data.inum = some podInspect)
    (hok : Accepted host s (.event data stamp order)) :
    s.step host (.event data stamp order)
      = if ownAddress host data podInspect ∨ keyOf host data podInspect ∈ s.cache then s
        else
          { s with
            cache := insert (keyOf host data podInspect) s.cache
            podTraffic := offer Broker.hides s.podTraffic
              (recordOf host stamp data podInspect).row } := by
  have hposted := postedRecord_eq host stamp hpod
  by_cases hskip : ownAddress host data podInspect ∨ keyOf host data podInspect ∈ s.cache
  · rw [if_pos hskip] at hposted ⊢
    simp only [Monitor.step, hpod, hposted]
  · rw [if_neg hskip] at hposted ⊢
    have hreply := hok _ hposted
    have htable := createPodTraffic_of_ok hreply
    simp only [Monitor.step, hpod, hposted, htable, hreply, processNetworkEvent_eq, if_neg hskip]
    rfl

/-- **One input keeps the tables in step.** -/
theorem simulates_step {host : Endian} {s s' : Monitor} {i i' : MonitorInput}
    (hsame : SameInput i i') (hs : Simulates s s') (hok : Accepted host s i)
    (hok' : Accepted host { s' with cache := ∅ } i') :
    Simulates (s.step host i) (s'.stepWithoutCache host i') := by
  cases hsame with
  | register inodeNum podInspect =>
    exact ⟨congrArg (·.insert inodeNum podInspect) hs.containerMap, hs.podTraffic, hs.covered⟩
  | evict key key' =>
    exact ⟨hs.containerMap, hs.podTraffic, fun k hk => hs.covered k (Finset.mem_of_mem_erase hk)⟩
  | foreign order order' h =>
    have htable := createPodTraffic_of_ok hok
    have htable' := createPodTraffic_of_ok hok'
    refine ⟨hs.containerMap, ?_, fun key hkey => ?_⟩
    · simp only [Monitor.step, Monitor.stepWithoutCache, htable, htable', offer_unstampedRow,
        hs.podTraffic, h]
    · simp only [Monitor.step, htable]
      exact (hs.covered key hkey).offer _
  | event data stamp stamp' order order' =>
    cases hpod : s.containerMap.lookup data.inum with
    | none =>
      -- an event of no registered pod
      have hpod' : s'.containerMap.lookup data.inum = none := hs.containerMap ▸ hpod
      simp only [Monitor.step, Monitor.stepWithoutCache, hpod, hpod']
      exact ⟨hs.containerMap, hs.podTraffic, hs.covered⟩
    | some podInspect =>
      have hpod' : ({ s' with cache := ∅ } : Monitor).containerMap.lookup data.inum
          = some podInspect := hs.containerMap ▸ hpod
      rw [Monitor.stepWithoutCache, step_event hpod hok, step_event hpod' hok']
      by_cases hown : ownAddress host data podInspect
      · rw [if_pos (.inl hown), if_pos (.inl hown)]
        exact ⟨hs.containerMap, hs.podTraffic, hs.covered⟩
      · rw [if_neg (show ¬ (ownAddress host data podInspect
          ∨ keyOf host data podInspect ∈ (∅ : Finset TrafficKey)) by simp [hown])]
        have hrows : unstampedRow (recordOf host stamp data podInspect).row
            = unstampedRow (recordOf host stamp' data podInspect).row := rfl
        by_cases hcached : keyOf host data podInspect ∈ s.cache
        · -- the record that is posted without the cache is dropped
          rw [if_pos (.inr hcached)]
          have hdropped := (hs.covered _ hcached).offer_eq
            (a := (recordOf host stamp data podInspect).row) ⟨host, stamp, data, podInspect, rfl⟩
          refine ⟨hs.containerMap, ?_, hs.covered⟩
          rw [offer_unstampedRow, ← hs.podTraffic, ← hrows, ← offer_unstampedRow, hdropped]
        · rw [if_neg (not_or.mpr ⟨hown, hcached⟩)]
          refine ⟨hs.containerMap, ?_, fun key hkey => ?_⟩
          · rw [offer_unstampedRow, offer_unstampedRow, hs.podTraffic, hrows]
          · rcases Finset.mem_insert.mp hkey with rfl | hold
            · exact covers_offer absorbs_hides ⟨host, stamp, data, podInspect, rfl⟩
            · exact (hs.covered key hold).offer _

/-! ## Whole runs -/

/-- **The cache is transparent.** -/
theorem cache_transparent (host : Endian) (podTraffic : List Broker.PodTraffic)
    {inputs inputs' : List MonitorInput} (hsame : List.Forall₂ SameInput inputs inputs')
    (hok : Meets (Monitor.step host) (Accepted host) (.start podTraffic) inputs)
    (hok' : Meets (Monitor.stepWithoutCache host) (fun s => Accepted host { s with cache := ∅ })
      (.start podTraffic) inputs') :
    (run (Monitor.step host) (.start podTraffic) inputs).podTraffic.map unstampedRow
      = (run (Monitor.stepWithoutCache host) (.start podTraffic) inputs').podTraffic.map
          unstampedRow := by
  have hruns : ∀ s s', Simulates s s' → Meets (Monitor.step host) (Accepted host) s inputs →
      Meets (Monitor.stepWithoutCache host) (fun s => Accepted host { s with cache := ∅ }) s'
        inputs' →
      Simulates (run (Monitor.step host) s inputs)
        (run (Monitor.stepWithoutCache host) s' inputs') := by
    clear hok hok'
    induction hsame with
    | nil => exact fun s s' hs _ _ => hs
    | cons hi _ ih =>
      intro s s' hs hok hok'
      exact ih _ _ (simulates_step hi hs hok.1 hok'.1) hok.2 hok'.2
  exact (hruns _ _ ⟨rfl, rfl, by simp [Monitor.start]⟩ hok hok').podTraffic

/-- `web` connects to one peer three times, and the cache forgets the first. -/
def threeConnections (uuid : String) : List MonitorInput :=
  [.register 1 webInspect, .event webEvent ⟨uuid ++ "1", 1⟩ .stored,
    .evict (keyOf .little webEvent webInspect), .event webEvent ⟨uuid ++ "2", 2⟩ .stored,
    .event webEvent ⟨uuid ++ "3", 3⟩ .stored]

theorem cache_transparent_three_connections :
    (run (Monitor.step .little) (.start []) (threeConnections "u")).podTraffic.map unstampedRow
      = (run (Monitor.stepWithoutCache .little) (.start []) (threeConnections "v")).podTraffic.map
          unstampedRow :=
  cache_transparent .little []
    (.cons (.register ..) (.cons (.event ..) (.cons (.evict ..) (.cons (.event ..)
      (.cons (.event ..) .nil)))))
    (by decide +kernel) (by decide +kernel)

end KubeGuardian.System
