import KubeGuardian.Broker.SyscallRace
import KubeGuardian.Broker.TrafficRace
import Mathlib.Data.Fintype.Sum

/-!
# Requests at the same time

Any number of `POST /pod/traffic` and `POST /pod/syscalls` requests on connections of their own:
each statement is atomic, and the statements of different requests come in any order.

* **`serializable_of_fresh`** — when the requests might as well have been served one after another,
  and what it takes at least.
* **`not_serializable_alternating`** — two requests with one record leave two rows, and one of two
  first batches of a pod fails.
-/

namespace KubeGuardian.Broker

open Lib

variable {ι κ : Type}

/-- The two tables and the requests that are being served. -/
structure Serving (ι κ : Type) where
  traffic : TrafficServing ι
  batches : BatchServing κ

/-- The requests of the two kinds. -/
def post (req : ι → PodTraffic) (batch : κ → List PodInputSyscalls) : ι ⊕ κ → Post
  | .inl i => .podTraffic (req i)
  | .inr j => .podSyscalls (batch j)

namespace Serving

def start (db : Db) (batch : κ → List PodInputSyscalls) : Serving ι κ :=
  ⟨.start db.podTraffic, .start batch db.podSyscalls⟩

def reply (s : Serving ι κ) : ι ⊕ κ → Option Reply
  | .inl i => match s.traffic.phase i with
    | .replied reply => some reply
    | _ => none
  | .inr j => match s.batches.phase j with
    | .replied reply => some reply
    | _ => none

/-- A request about traffic has its reply when its statements are done. -/
theorem reply_inl {s : Serving ι κ} {i : ι} {reply : Reply}
    (h : s.traffic.phase i = .replied reply) : s.reply (.inl i) = some reply := by
  simp [Serving.reply, h]

theorem reply_inr {s : Serving ι κ} {j : κ} {reply : Reply}
    (h : s.batches.phase j = .replied reply) : s.reply (.inr j) = some reply := by
  simp [Serving.reply, h]

variable [DecidableEq ι] [DecidableEq κ]

/-- The next statement of one of the requests, with the orders of its moment. -/
def step (req : ι → PodTraffic) (s : Serving ι κ) : (ι ⊕ κ) × Orders → Serving ι κ
  | (.inl i, o) => { s with traffic := s.traffic.step req (i, o.podTraffic) }
  | (.inr j, o) => { s with batches := s.batches.step (j, o.podSyscalls) }

/-- An insert still finds what its lookup found. -/
def Fresh (req : ι → PodTraffic) (s : Serving ι κ) : (ι ⊕ κ) × Orders → Prop
  | (.inl i, o) => s.traffic.fresh req (i, o.podTraffic) = true
  | (.inr j, o) => s.batches.fresh (j, o.podSyscalls) = true

instance (req : ι → PodTraffic) (s : Serving ι κ) :
    ∀ a : (ι ⊕ κ) × Orders, Decidable (s.Fresh req a)
  | (.inl i, o) => inferInstanceAs (Decidable (s.traffic.fresh req (i, o.podTraffic) = true))
  | (.inr j, o) => inferInstanceAs (Decidable (s.batches.fresh (j, o.podSyscalls) = true))

/-- An insert finds no row of its own columns or key: less than `Fresh` for a record, since a row
may hide a record of other ports or of another protocol. -/
def Apart (req : ι → PodTraffic) (s : Serving ι κ) : (ι ⊕ κ) × Orders → Prop
  | (.inl i, o) => s.traffic.apart req (i, o.podTraffic) = true
  | (.inr j, o) => s.batches.fresh (j, o.podSyscalls) = true

end Serving

/-! ## The two kinds apart

Requests about traffic and batches of syscalls touch different tables, so a run of both is one of
each.
-/

def trafficPart (schedule : List ((ι ⊕ κ) × Orders)) : List (ι × Reordering PodTraffic) :=
  schedule.filterMap fun a => match a with
    | (.inl i, o) => some (i, o.podTraffic)
    | (.inr _, _) => none

def batchPart (schedule : List ((ι ⊕ κ) × Orders)) : List (κ × Reordering PodSyscalls) :=
  schedule.filterMap fun a => match a with
    | (.inl _, _) => none
    | (.inr j, o) => some (j, o.podSyscalls)

section Parts

variable [DecidableEq ι] [DecidableEq κ] {req : ι → PodTraffic}

/-- **A run of both kinds is a run of each**, over its own part of the schedule. -/
theorem run_serving (s : Serving ι κ) (schedule : List ((ι ⊕ κ) × Orders)) :
    run (Serving.step req) s schedule
      = ⟨run (TrafficServing.step req) s.traffic (trafficPart schedule),
        run BatchServing.step s.batches (batchPart schedule)⟩ := by
  induction schedule generalizing s with
  | nil => rfl
  | cons a schedule ih =>
    rw [run_cons, ih]
    rcases a with ⟨i | j, o⟩ <;> rfl

/-- A guard that asks one thing of the traffic's statements and another of the batches' is met
where both parts meet theirs. -/
theorem meets_parts_iff {guard : Serving ι κ → (ι ⊕ κ) × Orders → Prop}
    {ofTraffic : TrafficServing ι → ι × Reordering PodTraffic → Prop}
    {ofBatches : BatchServing κ → κ × Reordering PodSyscalls → Prop}
    (htraffic : ∀ s i o, guard s (.inl i, o) ↔ ofTraffic s.traffic (i, o.podTraffic))
    (hbatches : ∀ s j o, guard s (.inr j, o) ↔ ofBatches s.batches (j, o.podSyscalls))
    (s : Serving ι κ) (schedule : List ((ι ⊕ κ) × Orders)) :
    Meets (Serving.step req) guard s schedule
      ↔ Meets (TrafficServing.step req) ofTraffic s.traffic (trafficPart schedule)
        ∧ Meets BatchServing.step ofBatches s.batches (batchPart schedule) := by
  induction schedule generalizing s with
  | nil => exact ⟨fun _ => ⟨trivial, trivial⟩, fun _ => trivial⟩
  | cons a schedule ih =>
    rcases a with ⟨i | j, o⟩
    · exact (and_congr (htraffic s i o) (ih _)).trans and_assoc.symm
    · exact (and_congr (hbatches s j o) (ih _)).trans and_left_comm

/-- The first condition is one on each part. -/
theorem meets_fresh_iff (s : Serving ι κ) (schedule : List ((ι ⊕ κ) × Orders)) :
    Meets (Serving.step req) (Serving.Fresh req) s schedule
      ↔ Meets (TrafficServing.step req) (fun s a => s.fresh req a = true) s.traffic
          (trafficPart schedule)
        ∧ Meets BatchServing.step (fun s a => s.fresh a = true) s.batches
          (batchPart schedule) :=
  meets_parts_iff (fun _ _ _ => Iff.rfl) (fun _ _ _ => Iff.rfl) s schedule

theorem meets_apart_iff (s : Serving ι κ) (schedule : List ((ι ⊕ κ) × Orders)) :
    Meets (Serving.step req) (Serving.Apart req) s schedule
      ↔ Meets (TrafficServing.step req) (fun s a => s.apart req a = true) s.traffic
          (trafficPart schedule)
        ∧ Meets BatchServing.step (fun s a => s.fresh a = true) s.batches
          (batchPart schedule) :=
  meets_parts_iff (fun _ _ _ => Iff.rfl) (fun _ _ _ => Iff.rfl) s schedule

end Parts

/-! ## One after another

What the requests leave when they are handled whole, in the order that the two kinds agree on.
-/

/-- A traffic row as it is compared: without its uuid and its time stamp. -/
def PodTraffic.unstamped (row : PodTraffic) : PodTraffic := { row with uuid := "", timeStamp := 0 }

def PodSyscalls.unstamped (row : PodSyscalls) : PodSyscalls := { row with timeStamp := 0 }

/-- The handler of a request as one step. -/
def handleNext (req : ι → PodTraffic) (batch : κ → List PodInputSyscalls) (db : Db)
    (a : (ι ⊕ κ) × Orders) : Db :=
  (handle db a.2 (post req batch a.1)).1

/-- The requests might have been served one after another in this order: the same rows, and none
has failed that would not have failed so. -/
structure OneAfterAnother (db : Db) (req : ι → PodTraffic) (batch : κ → List PodInputSyscalls)
    (final : Serving ι κ) (order : List ((ι ⊕ κ) × Orders)) : Prop where
  once : (order.map (·.1)).Nodup
  all : ∀ k, k ∈ order.map (·.1)
  podTraffic : ((run (handleNext req batch) db order).podTraffic.map PodTraffic.unstamped).Perm
    (final.traffic.table.map PodTraffic.unstamped)
  podSyscalls : ((run (handleNext req batch) db order).podSyscalls.map PodSyscalls.unstamped).Perm
    (final.batches.table.map PodSyscalls.unstamped)
  failures : Meets (handleNext req batch) (fun db a => final.reply a.1 = some .internalServerError →
    (handle db a.2 (post req batch a.1)).2 = .internalServerError) db order

/-- Some order of the requests, served one after another, explains the tables and the replies. -/
def Serializable (db : Db) (req : ι → PodTraffic) (batch : κ → List PodInputSyscalls)
    (final : Serving ι κ) : Prop :=
  ∃ order, OneAfterAnother db req batch final order

section Serial

variable {req : ι → PodTraffic} {batch : κ → List PodInputSyscalls}

/-- Requests about traffic, one after another, leave what the traffic table is left with. -/
theorem run_handleNext_inl (db : Db) (order : List ι) :
    run (fun db i => handleNext req batch db (.inl i, .stored)) db order
      = { db with podTraffic := serialTraffic req db.podTraffic order } := by
  induction order generalizing db with
  | nil => rfl
  | cons i order ih =>
    rw [run_cons, ih]
    rfl

theorem run_handleNext_inr (db : Db) (order : List κ) :
    run (fun db j => handleNext req batch db (.inr j, .stored)) db order
      = { db with podSyscalls := serialBatches batch db.podSyscalls order } := by
  induction order generalizing db with
  | nil => rfl
  | cons j order ih =>
    rw [run_cons, ih]
    rfl

/-- The order in which all traffic requests come before all batches. -/
def inTurn (traffic : List ι) (batches : List κ) : List ((ι ⊕ κ) × Orders) :=
  traffic.map (fun i => (.inl i, .stored)) ++ batches.map fun j => (.inr j, .stored)

/-- First all of one kind, then all of the other. -/
theorem run_inTurn (db : Db) (traffic : List ι) (batches : List κ) :
    run (handleNext req batch) db (inTurn traffic batches)
      = { db with
          podTraffic := serialTraffic req db.podTraffic traffic
          podSyscalls := serialBatches batch db.podSyscalls batches } := by
  rw [inTurn, run_append, run_map, run_map, run_handleNext_inl, run_handleNext_inr]

/-- A request handled whole leaves no two rows that agree. -/
theorem NoTwoAgree.handleNext {db : Db} (h : NoTwoAgree db.podTraffic)
    (a : (ι ⊕ κ) × Orders) : NoTwoAgree (handleNext req batch db a).podTraffic := by
  rcases a with ⟨i | j, o⟩
  · exact h.createPodTraffic o.podTraffic (req i)
  · exact h

/-- Ids and times have no part in it. -/
theorem noTwoAgree_map_unstamped (t : List PodTraffic) :
    NoTwoAgree (t.map PodTraffic.unstamped) ↔ NoTwoAgree t := by
  unfold NoTwoAgree
  rw [List.pairwise_map]
  rfl

/-- **Requests served one after another leave no two rows that agree.** -/
theorem Serializable.noTwoAgree {db : Db} {final : Serving ι κ}
    (h : Serializable db req batch final) (hdb : NoTwoAgree db.podTraffic) :
    NoTwoAgree final.traffic.table := by
  obtain ⟨order, h⟩ := h
  have hserial : NoTwoAgree (run (Broker.handleNext req batch) db order).podTraffic :=
    run_invariant (P := fun db : Db => NoTwoAgree db.podTraffic) _ hdb
      (fun _ a h => h.handleNext a) order
  have hsymm : ∀ {r s : PodTraffic}, agree r s = false → agree s r = false := by
    intro r s hrs
    rw [agree_comm, hrs]
  rw [← noTwoAgree_map_unstamped] at hserial ⊢
  exact (h.podTraffic.pairwise_iff hsymm).mp hserial

/-! ## Where keys agree

If no two pods share a key, no batch fails on its insert, whatever comes before it.
-/

/-- A stored row, or the row of an entry that is posted. -/
def Reported (db : Db) (batch : κ → List PodInputSyscalls) (r : PodSyscalls) : Prop :=
  r ∈ db.podSyscalls ∨ ∃ j, ∃ w ∈ batch j, w.row = r

/-- All that is reported under a pod name has one namespace and one architecture. -/
def AllKeysAgree (db : Db) (batch : κ → List PodInputSyscalls) : Prop :=
  ∀ r s, Reported db batch r → Reported db batch s → r.podName = s.podName → r.key = s.key

def rowsOf (batch : κ → List PodInputSyscalls) (a : (ι ⊕ κ) × Orders) : List PodSyscalls :=
  match a.1 with
  | .inl _ => []
  | .inr j => (batch j).map (·.row)

/-- Then no batch fails that is served in turn. Induction on the requests still to come. -/
theorem batches_ok_of_keysAgree {db : Db} {order : List ((ι ⊕ κ) × Orders)}
    (h : KeysAgree (db.podSyscalls ++ order.flatMap (rowsOf batch))) :
    Meets (Broker.handleNext req batch) (fun db a => ∀ j, a.1 = .inr j →
      (handle db a.2 (post req batch a.1)).2 = .ok) db order := by
  induction order generalizing db with
  | nil => trivial
  | cons a order ih =>
    rcases a with ⟨i | j, o⟩
    · exact ⟨nofun, ih h⟩
    · rw [List.flatMap_cons] at h
      -- the keys of the first batch agree with the table's, as all do
      have hfirst : KeysAgree (db.podSyscalls ++ (batch j).map (·.row)) := by
        intro r hr s hs
        refine h r ?_ s ?_
        · rw [← List.append_assoc]
          exact List.mem_append_left _ hr
        · rw [← List.append_assoc]
          exact List.mem_append_left _ hs
      have hbatch := createPodSyscalls_eq o.podSyscalls hfirst
      refine ⟨fun j' hj => ?_, ih ?_⟩
      · obtain rfl : j = j' := Sum.inr.inj hj
        exact congrArg Prod.snd hbatch
      · show KeysAgree ((createPodSyscalls o.podSyscalls db.podSyscalls (batch j)).1 ++ _)
        rw [hbatch]
        exact KeysAgree.run_upsert h

/-- Where the requests might have come one after another, and keys agree, no batch has failed. -/
theorem OneAfterAnother.not_failed {db : Db} {final : Serving ι κ}
    {order : List ((ι ⊕ κ) × Orders)} (h : OneAfterAnother db req batch final order)
    (hkeys : AllKeysAgree db batch) (j : κ) :
    final.batches.phase j ≠ .replied .internalServerError := by
  intro hphase
  have hrows : KeysAgree (db.podSyscalls ++ order.flatMap (rowsOf batch)) := by
    -- every row is in the table from the start or in some batch
    have hreported : ∀ r ∈ db.podSyscalls ++ order.flatMap (rowsOf batch),
        Reported db batch r := by
      intro r hr
      rcases List.mem_append.mp hr with hr | hr
      · exact .inl hr
      · obtain ⟨⟨i | j, o⟩, _, hr⟩ := List.mem_flatMap.mp hr
        · cases hr
        · obtain ⟨w, hw, rfl⟩ := List.mem_map.mp hr
          exact .inr ⟨j, w, hw, rfl⟩
    exact fun r hr s hs => hkeys r s (hreported r hr) (hreported s hs)
  obtain ⟨⟨k, o⟩, hmem, hk⟩ := List.mem_map.mp (h.all (.inr j))
  obtain rfl : k = .inr j := hk
  obtain ⟨_, hfails, hok⟩ := (h.failures.and (batches_ok_of_keysAgree hrows)).exists_of_mem hmem
  -- so the batch would have to be answered in two ways
  have hreply : final.reply (.inr j) = some .internalServerError := by
    simp [Serving.reply, hphase]
  rw [hok j rfl] at hfails
  exact absurd (hfails hreply) (by decide)

end Serial

/-! ## When the requests might have come one after another

The condition: every insert follows its lookup with nothing of the same kind between that matters,
and both kinds write in one order.
-/

/-- A reply is that of the last phase. -/
theorem exists_reply_of_traffic {s : Serving ι κ} {i : ι} (h : (s.reply (.inl i)).isSome) :
    ∃ reply, s.traffic.phase i = .replied reply := by
  simp only [Serving.reply] at h
  split at h
  · next reply hphase => exact ⟨reply, hphase⟩
  · simp at h

theorem exists_reply_of_batch {s : Serving ι κ} {j : κ} (h : (s.reply (.inr j)).isSome) :
    ∃ reply, s.batches.phase j = .replied reply := by
  simp only [Serving.reply] at h
  split at h
  · next reply hphase => exact ⟨reply, hphase⟩
  · simp at h

/-- Every request has its turn. -/
theorem map_fst_inTurn (traffic : List ι) (batches : List κ) :
    (inTurn traffic batches).map (·.1) = traffic.map Sum.inl ++ batches.map Sum.inr := by
  simp [inTurn, Function.comp_def]

section Serializable

variable [DecidableEq ι] [DecidableEq κ] {db : Db} {req : ι → PodTraffic}
  {batch : κ → List PodInputSyscalls} {schedule : List ((ι ⊕ κ) × Orders)}

/-- The batches write under common pod names in one order. -/
def WriteInOneOrder (s : Serving ι κ) : Prop :=
  ∃ order : List κ, order.Nodup ∧ (∀ j, j ∈ order) ∧ InOrder order s.batches.log

/-- **The condition is enough**: both kinds sort their own statements, and what they leave is put
together. -/
theorem oneAfterAnother_of_fresh
    (hdone : ∀ k, ((run (Serving.step req) (.start db batch) schedule).reply k).isSome)
    (hfresh : Meets (Serving.step req) (Serving.Fresh req) (.start db batch) schedule)
    (hwrites : WriteInOneOrder (run (Serving.step req) (.start db batch) schedule)) :
    Serializable db req batch (run (Serving.step req) (.start db batch) schedule) := by
  obtain ⟨hfreshTraffic, hfreshBatches⟩ := (meets_fresh_iff _ _).mp hfresh
  obtain ⟨traffic, htraffic⟩ := exists_serial_traffic hfreshTraffic
  obtain ⟨batches, hnodup, hcomplete, hlog⟩ := hwrites
  rw [run_serving] at hdone hlog ⊢
  have hanswered : ∀ j, ∃ reply, (run BatchServing.step (.start batch db.podSyscalls)
      (batchPart schedule)).phase j = .replied reply :=
    fun j => exists_reply_of_batch (hdone (.inr j))
  obtain ⟨hrows, hreplies⟩ := exists_serial_batches hfreshBatches hanswered hnodup hcomplete hlog
  -- the traffic requests first, then the batches: they share no table
  refine ⟨inTurn traffic batches, ?_, ?_, ?_, ?_, ?_⟩
  · rw [map_fst_inTurn]
    refine List.nodup_append.mpr ⟨htraffic.nodup.map Sum.inl_injective,
      hnodup.map Sum.inr_injective, fun a ha b hb hab => ?_⟩
    obtain ⟨i, _, rfl⟩ := List.mem_map.mp ha
    obtain ⟨j, _, rfl⟩ := List.mem_map.mp hb
    cases hab
  · rw [map_fst_inTurn]
    rintro (i | j)
    · have hi := (htraffic.answered i).mpr (exists_reply_of_traffic (hdone (.inl i)))
      exact List.mem_append_left _ (List.mem_map_of_mem hi)
    · exact List.mem_append_right _ (List.mem_map_of_mem (hcomplete j))
  · have htable : serialTraffic req db.podTraffic traffic = _ := htraffic.table.symm
    rw [run_inTurn, htable]
    rfl
  · rw [run_inTurn]
    exact hrows.map _
  · unfold inTurn
    rw [meets_append, meets_map, meets_map]
    -- whoever failed also fails in turn
    refine ⟨meets_of_splits fun before i after horder hfailed => ?_,
      meets_of_splits fun before j after horder hfailed => ?_⟩
    · rw [run_handleNext_inl]
      have hreply := htraffic.replies before i after horder
      exact Option.some.inj ((Serving.reply_inl hreply).symm.trans hfailed)
    · rw [run_map, run_handleNext_inl, run_handleNext_inr]
      have hreply := hreplies before j after horder
      exact Option.some.inj ((Serving.reply_inr hreply).symm.trans hfailed)

/-- **Concurrent requests come to what they come to in turn where every insert still finds what its
lookup found and batches write under common pod names in one order**; and only where no insert
finds a row of its own columns or key. -/
theorem serializable_of_fresh
    (hdone : ∀ k, ((run (Serving.step req) (.start db batch) schedule).reply k).isSome) :
    (Meets (Serving.step req) (Serving.Fresh req) (.start db batch) schedule →
      WriteInOneOrder (run (Serving.step req) (.start db batch) schedule) →
      Serializable db req batch (run (Serving.step req) (.start db batch) schedule)
        ∧ (NoTwoAgree db.podTraffic →
          NoTwoAgree (run (Serving.step req) (.start db batch) schedule).traffic.table))
    ∧ (Serializable db req batch (run (Serving.step req) (.start db batch) schedule) →
      NoTwoAgree db.podTraffic → AllKeysAgree db batch →
      Meets (Serving.step req) (Serving.Apart req) (.start db batch) schedule) := by
  refine ⟨fun hfresh hwrites => ?_, fun hserial hdb hkeys => ?_⟩
  · have hserial := oneAfterAnother_of_fresh hdone hfresh hwrites
    exact ⟨hserial, hserial.noTwoAgree⟩
  · rw [meets_apart_iff]
    -- one after another the requests store no two rows that agree
    have hagree := hserial.noTwoAgree hdb
    obtain ⟨order, horder⟩ := hserial
    have hnot := horder.not_failed hkeys
    rw [run_serving] at hagree hnot
    exact ⟨(noTwoAgree_run_iff hdb _).mp hagree, fresh_of_none_failed hnot⟩

end Serializable

/-! ## Small servings -/

def emptyDb : Db := ⟨[], [], [], []⟩

/-- The first statements of two traffic requests and two batches, then their second ones. -/
def alternating : List ((Bool ⊕ Bool) × Orders) :=
  [.inl false, .inl true, .inr false, .inr true, .inl false, .inl true, .inr false, .inr true].map
    (·, .stored)

/-- A record of one pod and peer. -/
def webRecord (uuid port : String) : PodTraffic where
  uuid := uuid
  podName := some "web"
  podNamespace := some "shop"
  podIp := some "10.0.0.5"
  podPort := some "0"
  ipProtocol := some "TCP"
  trafficType := some "EGRESS"
  trafficInOutIp := some "10.96.0.10"
  trafficInOutPort := some port
  timeStamp := 0

def oneEntry (podName syscall : String) : List PodInputSyscalls :=
  [⟨podName, "", [syscall], "x86_64", 0⟩]

/-- Two ports and two pods: nothing is in the others' way. -/
theorem serializable_two_ports_two_pods :
    Serializable emptyDb (fun i => if i then webRecord "u2" "443" else webRecord "u1" "80")
      (fun j => if j then oneEntry "db" "read" else oneEntry "web" "read")
      (run (Serving.step fun i => if i then webRecord "u2" "443" else webRecord "u1" "80")
        (.start emptyDb fun j => if j then oneEntry "db" "read" else oneEntry "web" "read")
        alternating) := by
  have hwrites : WriteInOneOrder
      (run (Serving.step fun i => if i then webRecord "u2" "443" else webRecord "u1" "80")
        (.start emptyDb fun j => if j then oneEntry "db" "read" else oneEntry "web" "read")
        alternating) := by
    refine ⟨[false, true], by decide, by decide, ?_⟩
    show List.Pairwise _ [(false, _), (true, _)]
    simp
  exact ((serializable_of_fresh (by decide)).1 (by decide) hwrites).1

/-- Two requests with the record of one connection are both answered, and it is stored twice; and of
two batches that are the first of a pod one fails, where neither would in turn. -/
theorem not_serializable_alternating :
    let records : Bool → PodTraffic := fun i => webRecord (if i then "u2" else "u1") "443"
    let batches : Bool → List PodInputSyscalls :=
      fun j => oneEntry "web" (if j then "read" else "write")
    let nobody : Bool → List PodInputSyscalls := fun _ => []
    let served := fun batch => run (Serving.step records) (.start emptyDb batch) alternating
    ((∀ k, ((served nobody).reply k).isSome)
        ∧ ¬ Serializable emptyDb records nobody (served nobody))
      ∧ (∀ k, ((served batches).reply k).isSome)
        ∧ ¬ Serializable emptyDb records batches (served batches) := by
  intro records batches nobody served
  refine ⟨⟨by decide, fun h => ?_⟩, by decide, ?_⟩
  · -- no two rows agree if the requests are served in turn, and both records are stored
    have hagree := h.noTwoAgree List.Pairwise.nil
    have htable : (served nobody).traffic.table = [records false, records true] := rfl
    rw [htable] at hagree
    exact absurd ((List.pairwise_cons.mp hagree).1 (records true) (by simp)) (by decide)
  · rintro ⟨order, h⟩
    -- every entry is for the one pod, and one batch fails all the same
    have hrow : ∀ r, Reported emptyDb batches r → r.key = ("web", "", "x86_64") := by
      rintro r (hr | ⟨j, w, hw, rfl⟩)
      · cases hr
      · obtain rfl : w = _ := List.mem_singleton.mp hw
        cases j <;> rfl
    have hkeys : AllKeysAgree emptyDb batches := by
      intro r s hr hs _
      rw [hrow r hr, hrow s hs]
    exact h.not_failed hkeys true rfl

end KubeGuardian.Broker
