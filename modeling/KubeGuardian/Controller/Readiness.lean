import KubeGuardian.Controller.PodWatcher
import KubeGuardian.Lib.Delimited

/-!
# Are unready objects left alone?

`controller/src/service_watcher.rs`, beside the pod watcher. Both ask whether an object is ready by
joining the messages of the conditions that say it is not, and looking at the text.

* **`unready_iff`** — an object that is not ready is treated so exactly when it is not the case that
  one condition alone says so, without a message; a pod whose containers have no status is passed
  over in any case.
-/

namespace KubeGuardian.Controller

open Lib

/-! ## The service watcher -/

/-- Here a message is never absent. -/
structure ServiceCondition where
  type_ : String
  status : String
  message : String
  deriving DecidableEq

/-- A `Service` of the API, which always has a status; of its spec only the address is read. -/
structure ServiceObject where
  name : String
  ns : Option String
  clusterIp : Option String
  conditions : Option (List ServiceCondition)
  deriving DecidableEq

/-- The body of `POST /svc/spec`. -/
structure SvcSpec where
  svcIp : String
  svcName : String
  svcNamespace : Option String
  serviceSpec : ServiceObject
  deriving DecidableEq

/-- The check of a Service. The messages are joined, and the text decides. -/
def svcUnready (p : ServiceObject) : Option String :=
  match p.conditions with
  | some conds =>
    let ready := conds.filter fun c => c.type_ = "Ready" ∧ c.status = "False"
    let failed := ",".intercalate (ready.map (·.message))
    if failed ≠ "" then some s!"Unready Service {p.name}: {failed}" else none
  | none => none

/-- `update_serviceinfo`: what it posts. -/
def updateServiceinfo (svc : ServiceObject) : List SvcSpec :=
  match svc.clusterIp with
  | some svcIp =>
    [{ svcIp, svcName := svc.name, svcNamespace := svc.ns, serviceSpec := svc }]
  | none => []

/-- The closure of `watch_service`. -/
def watchService (p : ServiceObject) : List SvcSpec :=
  match svcUnready p with
  | some _ => []
  | none => updateServiceinfo p

/-! ## Conditions -/

def PodCondition.SaysUnready (c : PodCondition) : Prop := c.type_ = "Ready" ∧ c.status = "False"

def ServiceCondition.SaysUnready (c : ServiceCondition) : Prop :=
  c.type_ = "Ready" ∧ c.status = "False"

instance (c : PodCondition) : Decidable c.SaysUnready := inferInstanceAs (Decidable (_ ∧ _))

instance (c : ServiceCondition) : Decidable c.SaysUnready := inferInstanceAs (Decidable (_ ∧ _))

/-- The conditions that say that the pod is not ready. -/
def PodObject.failing (pod : PodObject) : List PodCondition :=
  (pod.status.conditions.getD []).filter (·.SaysUnready)

def ServiceObject.failing (svc : ServiceObject) : List ServiceCondition :=
  (svc.conditions.getD []).filter (·.SaysUnready)

/-- One condition says so, and does not say why. -/
def PodObject.Silent (pod : PodObject) : Prop :=
  ∃ c, pod.failing = [c] ∧ (c.message = none ∨ c.message = some "")

def ServiceObject.Silent (svc : ServiceObject) : Prop := ∃ c, svc.failing = [c] ∧ c.message = ""

/-- **The text is empty** where nothing fails, and where what fails is silent. -/
theorem intercalate_messages_eq_empty_iff {γ : Type} (message : γ → String) (failing : List γ) :
    ",".intercalate (failing.map message) = ""
      ↔ failing = [] ∨ ∃ c, failing = [c] ∧ message c = "" := by
  rw [intercalate_eq_empty_iff rfl, List.map_eq_nil_iff, List.map_eq_singleton_iff]

/-- The text that the pod watcher looks at. -/
def PodObject.failed (pod : PodObject) : String :=
  ",".intercalate (pod.failing.map fun c => c.message.getD "")

theorem failed_eq_empty_iff (pod : PodObject) :
    pod.failed = "" ↔ pod.failing = [] ∨ pod.Silent := by
  have hsilent : (∃ c, pod.failing = [c] ∧ c.message.getD "" = "") ↔ pod.Silent := by
    refine exists_congr fun c => and_congr_right fun _ => ?_
    cases c.message <;> simp
  rw [PodObject.failed, intercalate_messages_eq_empty_iff, hsilent]

theorem podUnready_eq (pod : PodObject) :
    podUnready pod = if pod.failed ≠ "" then none
      else pod.status.containerStatuses.map (·.filterMap id) := by
  unfold podUnready PodObject.failed PodObject.failing
  cases pod.status.conditions <;> rfl

theorem svcUnready_eq_none_iff (svc : ServiceObject) :
    svcUnready svc = none ↔ svc.failing = [] ∨ svc.Silent := by
  have hmessages := intercalate_messages_eq_empty_iff ServiceCondition.message svc.failing
  rw [ServiceObject.Silent, ← hmessages]
  unfold svcUnready ServiceObject.failing
  cases svc.conditions with
  | none => exact iff_of_true rfl rfl
  | some conds =>
    simp only [ite_eq_right_iff, reduceCtorEq, imp_false, not_not]
    rfl

/-! ## The property and the condition -/

/-- A pod that is not ready is passed over, and of one that is not unready the container ids are
taken. -/
structure PodHonoured (pod : PodObject) : Prop where
  unready : pod.failing ≠ [] → podUnready pod = none
    ∧ ∀ cfg runtime, processPod cfg runtime pod = ([], none)
      ∧ watchPods cfg runtime pod = []
  ready : pod.failing = [] → ∀ statuses, pod.status.containerStatuses = some statuses →
    podUnready pod = some (statuses.filterMap id)

structure SvcHonoured (svc : ServiceObject) : Prop where
  unready : svc.failing ≠ [] → (svcUnready svc).isSome ∧ watchService svc = []

/-- What is treated as unready has no effect. -/
theorem processPod_of_unready {pod : PodObject} (h : podUnready pod = none) (cfg : WatcherConfig)
    (runtime : Runtime) :
    processPod cfg runtime pod = ([], none) ∧ watchPods cfg runtime pod = [] := by
  have hpod : processPod cfg runtime pod = ([], none) := by
    unfold processPod
    rw [h]
  exact ⟨hpod, by rw [watchPods, hpod]; rfl⟩

theorem podHonoured_iff (pod : PodObject) :
    PodHonoured pod ↔ (pod.Silent → pod.status.containerStatuses = none) := by
  constructor
  · intro h hsilent
    obtain ⟨c, hc, -⟩ := id hsilent
    have hunready := (h.unready (by simp [hc])).1
    have hfailed : pod.failed = "" := (failed_eq_empty_iff pod).mpr (.inr hsilent)
    rw [podUnready_eq, if_neg (not_not.mpr hfailed)] at hunready
    exact Option.map_eq_none_iff.mp hunready
  · intro h
    refine ⟨fun hfailing => ?_, fun hnone statuses hstatuses => ?_⟩
    · have hunready : podUnready pod = none := by
        rw [podUnready_eq]
        by_cases hfailed : pod.failed = ""
        · have hsilent := ((failed_eq_empty_iff pod).mp hfailed).resolve_left hfailing
          rw [if_neg (not_not.mpr hfailed), h hsilent]
          rfl
        · exact if_pos hfailed
      exact ⟨hunready, processPod_of_unready hunready⟩
    · have hfailed : pod.failed = "" := (failed_eq_empty_iff pod).mpr (.inl hnone)
      rw [podUnready_eq, if_neg (not_not.mpr hfailed), hstatuses]
      rfl

theorem svcHonoured_iff (svc : ServiceObject) : SvcHonoured svc ↔ ¬ svc.Silent := by
  constructor
  · intro h hsilent
    obtain ⟨c, hc, -⟩ := id hsilent
    have hunready := (h.unready (by simp [hc])).1
    rw [(svcUnready_eq_none_iff svc).mpr (.inr hsilent)] at hunready
    cases hunready
  · refine fun hloud => ⟨fun hfailing => ?_⟩
    obtain ⟨reason, hreason⟩ : ∃ reason, svcUnready svc = some reason := by
      apply Option.ne_none_iff_exists'.mp
      intro hnone
      exact ((svcUnready_eq_none_iff svc).mp hnone).elim hfailing hloud
    rw [watchService, hreason]
    exact ⟨rfl, rfl⟩

/-- **When an object that is not ready is left alone.** -/
theorem unready_iff (pod : PodObject) (svc : ServiceObject) :
    (PodHonoured pod ↔ (pod.Silent → pod.status.containerStatuses = none))
      ∧ (SvcHonoured svc ↔ ¬ svc.Silent) :=
  ⟨podHonoured_iff pod, svcHonoured_iff svc⟩

/-- A pod that has run to its end: not ready, for a reason that is not put into words. -/
def completedPod : PodObject where
  name := "migrate-1"
  ns := some "shop"
  ownerReferences := some ["Job"]
  status :=
    { podIp := some "10.0.0.5"
      conditions := some [⟨"Initialized", "True", none⟩, ⟨"Ready", "False", none⟩]
      containerStatuses := some [some "containerd://c1"] }

def unreadyService : ServiceObject :=
  ⟨"db", some "shop", some "10.96.0.7", some [⟨"Ready", "False", ""⟩]⟩

/-- Both are reported. -/
theorem silent_objects_reported :
    (∃ c ∈ (completedPod.status.conditions).getD [], c.type_ = "Ready" ∧ c.status = "False")
      ∧ (∀ cfg runtime, .postDetails ⟨"10.0.0.5", "migrate-1", some "shop", completedPod⟩
          ∈ watchPods cfg runtime completedPod)
      ∧ (∃ c ∈ unreadyService.conditions.getD [], c.type_ = "Ready" ∧ c.status = "False")
      ∧ watchService unreadyService = [⟨"10.96.0.7", "db", some "shop", unreadyService⟩] := by
  have hwatched : Watched completedPod "10.0.0.5" := ⟨by decide, rfl⟩
  refine ⟨by decide, fun cfg runtime => ?_, by decide, by decide⟩
  rw [watchPods_of_watched hwatched]
  exact List.mem_append_left _ (List.mem_append_left _ (List.mem_singleton_self _))

end KubeGuardian.Controller
