import KubeGuardian.Broker.Details
import KubeGuardian.Broker.Syscalls
import KubeGuardian.Broker.Traffic
import KubeGuardian.Lib.Run

/-!
# The broker as a server

The four tables together, the `POST` handlers as one step function and the `GET` handlers that
the advisor uses. The tables do not touch each other, so what a run of requests leaves in one of
them is what the requests of its own kind leave (`podDetails_serve`, `podTraffic_serve`).
-/

namespace KubeGuardian.Broker

open Lib

/-- The four tables. The order of a list is that of insertion. -/
structure Db where
  podTraffic : List PodTraffic
  podDetails : List PodDetail
  svcDetails : List SvcDetail
  podSyscalls : List PodSyscalls

/-- The orders in which the database yields the rows of each table while one request is served. -/
structure Orders where
  podTraffic : Reordering PodTraffic
  podDetails : Reordering PodDetail
  svcDetails : Reordering SvcDetail
  podSyscalls : Reordering PodSyscalls

def Orders.stored : Orders := ⟨.stored, .stored, .stored, .stored⟩

/-! ## `POST` -/

inductive Post where
  | podTraffic (w : PodTraffic)
  | podSpec (w : PodDetail)
  | svcSpec (w : SvcDetail)
  | podSyscalls (ws : List PodInputSyscalls)

def handle (db : Db) (o : Orders) : Post → Db × Reply
  | .podTraffic w =>
    let (t, reply) := createPodTraffic o.podTraffic db.podTraffic w
    ({ db with podTraffic := t }, reply)
  | .podSpec w =>
    let (t, reply) := upsertPodDetails db.podDetails w
    ({ db with podDetails := t }, reply)
  | .svcSpec w =>
    let (t, reply) := upsertSvcDetails db.svcDetails w
    ({ db with svcDetails := t }, reply)
  | .podSyscalls ws =>
    let (t, reply) := createPodSyscalls o.podSyscalls db.podSyscalls ws
    ({ db with podSyscalls := t }, reply)

/-- The state after one request, with the orders of its moment. -/
def step (db : Db) (req : Orders × Post) : Db := (handle db req.1 req.2).1

/-- The state that the requests `reqs`, handled one after another, leave of an empty database. -/
def serve (reqs : List (Orders × Post)) : Db := run step ⟨[], [], [], []⟩ reqs

theorem serve_append (reqs reqs' : List (Orders × Post)) :
    serve (reqs ++ reqs') = run step (serve reqs) reqs' := by
  unfold serve
  rw [run_append]

theorem serve_snoc (reqs : List (Orders × Post)) (req : Orders × Post) :
    serve (reqs ++ [req]) = step (serve reqs) req := by
  rw [serve_append]; rfl

/-! ## What each table is made of -/

def podSpecs (reqs : List (Orders × Post)) : List PodDetail :=
  reqs.filterMap fun req =>
    match req.2 with
    | .podSpec w => some w
    | _ => none

/-- `pod_details` is made of the reported specs and of nothing else. -/
theorem podDetails_serve (reqs : List (Orders × Post)) :
    (serve reqs).podDetails = upserts PodDetail.podName PodDetail.changeset (podSpecs reqs) := by
  refine run_part (fun (db : Db) (req : Orders × Post) => ?_) _ reqs
  obtain ⟨o, post⟩ := req
  cases post <;> rfl

def trafficRecords (reqs : List (Orders × Post)) : List PodTraffic :=
  reqs.filterMap fun req =>
    match req.2 with
    | .podTraffic w => some w
    | _ => none

/-- **Records with uuids of their own fill `pod_traffic` as a duplicate store**, whatever is posted
between them. Induction on the requests from the last one; what is stored was posted, so its uuid
is another one. -/
theorem podTraffic_serve {reqs : List (Orders × Post)}
    (huuid : ((trafficRecords reqs).map (·.uuid)).Nodup) :
    (serve reqs).podTraffic = stored hides (trafficRecords reqs) := by
  induction reqs using List.reverseRecOn with
  | nil => rfl
  | append_singleton reqs req ih =>
    obtain ⟨o, post⟩ := req
    rw [serve_snoc]
    rw [trafficRecords, List.filterMap_append, ← trafficRecords] at huuid ⊢
    cases post with
    | podTraffic w =>
      have hnodup : ((trafficRecords reqs).map (·.uuid) ++ [w.uuid]).Nodup := by
        simpa using huuid
      obtain ⟨hold, _, hdisjoint⟩ := List.nodup_append.mp hnodup
      have hnew : ∀ row ∈ stored hides (trafficRecords reqs), row.uuid ≠ w.uuid := by
        intro row hrow
        exact hdisjoint _ (List.mem_map_of_mem (mem_of_mem_stored hrow)) _ (by simp)
      show (createPodTraffic o.podTraffic (serve reqs).podTraffic w).1
        = stored hides (trafficRecords reqs ++ [w])
      rw [ih hold, createPodTraffic_fst o.podTraffic hnew]
      unfold stored
      rw [run_snoc]
    | podSpec w => simpa [step, handle] using ih (by simpa using huuid)
    | svcSpec w => simpa [step, handle] using ih (by simpa using huuid)
    | podSyscalls ws => simpa [step, handle] using ih (by simpa using huuid)

theorem mem_createPodTraffic {o : Reordering PodTraffic} {t : List PodTraffic} {w row : PodTraffic}
    (h : row ∈ (createPodTraffic o t w).1) : row ∈ t ∨ row = w := by
  unfold createPodTraffic at h
  split_ifs at h
  · exact .inl h
  · simpa using h
  · exact .inl h

/-- Every traffic row was posted just so: rows are never changed. -/
theorem mem_podTraffic_serve {reqs : List (Orders × Post)} {row : PodTraffic}
    (h : row ∈ (serve reqs).podTraffic) : ∃ o, (o, Post.podTraffic row) ∈ reqs := by
  induction reqs using List.reverseRecOn with
  | nil => simp [serve] at h
  | append_singleton reqs req ih =>
    obtain ⟨o, post⟩ := req
    rw [serve_snoc] at h
    have hold : row ∈ (serve reqs).podTraffic →
        ∃ o', (o', Post.podTraffic row) ∈ reqs ++ [(o, post)] := by
      intro hrow
      obtain ⟨o', hmem⟩ := ih hrow
      exact ⟨o', List.mem_append_left _ hmem⟩
    cases post with
    | podTraffic w =>
      -- the one request that can have put it there
      rcases mem_createPodTraffic h with hrow | rfl
      · exact hold hrow
      · exact ⟨o, by simp⟩
    | podSpec w => exact hold h
    | svcSpec w => exact hold h
    | podSyscalls ws => exact hold h

/-! ## `GET` -/

inductive GetReply (α : Type) where
  | ok (body : α)
  | notFound
  | internalServerError

def GetReply.statusCode {α : Type} : GetReply α → Nat
  | .ok _ => 200
  | .notFound => 404
  | .internalServerError => 500

/-- A handler's answer; a path that ends where the segment should stand meets no handler. -/
def answer {α : Type} (segment : String) (found : Option α) : GetReply α :=
  if segment = "" then .notFound
  else match found with
    | some body => .ok body
    | none => .notFound

def getPodTrafficName (db : Db) (o : Orders) (name : String) : GetReply (List PodTraffic) :=
  answer name (podTrafficByName o.podTraffic db.podTraffic name)

def getPodByIp (db : Db) (o : Orders) (ip : String) : GetReply PodDetail :=
  answer ip (podIp o.podDetails db.podDetails ip)

def getSvcByIp (db : Db) (o : Orders) (ip : String) : GetReply SvcDetail :=
  answer ip (svcIp o.svcDetails db.svcDetails ip)

end KubeGuardian.Broker
