import KubeGuardian.Broker.Server

/-!
# Whose row does an address find?

`pod_details` keeps one row for each pod name and drops none, and `pod_ip` asks it by address. So a
pod that is gone keeps the address it had, and two pods of one name share a row.

* **`podIp_own_iff`** — the address that a pod reported last, and that nobody reported since, finds
  that pod's row whichever row comes first, exactly when no like-named pod reported after it and no
  other name was last seen at the address.
-/

namespace KubeGuardian.Broker

open Lib

/-- The report is one of the pod `podName` of the namespace `ns`. -/
def PodDetail.IsOf (ns podName : String) (d : PodDetail) : Prop :=
  d.podName = podName ∧ d.podNamespace = some ns

instance (ns podName : String) (d : PodDetail) : Decidable (d.IsOf ns podName) :=
  inferInstanceAs (Decidable (_ ∧ _))

/-- The address in the last report under `podName`. -/
def lastIp (podName : String) (specs : List PodDetail) : Option String :=
  lastSome (some ·.podIp) (specsOf podName specs)

/-- Whichever row comes first, a lookup by the address finds the row of the pod. -/
def FindsOwn (ns podName ip : String) (t : List PodDetail) : Prop :=
  ∀ o, ∃ row, podIp o t ip = some row ∧ row.IsOf ns podName

theorem specsOf_append_cons {podName : String} (pre post : List PodDetail) {r : PodDetail}
    (hr : r.podName = podName) (hpost : ∀ s ∈ post, s.podName ≠ podName) :
    specsOf podName (pre ++ r :: post) = specsOf podName pre ++ [r] := by
  have hnil : post.filter (·.podName = podName) = [] :=
    List.filter_eq_nil_iff.mpr fun s hs => by simpa using hpost s hs
  simp [reportsOf, hr, hnil]

/-- A name that was reported in `post` was last reported there. -/
theorem lastIp_append {podName : String} (pre : List PodDetail) {post : List PodDetail}
    {s : PodDetail} (hs : s ∈ post) (hname : s.podName = podName) :
    ∃ s' ∈ post, s'.podName = podName ∧ lastIp podName (pre ++ post) = some s'.podIp := by
  induction post using List.reverseRecOn with
  | nil => simp at hs
  | append_singleton post b ih =>
    unfold lastIp at ih ⊢
    rw [← List.append_assoc, specsOf, reportsOf_snoc]
    by_cases hb : b.podName = podName
    · rw [if_pos hb, lastSome_snoc]
      exact ⟨b, by simp, hb, rfl⟩
    · rw [if_neg hb]
      have hold : s ∈ post := by
        rcases List.mem_append.mp hs with hold | hnew
        · exact hold
        · exact absurd (List.mem_singleton.mp hnew ▸ hname) hb
      obtain ⟨s', hs', hname', hlast⟩ := ih hold
      exact ⟨s', List.mem_append_left _ hs', hname', hlast⟩

theorem podIp_of_mem_table {specs : List PodDetail} {d : PodDetail}
    (hd : d ∈ upserts PodDetail.podName PodDetail.changeset specs) :
    lastIp d.podName specs = some d.podIp :=
  (podDetail_of_mem hd).1.symm

/-- The last address of a name stands in its row. -/
theorem exists_row_of_lastIp {specs : List PodDetail} {podName ip : String}
    (h : lastIp podName specs = some ip) :
    ∃ d ∈ upserts PodDetail.podName PodDetail.changeset specs,
      d.podName = podName ∧ d.podIp = ip := by
  have hne : specsOf podName specs ≠ [] := by
    intro hnil
    simp [lastIp, hnil] at h
  obtain ⟨s, hs⟩ := List.exists_mem_of_ne_nil _ hne
  obtain ⟨hmem, hname⟩ := List.mem_filter.mp hs
  obtain ⟨d, hd, hdname⟩ := exists_mem_upserts changeset_podName hmem
  have hdpod : d.podName = podName := hdname.trans (by simpa using hname)
  refine ⟨d, hd, hdpod, ?_⟩
  have hip := podIp_of_mem_table hd
  rw [hdpod, h] at hip
  exact (Option.some.inj hip).symm

/-- **When the last address of a pod finds the pod.** The report `r` is the last of the pod where
the right-hand side holds, since that one leaves no later report under the name. -/
theorem podIp_own_iff {reqs : List (Orders × Post)} {pre post : List PodDetail} {r : PodDetail}
    {ns podName : String} (hreqs : podSpecs reqs = pre ++ r :: post) (hr : r.IsOf ns podName)
    (hip : ∀ s ∈ post, s.podIp ≠ r.podIp) :
    FindsOwn ns podName r.podIp (serve reqs).podDetails
      ↔ (∀ s ∈ post, s.podName ≠ podName)
        ∧ ∀ podName', podName' ≠ podName → lastIp podName' (podSpecs reqs) ≠ some r.podIp := by
  rw [podDetails_serve, hreqs]
  constructor
  · intro h
    constructor
    · intro s hs hname
      -- the row of the name has the address of the later report
      obtain ⟨row, hrow, hrowName, -⟩ := h .stored
      obtain ⟨hmem, hrowIp⟩ := mem_of_podIp hrow
      obtain ⟨s', hs', -, hlastIp⟩ := lastIp_append (pre ++ [r]) hs hname
      rw [List.append_assoc, List.singleton_append, ← hrowName, podIp_of_mem_table hmem] at hlastIp
      exact hip s' hs' ((Option.some.inj hlastIp).symm.trans hrowIp)
    · intro podName' hne hlastIp
      obtain ⟨d, hd, hdname, hdip⟩ := exists_row_of_lastIp hlastIp
      obtain ⟨row, hrow, hrowName, -⟩ := h (.favouring d)
      rw [podIp_favouring hd hdip, Option.some.injEq] at hrow
      exact hne (hdname.symm.trans (hrow ▸ hrowName))
  · rintro ⟨hnew, hothers⟩ o
    have hspecs := specsOf_append_cons pre post hr.1 hnew
    have hown : lastIp podName (pre ++ r :: post) = some r.podIp := by
      rw [lastIp, hspecs, lastSome_snoc]; rfl
    obtain ⟨d, hd, -, hdip⟩ := exists_row_of_lastIp hown
    cases hrow : podIp o (upserts PodDetail.podName PodDetail.changeset (pre ++ r :: post))
        r.podIp with
    | none =>
      rw [podIp, o.first_eq_none_iff, List.filter_eq_nil_iff] at hrow
      exact absurd (by simpa using hdip) (hrow d hd)
    | some row =>
      obtain ⟨hmem, hrowIp⟩ := mem_of_podIp hrow
      have hname : row.podName = podName := by
        by_contra hne
        exact hothers row.podName hne (hrowIp ▸ podIp_of_mem_table hmem)
      refine ⟨row, rfl, hname, ?_⟩
      have hns := (podDetail_of_mem hmem).2.1
      rw [hname, hspecs, lastSome_snoc, hr.2] at hns
      exact hns

/-- `web` comes back at another address, and `db` gets one of its own. -/
def addressesApart : List (Orders × Post) :=
  [.podSpec ⟨"web", "10.0.0.5", some "shop", none, 1⟩,
    .podSpec ⟨"web", "10.0.0.8", some "shop", none, 2⟩,
    .podSpec ⟨"db", "10.0.0.9", some "data", none, 3⟩].map (Orders.stored, ·)

theorem podIp_own_addresses_apart :
    FindsOwn "shop" "web" "10.0.0.8" (serve addressesApart).podDetails := by
  have hreqs : podSpecs addressesApart = [⟨"web", "10.0.0.5", some "shop", none, 1⟩]
      ++ ⟨"web", "10.0.0.8", some "shop", none, 2⟩
        :: [⟨"db", "10.0.0.9", some "data", none, 3⟩] := rfl
  refine (podIp_own_iff hreqs (by decide) (by decide)).mpr ⟨by decide, ?_⟩
  intro podName' hne hlastIp
  obtain ⟨d, hd, hdname, hdip⟩ := exists_row_of_lastIp hlastIp
  have hrows : ∀ d ∈ upserts PodDetail.podName PodDetail.changeset (podSpecs addressesApart),
      d.podIp = "10.0.0.8" → d.podName = "web" := by decide
  exact hne (hdname.symm.trans (hrows d hd hdip))

/-- The address of `db` passes to `web`, and can find either; and where a pod `web` of another
namespace reports after it, the address of the first finds nothing. -/
theorem podIp_not_own :
    ¬ FindsOwn "shop" "web" "10.0.0.5" (serve ([.podSpec ⟨"db", "10.0.0.5", some "data", none, 1⟩,
        .podSpec ⟨"web", "10.0.0.5", some "shop", none, 2⟩].map (Orders.stored, ·))).podDetails
      ∧ ¬ FindsOwn "shop" "web" "10.0.0.5"
        (serve ([.podSpec ⟨"web", "10.0.0.5", some "shop", none, 1⟩,
          .podSpec ⟨"web", "10.0.0.9", some "data", none, 2⟩].map
            (Orders.stored, ·))).podDetails := by
  constructor
  · intro h
    obtain ⟨row, hrow, hown, -⟩ := h .stored
    obtain rfl : ⟨"db", "10.0.0.5", some "data", none, 1⟩ = row := Option.some.inj hrow
    exact absurd hown (by decide)
  · intro h
    obtain ⟨row, hrow, -⟩ := h .stored
    exact Option.some_ne_none row (hrow.symm.trans (by decide))

end KubeGuardian.Broker
