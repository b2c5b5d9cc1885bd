import KubeGuardian.Advisor.Command
import KubeGuardian.Lib.FilePath
import KubeGuardian.Lib.Files

/-!
# Saving the policies of a batch

`HandlePolicyOutput`, `GenerateAndHandlePolicy` and `BatchGenerateAndHandlePolicies` of
`advisor/pkg/network/generator.go`, and `saveToFileInternal` of `advisor/pkg/common/util.go`. Every
pod has a round of its own, with the answers and the file operations that it happens to meet.

* **`batch_error`** — the batch ends with the error of its first failing round.
* **`batch_files`** — a file holds what the last round to write to it left.
* **`losesNoPolicy_iff`** — when no policy is lost: a file is named after the namespace and the
  pod joined with a hyphen, which does not tell `a`, `b-c` and `a-b`, `c` apart.
-/

namespace KubeGuardian.Advisor

open Lib

/-! ## `advisor/pkg/common/util.go` -/

/-- How `Stat` answers. -/
inductive Stat where
  | found
  | notExist
  | failed (err : String)

/-- The file operations as one save meets them. -/
structure FileIO where
  stat : Stat
  mkdirAll : Except String Unit
  writeFile : WriteOutcome String

/-- `ensureOutputDir`: nothing to do without a directory, and it is made only where `stat` says that
it is not there. -/
def FileIO.ensureOutputDir (io : FileIO) (outputDir : String) : Except String Unit :=
  if outputDir = "" then .ok ()
  else match io.stat with
    | .notExist => io.mkdirAll
    | .failed err => .error err
    | .found => .ok ()

/-- The name of a saved resource: namespace, name and type with hyphens between them. All three may
hold hyphens of their own. -/
def resourceFile (ns name resourceType : String) : String :=
  ns ++ "-" ++ name ++ "-" ++ resourceType ++ ".yaml"

/-- `saveToFile`: the directory first, then the file. A file that is there is written over. -/
def FileIO.saveToFile (io : FileIO) (files : Files String)
    (outputDir resourceType ns name content : String) : Files String × Except String String :=
  match io.ensureOutputDir outputDir with
  | .error err => (files, .error err)
  | .ok () =>
    let filename := FilePath.join outputDir (resourceFile ns name resourceType)
    match files.writeFile filename content io.writeFile with
    | (files, .error err) => (files, .error err)
    | (files, .ok ()) => (files, .ok filename)

/-! ## `advisor/pkg/network/generator.go` -/

structure ConfigProvider where
  isDryRun : Bool
  outputDir : String

/-- What the command leaves behind: files, and lines on standard output. -/
structure Outputs where
  files : Files String
  stdout : List String

def policyResource (policyType : PolicyType) : String := policyType ++ "-networkpolicy"

/-- `PrintDryRunMessage`; only without an output directory is it more than a log line. -/
def printDryRunMessage (out : Outputs) (content outputDir : String) : Outputs :=
  if outputDir ≠ "" then out else { out with stdout := out.stdout ++ [content] }

/-- `HandlePolicyOutput`; no error is `none`. Applying a policy to the cluster is not implemented
in the source either. -/
def handlePolicyOutput (config : ConfigProvider) (io : FileIO) (out : Outputs)
    (output : PolicyOutput) : Outputs × Option String :=
  if config.outputDir ≠ "" then
    match io.saveToFile out.files config.outputDir (policyResource output.policyType) output.ns
        output.podName output.yaml with
    | (files, .error err) => ({ out with files }, some err)
    | (files, .ok _) =>
      if config.isDryRun then
        (printDryRunMessage { out with files } output.yaml config.outputDir, none)
      else ({ out with files }, none)
  else if config.isDryRun then (printDryRunMessage out output.yaml config.outputDir, none)
  else (out, none)

/-- A pod's turn: the answers of the broker and the file operations that it meets. -/
structure Round where
  pod : KubePod
  world : World
  io : FileIO

namespace PolicyService

variable (s : PolicyService) (config : ConfigProvider) (policyType : PolicyType)

/-- A generation for the pod's name, which is all that is passed on of the pod. -/
def generateFor (round : Round) : Except String PolicyOutput :=
  s.generatePolicy round.world round.pod.name policyType

/-- `GenerateAndHandlePolicy`; a generation without an error never returns a nil output. -/
def generateAndHandlePolicy (out : Outputs) (round : Round) : Outputs × Option String :=
  match s.generateFor policyType round with
  | .error err => (out, some err)
  | .ok output => handlePolicyOutput config round.io out output

/-- The loop body: the first error is stored, and the loop goes on. -/
def batchRound (state : Outputs × Option String) (round : Round) : Outputs × Option String :=
  match s.generateAndHandlePolicy config policyType state.1 round with
  | (out, some err) => (out, if state.2 = none then some err else state.2)
  | (out, none) => (out, state.2)

/-- `BatchGenerateAndHandlePolicies`: one round for each pod, whatever came of the rounds before.
The first error is what it returns. -/
def batchGenerateAndHandlePolicies (rounds : List Round) (out : Outputs) :
    Outputs × Option String :=
  run (s.batchRound config policyType) (out, none) rounds

end PolicyService

/-! ## What one round does

Each round may write one file or fail. Neither stops the rounds that come after it, and the first
error is what the batch returns.
-/

def policyFile (config : ConfigProvider) (policyType : PolicyType) (ns name : String) : String :=
  FilePath.join config.outputDir (resourceFile ns name (policyResource policyType))

/-- What the file operations leave at a file of this content: nothing is left by those that do not
get as far as the write. -/
def FileIO.leaves (io : FileIO) (outputDir content : String) : Option (Option String) :=
  match io.ensureOutputDir outputDir with
  | .error _ => none
  | .ok () => match io.writeFile with
    | .written => some (some content)
    | .failed _ left => some left

/-- Saving writes one file at most, the one that is named after the resource. -/
theorem FileIO.files_saveToFile (io : FileIO) (files : Files String)
    (outputDir resourceType ns name content : String) :
    (io.saveToFile files outputDir resourceType ns name content).1
      = match io.leaves outputDir content with
        | none => files
        | some left =>
          Function.update files
            (FilePath.join outputDir (resourceFile ns name resourceType)) left := by
  unfold FileIO.saveToFile FileIO.leaves
  cases io.ensureOutputDir outputDir with
  | error err => rfl
  | ok _ => cases io.writeFile <;> rfl

/-- How the file operations fail, whatever is saved with them. -/
def FileIO.error (io : FileIO) (outputDir : String) : Option String :=
  match io.ensureOutputDir outputDir with
  | .error err => some err
  | .ok () => match io.writeFile with
    | .written => none
    | .failed err _ => some err

/-- It returns the file's path, or the first error of the directory or of the file. -/
theorem FileIO.result_saveToFile (io : FileIO) (files : Files String)
    (outputDir resourceType ns name content : String) :
    (io.saveToFile files outputDir resourceType ns name content).2
      = match io.error outputDir with
        | none => .ok (FilePath.join outputDir (resourceFile ns name resourceType))
        | some err => .error err := by
  unfold FileIO.saveToFile FileIO.error
  cases io.ensureOutputDir outputDir with
  | error err => rfl
  | ok _ => cases io.writeFile <;> rfl

/-- Without an error the file has the content. -/
theorem FileIO.leaves_of_error_eq_none {io : FileIO} {outputDir : String}
    (h : io.error outputDir = none) (content : String) :
    io.leaves outputDir content = some (some content) := by
  unfold FileIO.error at h
  unfold FileIO.leaves
  cases hdir : io.ensureOutputDir outputDir with
  | error err => simp [hdir] at h
  | ok _ =>
    cases hwrite : io.writeFile with
    | written => rfl
    | failed err left => simp [hdir, hwrite] at h

/-- With a directory to write to, a policy is saved there under its namespace and its pod's name. -/
theorem files_handlePolicyOutput {config : ConfigProvider} (hdir : config.outputDir ≠ "")
    (io : FileIO) (out : Outputs) (output : PolicyOutput) :
    (handlePolicyOutput config io out output).1.files
      = (io.saveToFile out.files config.outputDir (policyResource output.policyType) output.ns
          output.podName output.yaml).1 := by
  unfold handlePolicyOutput printDryRunMessage
  rw [if_pos hdir]
  split
  · next heq => rw [heq]
  · next heq =>
    rw [heq]
    cases config.isDryRun <;> simp [hdir]

/-- It fails as saving does. -/
theorem error_handlePolicyOutput {config : ConfigProvider} (hdir : config.outputDir ≠ "")
    (io : FileIO) (out : Outputs) (output : PolicyOutput) :
    (handlePolicyOutput config io out output).2 = io.error config.outputDir := by
  have hresult := io.result_saveToFile out.files config.outputDir
    (policyResource output.policyType) output.ns output.podName output.yaml
  unfold handlePolicyOutput
  rw [if_pos hdir]
  cases herr : io.error config.outputDir with
  | none =>
    rw [herr] at hresult
    split
    · next heq => simp [heq] at hresult
    · cases config.isDryRun <;> rfl
  | some err =>
    rw [herr] at hresult
    split
    · next heq => simpa [heq] using hresult
    · next heq => simp [heq] at hresult

namespace PolicyService

section Round

variable {s : PolicyService} {config : ConfigProvider} {policyType : PolicyType}

/-- A generated policy is of the type of the generator that was selected. -/
theorem policyType_of_generateFor {round : Round} {output : PolicyOutput}
    (h : s.generateFor policyType round = .ok output) :
    ∃ generator, s.selectGenerator policyType = some generator
      ∧ output.policyType = generator.getType := by
  obtain ⟨_, _, _, generator, _, _, _, _, _, hgen, _, _, rfl⟩ := generatePolicy_eq_ok_iff.mp h
  exact ⟨generator, hgen, rfl⟩

/-- The generation for the pod, where it succeeds, is the pod's own. -/
def GeneratesOwn (s : PolicyService) (policyType : PolicyType) (round : Round) : Prop :=
  ∀ output, s.generateFor policyType round = .ok output →
    output.podName = round.pod.name ∧ output.ns = round.pod.ns

/-- What a round leaves at its pod's file. -/
def leaves (s : PolicyService) (config : ConfigProvider) (policyType : PolicyType)
    (round : Round) : Option (Option String) :=
  match s.generateFor policyType round with
  | .error _ => none
  | .ok output => round.io.leaves config.outputDir output.yaml

/-- **A round touches no file but its own.** -/
theorem files_generateAndHandlePolicy (hdir : config.outputDir ≠ "")
    {generator : PolicyGenerator} (hgen : s.selectGenerator policyType = some generator)
    {round : Round} (hown : s.GeneratesOwn policyType round) (out : Outputs) :
    (s.generateAndHandlePolicy config policyType out round).1.files
      = Files.leave (fun r => policyFile config generator.getType r.pod.ns r.pod.name)
          (s.leaves config policyType) out.files round := by
  unfold generateAndHandlePolicy Files.leave leaves
  cases hout : s.generateFor policyType round with
  | error err => rfl
  | ok output =>
    obtain ⟨hname, hns⟩ := hown output hout
    obtain ⟨generator', hgen', htype⟩ := policyType_of_generateFor hout
    obtain rfl : generator' = generator := Option.some.inj (hgen'.symm.trans hgen)
    show (handlePolicyOutput config round.io out output).1.files = _
    rw [files_handlePolicyOutput hdir, FileIO.files_saveToFile, hname, hns, htype]
    cases hleaves : round.io.leaves config.outputDir output.yaml <;> simp [hleaves, policyFile]

/-- Whether a round fails does not depend on the files that are there. -/
theorem error_generateAndHandlePolicy (hdir : config.outputDir ≠ "") (round : Round)
    (out out' : Outputs) :
    (s.generateAndHandlePolicy config policyType out round).2
      = (s.generateAndHandlePolicy config policyType out' round).2 := by
  unfold generateAndHandlePolicy
  cases s.generateFor policyType round with
  | error err => rfl
  | ok output =>
    show (handlePolicyOutput config round.io out output).2
      = (handlePolicyOutput config round.io out' output).2
    rw [error_handlePolicyOutput hdir, error_handlePolicyOutput hdir]

end Round

/-! ## A batch

The files after a batch, round by round, and its error.
-/

section Batch

variable {s : PolicyService} {config : ConfigProvider} {policyType : PolicyType}

/-- A round adds its file to what is there. -/
theorem batchRound_fst (state : Outputs × Option String) (round : Round) :
    (s.batchRound config policyType state round).1
      = (s.generateAndHandlePolicy config policyType state.1 round).1 := by
  unfold batchRound
  rcases s.generateAndHandlePolicy config policyType state.1 round with ⟨out, err | _⟩ <;> rfl

/-- It adds its error if there was none. -/
theorem batchRound_snd (state : Outputs × Option String) (round : Round) :
    (s.batchRound config policyType state round).2
      = state.2.or (s.generateAndHandlePolicy config policyType state.1 round).2 := by
  unfold batchRound
  rcases s.generateAndHandlePolicy config policyType state.1 round with ⟨out, _ | err⟩ <;>
    cases state.2 <;> rfl

/-- **The batch returns the error of its first failing pod**, and none where none fails. -/
theorem batch_error (hdir : config.outputDir ≠ "") (rounds : List Round) (out : Outputs) :
    (s.batchGenerateAndHandlePolicies config policyType rounds out).2
      = rounds.findSome? fun round =>
        (s.generateAndHandlePolicy config policyType out round).2 := by
  unfold batchGenerateAndHandlePolicies
  induction rounds using List.reverseRecOn with
  | nil => rfl
  | append_singleton rounds round ih =>
    rw [run_snoc, batchRound_snd, ih, List.findSome?_append, List.findSome?_singleton,
      error_generateAndHandlePolicy hdir round _ out]

/-- **The files of a batch are those of its rounds**, one left on top of the other. -/
theorem batch_files (hdir : config.outputDir ≠ "") {generator : PolicyGenerator}
    (hgen : s.selectGenerator policyType = some generator) {rounds : List Round}
    (hown : ∀ round ∈ rounds, s.GeneratesOwn policyType round) (out : Outputs) :
    (s.batchGenerateAndHandlePolicies config policyType rounds out).1.files
      = run (Files.leave (fun r => policyFile config generator.getType r.pod.ns r.pod.name)
          (s.leaves config policyType)) out.files rounds := by
  unfold batchGenerateAndHandlePolicies
  induction rounds using List.reverseRecOn with
  | nil => rfl
  | append_singleton rounds round ih =>
    have hbefore := ih fun r hr => hown r (List.mem_append_left _ hr)
    rw [run_snoc, run_snoc, batchRound_fst, ← hbefore]
    exact files_generateAndHandlePolicy hdir hgen (hown round (by simp)) _

end Batch

/-! ## When no policy is lost -/

/-- What a batch is for: each pod that was saved has its file, and the first failure is reported. -/
structure LosesNoPolicy (s : PolicyService) (config : ConfigProvider) (policyType : PolicyType)
    (rounds : List Round) (out : Outputs) : Prop where
  kept : ∀ round ∈ rounds, ∀ output, s.generateFor policyType round = .ok output →
    (handlePolicyOutput config round.io out output).2 = none →
    (s.batchGenerateAndHandlePolicies config policyType rounds out).1.files
      (policyFile config output.policyType round.pod.ns round.pod.name) = some output.yaml
  firstError : (s.batchGenerateAndHandlePolicies config policyType rounds out).2
    = rounds.findSome? fun round => (s.generateAndHandlePolicy config policyType out round).2

/-- All that a file's name has of its pod. -/
def joinedName (pod : KubePod) : String := pod.ns ++ "-" ++ pod.name

/-- No later round replaces what was saved: the last of those to leave something under the same
joined name leaves the same text. -/
def NotReplaced (s : PolicyService) (config : ConfigProvider) (policyType : PolicyType)
    (rounds : List Round) : Prop :=
  ∀ before round after output left, rounds = before ++ round :: after →
    s.generateFor policyType round = .ok output → round.io.error config.outputDir = none →
    Files.lastLeft (fun r => joinedName r.pod) (s.leaves config policyType)
      (joinedName round.pod) after = some left →
    left = some output.yaml

/-- The names of a pod and its namespace are single path elements, as Kubernetes has them. -/
structure PlainNames (pod : KubePod) : Prop where
  ns : '/' ∉ pod.ns.toList
  name : '/' ∉ pod.name.toList

theorem isElement_resourceFile {pod : KubePod} (hpod : PlainNames pod) {policyType : PolicyType}
    (htype : '/' ∉ policyType.toList) :
    FilePath.IsElement (resourceFile pod.ns pod.name (policyResource policyType)) := by
  -- the ending alone is longer than `.` and `..`
  have hlong : 5 ≤ (resourceFile pod.ns pod.name (policyResource policyType)).length := by
    have hending : ".yaml".length = 5 := rfl
    unfold resourceFile
    rw [String.length_append, hending]
    omega
  have hne : ∀ text : String, text.length < 5 →
      resourceFile pod.ns pod.name (policyResource policyType) ≠ text := by
    rintro text hshort rfl
    omega
  refine ⟨hne _ (by decide), hne _ (by decide), hne _ (by decide), ?_⟩
  simp [resourceFile, policyResource, hpod.ns, hpod.name, htype]

theorem policyFile_eq_iff (config : ConfigProvider) {a b : KubePod} (ha : PlainNames a)
    (hb : PlainNames b) {policyType : PolicyType} (htype : '/' ∉ policyType.toList) :
    policyFile config policyType a.ns a.name = policyFile config policyType b.ns b.name
      ↔ joinedName a = joinedName b := by
  constructor
  · intro h
    have hfile := FilePath.join_inj (isElement_resourceFile ha htype)
      (isElement_resourceFile hb htype) h
    unfold resourceFile at hfile
    rw [String.append_left_inj, String.append_left_inj, String.append_left_inj] at hfile
    exact hfile
  · intro h
    unfold joinedName at h
    rw [policyFile, policyFile, resourceFile, resourceFile, h]

/-- Nothing is replaced where the joined names are pairwise different. -/
theorem notReplaced_of_nodup {s : PolicyService} {config : ConfigProvider}
    {policyType : PolicyType} {rounds : List Round}
    (h : (rounds.map fun r => joinedName r.pod).Nodup) :
    s.NotReplaced config policyType rounds := by
  intro before round after output left hsplit _ _ hlast
  have hnone : Files.lastLeft (fun r => joinedName r.pod) (s.leaves config policyType)
      (joinedName round.pod) after = none := by
    refine Files.lastLeft_eq_none _ _ fun r hr heq => ?_
    rw [hsplit, List.map_append, List.map_cons, List.nodup_append, List.nodup_cons] at h
    exact h.2.1.1 (heq ▸ List.mem_map_of_mem hr)
  rw [hnone] at hlast
  cases hlast

/-- The file of a saved pod after the batch, by what the later rounds leave. -/
theorem file_of_saved {s : PolicyService} {config : ConfigProvider} {policyType : PolicyType}
    (hdir : config.outputDir ≠ "")
    (htype : ∀ generator, s.selectGenerator policyType = some generator →
      '/' ∉ generator.getType.toList)
    {before after : List Round} {round : Round}
    (hnames : ∀ r ∈ before ++ round :: after, PlainNames r.pod)
    (hown : ∀ r ∈ before ++ round :: after, s.GeneratesOwn policyType r)
    {output : PolicyOutput} (hout : s.generateFor policyType round = .ok output)
    (hsaved : round.io.error config.outputDir = none) (out : Outputs) :
    (s.batchGenerateAndHandlePolicies config policyType (before ++ round :: after) out).1.files
        (policyFile config output.policyType round.pod.ns round.pod.name)
      = (Files.lastLeft (fun r => joinedName r.pod) (s.leaves config policyType)
          (joinedName round.pod) after).getD (some output.yaml) := by
  obtain ⟨generator, hgen, hpolicyType⟩ := policyType_of_generateFor hout
  have hleaves : s.leaves config policyType round = some (some output.yaml) := by
    simp [leaves, hout, FileIO.leaves_of_error_eq_none hsaved]
  have hround := hnames round (by simp)
  -- two rounds leave the same file when the joined names are the same
  have hlast : Files.lastLeft (fun r => policyFile config generator.getType r.pod.ns r.pod.name)
        (s.leaves config policyType)
        (policyFile config generator.getType round.pod.ns round.pod.name) after
      = Files.lastLeft (fun r => joinedName r.pod) (s.leaves config policyType)
        (joinedName round.pod) after := by
    refine Files.lastLeft_congr _ _ fun r hr => ?_
    exact policyFile_eq_iff config (hnames r (by simp [hr])) hround (htype generator hgen)
  rw [batch_files hdir hgen hown, run_append, run_cons, Files.run_leave, hpolicyType, hlast]
  congr 1
  simp [Files.leave, hleaves]

/-- **A batch loses no policy exactly when no later save replaces one**, for every list of pods and
whichever of their generations and file operations fail. -/
theorem losesNoPolicy_iff {config : ConfigProvider} (hdir : config.outputDir ≠ "")
    (defaultType policyType : PolicyType) {rounds : List Round}
    (hnames : ∀ round ∈ rounds, PlainNames round.pod)
    (hown : ∀ round ∈ rounds, (createPolicyService defaultType).GeneratesOwn policyType round)
    (out : Outputs) :
    (createPolicyService defaultType).LosesNoPolicy config policyType rounds out
      ↔ (createPolicyService defaultType).NotReplaced config policyType rounds := by
  have htype : ∀ generator, (createPolicyService defaultType).selectGenerator policyType
      = some generator → '/' ∉ generator.getType.toList := by
    intro generator hgen
    rcases selectGenerator_createPolicyService hgen with rfl | rfl
    · decide
    · decide
  constructor
  · rintro ⟨hkept, -⟩ before round after output left rfl hout hsaved hlast
    have hfile := file_of_saved hdir htype hnames hown hout hsaved out
    have hself := hkept round (by simp) output hout
      ((error_handlePolicyOutput hdir round.io out output).trans hsaved)
    rw [hself, hlast] at hfile
    exact hfile.symm
  · intro hnot
    refine ⟨fun round hround output hout hsaved => ?_, batch_error hdir rounds out⟩
    -- what the file holds at the end is decided by the rounds after this one
    obtain ⟨before, after, rfl⟩ := List.append_of_mem hround
    rw [error_handlePolicyOutput hdir] at hsaved
    rw [file_of_saved hdir htype hnames hown hout hsaved]
    cases hlast : Files.lastLeft (fun r => joinedName r.pod)
        ((createPolicyService defaultType).leaves config policyType)
        (joinedName round.pod) after with
    | none => rfl
    | some left => exact hnot before round after output left rfl hout hsaved hlast

/-! ## Two pods -/

end PolicyService

open Broker

/-- A broker that has seen one connection of the pod; policies are written as their names. -/
def seenOnce (pod : KubePod) : World where
  db := serve ([.podSpec ⟨pod.name, "10.0.0.5", some pod.ns, none, 1⟩,
    .podTraffic ⟨"u1", some pod.name, some pod.ns, some "10.0.0.5", some "0", some "TCP",
      some "EGRESS", some "10.96.0.10", some "443", 2⟩].map (Orders.stored, ·))
  orders := .stored
  fault _ := none
  decodePod _ := .error ""
  decodeService _ := .error ""
  order _ := .stored
  marshal
    | .standard policy => .ok (policy.objectMeta.ns ++ "/" ++ policy.objectMeta.name)
    | .cilium policy => .ok (policy.objectMeta.ns ++ "/" ++ policy.objectMeta.name)

/-- A round of the pod in which nothing fails. -/
def undisturbedRound (pod : KubePod) : Round := ⟨pod, seenOnce pod, ⟨.found, .ok (), .written⟩⟩

def toDirectory : ConfigProvider := ⟨true, "network-policies"⟩

def noOutputs : Outputs := ⟨fun _ => none, []⟩

namespace PolicyService

theorem generatesOwn_of_names {s : PolicyService} {policyType : PolicyType} {round : Round}
    (h : (s.generateFor policyType round).map (fun output => (output.podName, output.ns))
      = .ok (round.pod.name, round.pod.ns)) : s.GeneratesOwn policyType round := by
  intro output hout
  rw [hout] at h
  obtain ⟨hname, hns⟩ := Prod.mk.inj (Except.ok.inj h)
  exact ⟨hname, hns⟩

/-- `web` and `db` of one namespace. -/
theorem losesNoPolicy_web_db :
    (createPolicyService standardPolicy).LosesNoPolicy toDirectory standardPolicy
      [undisturbedRound ⟨"web", "shop"⟩, undisturbedRound ⟨"db", "shop"⟩] noOutputs := by
  refine (losesNoPolicy_iff (by decide) _ _ ?_ ?_ _).mpr (notReplaced_of_nodup (by decide))
  · intro round hround
    rcases List.mem_pair.mp hround with rfl | rfl
    · exact ⟨by decide, by decide⟩
    · exact ⟨by decide, by decide⟩
  · intro round hround
    rcases List.mem_pair.mp hround with rfl | rfl
    · exact generatesOwn_of_names rfl
    · exact generatesOwn_of_names rfl

/-- `b-c` of `a` and `c` of `a-b`: the batch reports no error, and no file is left that holds the
first pod's policy. -/
theorem not_losesNoPolicy_hyphens :
    let s := createPolicyService standardPolicy
    let rounds := [undisturbedRound ⟨"b-c", "a"⟩, undisturbedRound ⟨"c", "a-b"⟩]
    let (outputs, error) := s.batchGenerateAndHandlePolicies toDirectory standardPolicy rounds
      noOutputs
    (rounds.map (·.pod.name)).Nodup
      ∧ (∀ round ∈ rounds, s.GeneratesOwn standardPolicy round)
      ∧ (s.generateFor standardPolicy (undisturbedRound ⟨"b-c", "a"⟩)).map (·.yaml)
        = .ok "a/b-c-standard-policy"
      ∧ error = none ∧ (∀ path, outputs.files path ≠ some "a/b-c-standard-policy")
      ∧ ¬ s.LosesNoPolicy toDirectory standardPolicy rounds noOutputs := by
  have hfirst : ((createPolicyService standardPolicy).generateFor standardPolicy
      (undisturbedRound ⟨"b-c", "a"⟩)).map (·.yaml) = .ok "a/b-c-standard-policy" := rfl
  -- both rounds write the one file, the second over the first
  have hgone : ∀ path, ((createPolicyService standardPolicy).batchGenerateAndHandlePolicies
      toDirectory standardPolicy [undisturbedRound ⟨"b-c", "a"⟩, undisturbedRound ⟨"c", "a-b"⟩]
      noOutputs).1.files path ≠ some "a/b-c-standard-policy" := by
    intro path
    let file := "network-policies/a-b-c-standard-networkpolicy.yaml"
    show Function.update (Function.update (fun _ => none) file (some "a/b-c-standard-policy")) file
      (some "a-b/c-standard-policy") path ≠ _
    by_cases hpath : path = file
    · simp [hpath]
    · simp [hpath]
  refine ⟨by decide, ?_, hfirst, rfl, hgone, fun h => ?_⟩
  · intro round hround
    rcases List.mem_pair.mp hround with rfl | rfl
    · exact generatesOwn_of_names rfl
    · exact generatesOwn_of_names rfl
  · obtain ⟨output, hout, hyaml⟩ := Except.map_eq_ok hfirst
    have hkept := h.kept _ (List.mem_cons_self ..) output hout rfl
    exact hgone _ (hyaml ▸ hkept)

end PolicyService

end KubeGuardian.Advisor
