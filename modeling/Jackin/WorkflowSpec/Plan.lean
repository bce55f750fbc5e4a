import Jackin.Foundation.Directory
import Jackin.WorkflowSpec.Rules

/-!
# Compiled plans

A checked definition is compiled, with the inputs that were resolved for it
and the grant of the host, into an execution plan.  The compiler refuses what
the release cannot enforce, requests beyond the grant, a repository or a
backup remote that the grant does not name, and backup modes that do not fit
to the remote.
-/

namespace Jackin.WorkflowSpec

open Foundation Result

/-! ## Inputs and plans -/

/-- What the host allows a workflow. -/
structure HostGrant where
  profile : String
  backend : String
  /-- The maxima of the resources. -/
  most : ResourceLimits
  authorizedRepositoryIds : List String
  authorizedRemoteIds : List String

/-- The agent and account of a stage. -/
structure AgentSelection where
  runtime : String
  agentSlug : String
  roleId : String
  roleRevision : String
  accountId : String
  authMode : String
  requestedModel : String
  actualModel : Option String
  binaryDigest : String
  imageDigest : String

structure Selections where
  implementer : AgentSelection
  reviewer : AgentSelection

structure RepositoryInput where
  repositoryId : String
  baseCommit : String
  manifestDigest : String

/-- An input with its bytes. -/
structure FrozenInput where
  logicalPath : String
  bytes : List UInt8
  digest : String

/-- All that a plan is made from. -/
structure ResolvedInputs where
  task : FrozenInput
  references : List FrozenInput
  testBundleName : String
  testBundle : List FrozenInput
  testBundleDigest : String
  checkImageDigest : String
  repository : RepositoryInput
  moduleDigests : List (String × String)
  selections : Selections

/-- An input, as the plan names it. -/
structure InputFile where
  logicalPath : String
  contentDigest : String
  byteLength : Nat
  mountPath : String

/-- How candidates are tested and reviewed. -/
structure VerificationPolicy where
  testBundle : String
  testBundleDigest : String
  testBundleFiles : List (String × String)
  checkArgv : List String
  checkImageDigest : String
  timeoutSeconds : Nat
  reviewSchemaVersion : Nat

structure BackupPolicy where
  mode : String
  remoteId : Option String
  credentialRef : Option String
  refPrefix : Option String

structure PlanNode where
  id : String
  stage : String
  round : Nat

structure CapabilityFacts where
  sandboxBackend : String
  sandboxProfile : String
  authorizedRemoteIds : List String
  evaluator : String
  schemaVersion : Nat

/-- The plan that a run follows. -/
structure ExecutionPlan where
  schemaVersion : Nat
  template : String
  nodes : List PlanNode
  implementer : AgentSelection
  reviewer : AgentSelection
  task : InputFile
  references : List InputFile
  repository : RepositoryInput
  resources : ResourceLimits
  verification : VerificationPolicy
  backup : BackupPolicy
  maxRepairTurns : Nat
  inputDigests : Directory String String
  capabilityFacts : CapabilityFacts
  planHash : String

def planInputDigests (inputs : ResolvedInputs) : Directory String String :=
  let task := Directory.store Table.empty ("task/" ++ inputs.task.logicalPath) inputs.task.digest
  let references := inputs.references.foldl (fun digests reference =>
    digests.store ("references/" ++ reference.logicalPath) reference.digest)
    task
  let checks := references.store ("checks/" ++ inputs.testBundleName) inputs.testBundleDigest
  let repository := checks.store "repository/manifest" inputs.repository.manifestDigest
  inputs.moduleDigests.foldl (fun digests (name, digest) =>
    digests.store ("pkl/" ++ name) digest) repository

def repairStages : List String := ["prepare", "implement", "capture", "test", "review", "decide"]

def repairNodes (maxRepairTurns : Nat) : List PlanNode :=
  ⟨"prepare@r0", "prepare", 0⟩ :: (List.range (maxRepairTurns + 1)).flatMap fun round =>
      (repairStages.drop 1).map fun stage => ⟨s!"{stage}@r{round}", stage, round⟩

def inputFile (mount : String) (input : FrozenInput) : InputFile where
  logicalPath := input.logicalPath
  contentDigest := input.digest
  byteLength := input.bytes.length
  mountPath := mount ++ input.logicalPath

section

variable (file : String) (checked : CheckedDefinition) (grant : HostGrant)

def checkGrantMaxima : WorkflowResult Unit :=
  let requested := checked.sandbox.resources
  let exceeded := [("sandbox.cpuMillicores", requested.cpuMillicores, grant.most.cpuMillicores),
    ("sandbox.memoryBytes", requested.memoryBytes, grant.most.memoryBytes),
    ("sandbox.maxPids", requested.maxPids, grant.most.maxPids),
    ("sandbox.maxRunSeconds", requested.maxRunSeconds, grant.most.maxRunSeconds),
    ("sandbox.diskMonitorBytes", requested.diskMonitorBytes,
      grant.most.diskMonitorBytes)].find? fun (_, want, most) => want > most
  match exceeded with
  | none => .ok ()
  | some (field, want, most) => .error (invalid file field
      s!"requested {want} exceeds the host grant maximum {most}"
      "lower the request or broaden the host grant and recompile")

def backupPolicy : WorkflowResult BackupPolicy :=
  match checked.backup.mode, checked.backup.remote with
  | "off", none => .ok ⟨"off", none, none, none⟩
  | "off", some _ => .error (invalid file "backup.remote" "backup is off but a remote is set"
      "remove the remote or set a non-off backup mode")
  | mode, some remote => do
    require (remote ∈ grant.authorizedRemoteIds) (single file "backup.remote" .authorizationDenied
        s!"backup remote `{remote}` is not authorized"
        "authorize the remote or pick an authorized one")
    return ⟨mode, some remote, none, none⟩
  | _, none => .error (invalid file "backup.remote" "non-off backup mode needs a remote"
      "set an authorized backup remote ID")

/-- One of the two agents of `compile_plan`: its runtime is the resolved one. -/
def checkRuntime (agent : AgentParts) (selection : AgentSelection)
    (field : String) : WorkflowResult Unit :=
  require (selection.runtime = agent.runtime) (invalid file field
    s!"{field} selection does not match the definition runtime"
    s!"resolve the {field} selection for the definition runtime")

/-- One of the two agents of `compile_plan`: it may delegate. -/
def checkDelegation (agent : AgentParts)
    (field : String) : WorkflowResult Unit :=
  require (agent.vendorSubagents ≠ "forbid")
    (single file (field ++ ".vendorSubagents") .unsupportedCapability
      "forbidding delegation has no adapter enforcement in this release"
      "use within_worker delegation")

/-- `compile_plan`; the digest of a plan is of its canonical bytes. -/
def compilePlan (planHash : ExecutionPlan → WorkflowResult String)
    (inputs : ResolvedInputs) : WorkflowResult ExecutionPlan := do
  checkRuntime file checked.implementer inputs.selections.implementer "implementer"
  checkRuntime file checked.reviewer inputs.selections.reviewer "reviewer"
  checkDelegation file checked.implementer "implementer"
  checkDelegation file checked.reviewer "reviewer"
  require (checked.sandbox.requireHardDiskLimit = false)
    (single file "sandbox.requireHardDiskLimit" .unsupportedCapability
      "hard disk quotas are not enforced by the selected runtime"
      "leave requireHardDiskLimit false and rely on disk monitoring")
  checkGrantMaxima file checked grant
  let repositoryId := inputs.repository.repositoryId
  require (repositoryId ∈ grant.authorizedRepositoryIds)
    (single file "repository" .authorizationDenied s!"repository `{repositoryId}` is not authorized"
      "authorize the repository or pick an authorized one")
  let backup ← backupPolicy file checked grant
  let plan : ExecutionPlan := {
    schemaVersion := 1
    template := "repair-v1"
    nodes := repairNodes checked.maxRepairTurns
    implementer := inputs.selections.implementer
    reviewer := inputs.selections.reviewer
    task := inputFile "/work/task/" inputs.task
    references := inputs.references.map (inputFile "/work/references/")
    repository := inputs.repository
    resources := checked.sandbox.resources
    verification := {
      testBundle := inputs.testBundleName
      testBundleDigest := inputs.testBundleDigest
      testBundleFiles := inputs.testBundle.map fun bundled => (bundled.logicalPath, bundled.digest)
      checkArgv := checked.checks.argv
      checkImageDigest := inputs.checkImageDigest
      timeoutSeconds := checked.checks.timeout
      reviewSchemaVersion := 1 }
    backup := backup
    maxRepairTurns := checked.maxRepairTurns
    inputDigests := planInputDigests inputs
    capabilityFacts := {
      sandboxBackend := checked.sandbox.backend
      sandboxProfile := checked.sandbox.profile
      authorizedRemoteIds := grant.authorizedRemoteIds.mergeSort
      evaluator := "pklr 5.1.1"
      schemaVersion := 1 }
    planHash := "" }
  return { plan with planHash := ← planHash plan }

end

section

variable {file : String} {json : Json} {checked : CheckedDefinition}
    {grant : HostGrant}
    {planHash : ExecutionPlan → WorkflowResult String} {inputs : ResolvedInputs}
    {plan : ExecutionPlan}

theorem countOf_le {min max found}
    (counted : countOf file json parent key min max action = .ok found) :
    found ≤ max := by
  simp only [countOf, rangedU64, bind_eq_ok, require_eq_ok, pure_eq_ok] at counted
  obtain ⟨_, _, _, _, _, ⟨_, le⟩, rfl⟩ := counted
  exact le

theorem validateResources_atMost
    (valid : validateResources file sandbox = .ok resources) :
    resources.AtMost maxResources := by
  simp only [validateResources, bind_eq_ok, pure_eq_ok] at valid
  obtain ⟨_, cpu, _, memory, _, pids, _, seconds, _, disk, rfl⟩ := valid
  exact ⟨countOf_le cpu, countOf_le memory, countOf_le pids, countOf_le seconds, countOf_le disk⟩

theorem validateDefinition_atMost (valid : validateDefinition file json = .ok checked) :
    checked.sandbox.resources.AtMost maxResources := by
  simp only [validateDefinition, bind_eq_ok, pure_eq_ok] at valid
  obtain ⟨_, _, _, _, _, _, _, _, _, sandbox, _, _, _, _, _, _, rfl⟩ := valid
  simp only [validateSandbox, bind_eq_ok, pure_eq_ok] at sandbox
  obtain ⟨_, _, _, _, _, _, _, _, _, resources, _, _, _, _, rfl⟩ := sandbox
  exact validateResources_atMost resources

theorem checkGrantMaxima_eq_ok (granted : checkGrantMaxima file checked grant = .ok ()) :
    checked.sandbox.resources.AtMost grant.most := by
  simp only [checkGrantMaxima] at granted
  split at granted
  · rename_i within
    simp only [List.find?_eq_none, List.mem_cons, List.not_mem_nil, or_false,
      forall_eq_or_imp, forall_eq, decide_eq_true_eq, Nat.not_lt] at within
    obtain ⟨cpu, memory, pids, seconds, disk⟩ := within
    exact ⟨cpu, memory, pids, seconds, disk⟩
  · cases granted

/-- The remote of a backup, which there is unless backup is off. -/
theorem backupPolicy_eq_ok (decided : backupPolicy file checked grant = .ok backup) :
    backup.mode = checked.backup.mode ∧ (backup.mode = "off" ∧ backup.remoteId = none ∨
        backup.mode ≠ "off" ∧ ∃ remote ∈ grant.authorizedRemoteIds,
          backup.remoteId = some remote) := by
  unfold backupPolicy at decided
  split at decided
  · rename_i off _
    cases decided
    exact ⟨off.symm, .inl ⟨rfl, rfl⟩⟩
  · cases decided
  · rename_i remote _ on
    simp only [bind_eq_ok, require_eq_ok, pure_eq_ok] at decided
    obtain ⟨_, authorized, rfl⟩ := decided
    exact ⟨rfl, .inr ⟨on, remote, authorized, rfl⟩⟩
  · cases decided

/--
The plan compiled from a valid definition keeps its resources within the
grant and within the bounds of the release, uses a repository and a backup
remote that the grant authorises, has a backup remote exactly when backup is
on, and asks for nothing that cannot be enforced.
-/
theorem compiled_plan_within_grant (valid : validateDefinition file json = .ok checked)
    (compiled : compilePlan file checked grant planHash inputs = .ok plan) :
    plan.resources.AtMost grant.most ∧ plan.resources.AtMost maxResources ∧
      plan.repository.repositoryId ∈ grant.authorizedRepositoryIds ∧
      (plan.backup.mode ≠ "off" → ∃ remote ∈ grant.authorizedRemoteIds,
        plan.backup.remoteId = some remote) ∧
      (plan.backup.remoteId.isSome ↔ plan.backup.mode ≠ "off") ∧
      plan.backup.mode = checked.backup.mode ∧
      checked.implementer.vendorSubagents ≠ "forbid" ∧
      checked.reviewer.vendorSubagents ≠ "forbid" ∧
      checked.sandbox.requireHardDiskLimit = false := by
  simp only [compilePlan, checkDelegation, bind_eq_ok, require_eq_ok, pure_eq_ok] at compiled
  obtain ⟨_, _, _, _, _, implementer, _, reviewer, _, noQuota, _, granted, _,
    repository, _, decided, _, _, rfl⟩ := compiled
  obtain ⟨mode, remote⟩ := backupPolicy_eq_ok decided
  refine ⟨checkGrantMaxima_eq_ok granted, validateDefinition_atMost valid,
    repository, ?_, ?_, mode, implementer, reviewer, noQuota⟩
  · intro on
    rcases remote with ⟨off, -⟩ | ⟨-, authorized⟩
    · exact absurd off on
    · exact authorized
  · rcases remote with ⟨off, none⟩ | ⟨on, remote, -, some⟩
    · simp [off, none]
    · simp [on, some]

end

/-- A definition with a given task and no references. -/
def sampleDefinition (task : String) : Json :=
  let agent (runtime : String) : Json := .object
    [("runtime", .string runtime), ("selection", .string "workspace-default"),
      ("vendorSubagents", .string "within_worker")]
  .object [("schemaVersion", .number 1), ("template", .string "repair-v1"),
      ("workspace", .string "current"),
      ("repository", .object [("source", .string "workspace")]),
      ("task", .string task), ("references", .array []),
      ("implementer", agent "claude"), ("reviewer", agent "codex"),
      ("checks", .object [("bundle", .string "unit"),
        ("argv", .array [.string "make"]), ("timeoutSeconds", .number 60)]),
      ("sandbox", .object [("backend", .string "docker"),
        ("profile", .string "default"), ("cpuMillicores", .number 1000),
        ("memoryBytes", .number 268435456), ("maxPids", .number 64),
        ("maxRunSeconds", .number 600), ("diskMonitorBytes", .number 1024),
        ("requireHardDiskLimit", .bool false)]),
      ("backup", .object [("mode", .string "required"), ("remote", .string "origin")]),
      ("maxRepairTurns", .number 2)]

def sampleGrant : HostGrant where
  profile := "default"
  backend := "docker"
  most := maxResources
  authorizedRepositoryIds := ["repo"]
  authorizedRemoteIds := ["origin"]

def sampleSelection (runtime : String) : AgentSelection where
  runtime := runtime
  agentSlug := ""
  roleId := ""
  roleRevision := ""
  accountId := ""
  authMode := ""
  requestedModel := ""
  actualModel := none
  binaryDigest := ""
  imageDigest := ""

def sampleInputs : ResolvedInputs where
  task := ⟨"task.md", [], ""⟩
  references := []
  testBundleName := "unit"
  testBundle := []
  testBundleDigest := ""
  checkImageDigest := ""
  repository := ⟨"repo", "", ""⟩
  moduleDigests := []
  selections := ⟨sampleSelection "claude", sampleSelection "codex"⟩

/-- A plan with a backup, compiled under a grant that authorises it. -/
theorem sample_plan_within_grant :
    ∃ checked plan, (validateDefinition "repair.pkl" (sampleDefinition "task.md") = .ok checked ∧
        compilePlan "repair.pkl" checked sampleGrant (fun _ => .ok "hash")
          sampleInputs = .ok plan ∧ plan.backup.mode = "required") ∧
      plan.resources.AtMost sampleGrant.most := by
  have compiles : ∃ checked plan, validateDefinition "repair.pkl" (sampleDefinition "task.md") =
          .ok checked ∧
        compilePlan "repair.pkl" checked sampleGrant (fun _ => .ok "hash")
          sampleInputs = .ok plan ∧ plan.backup.mode = "required" :=
    ⟨_, _, rfl, rfl, rfl⟩
  obtain ⟨checked, plan, valid, compiled, mode⟩ := compiles
  exact ⟨checked, plan, ⟨valid, compiled, mode⟩, (compiled_plan_within_grant valid compiled).1⟩

end Jackin.WorkflowSpec
