import Jackin.Foundation.Json
import Jackin.Foundation.Machine
import Jackin.Foundation.Result

/-!
# The rules of workflow definitions

A workflow definition is a JSON object.  Validation reads its fields one after
the other and refuses the first one that is missing, of the wrong shape or out
of its range, with a diagnostic that names the field.

A JSON number here is a natural number; one that does not fit into 64 bits
stands for all numbers that are not unsigned 64-bit integers.
-/

namespace Jackin.WorkflowSpec

open Foundation Result

/-! ## Diagnostics -/

inductive ErrorCode where
  | invalidDefinition
  | missingInput
  | unsupportedCapability
  | authorizationDenied
  | planDigestMismatch

/-- What is wrong with one field. -/
structure Diagnostic where
  file : String
  field : String
  code : ErrorCode
  message : String
  action : String

structure WorkflowError where
  diagnostics : List Diagnostic

abbrev WorkflowResult := Except WorkflowError

def single (file field : String) (code : ErrorCode)
    (message action : String) : WorkflowError :=
  ⟨[⟨file, field, code, message, action⟩]⟩

section

variable (file : String)

section

variable (value : Json) (field : String)

def invalid (message action : String) : WorkflowError :=
  single file field .invalidDefinition message action

def get (parent key : String) : WorkflowResult Json :=
  let field := if parent = "" then key else parent ++ "." ++ key
  let found := match value with
    | .object fields => (fields.find? (·.1 == key)).map Prod.snd
    | _ => none
  present found (invalid file field s!"missing required field `{field}`"
    s!"add `{field}` to the workflow definition")

def asString : WorkflowResult String :=
  match value with
  | .string text => .ok text
  | _ => .error (invalid file field s!"field `{field}` must be a string" "fix the field shape")

def asBool : WorkflowResult Bool :=
  match value with
  | .bool flag => .ok flag
  | _ => .error (invalid file field s!"field `{field}` must be a boolean" "fix the field shape")

def asU64 : WorkflowResult Nat :=
  let refused := invalid file field
    s!"field `{field}` must be a non-negative integer" "fix the field shape"
  match value with
  | .number count => if count ≤ Machine.u64Max then .ok count else .error refused
  | _ => .error refused

def rangedU64 (min max : Nat) (action : String) : WorkflowResult Nat := do
  let found ← asU64 file value field
  require (min ≤ found ∧ found ≤ max) (invalid file field
    s!"field `{field}` value {found} is outside {min}..={max}" action)
  return found

def asStringList : WorkflowResult (List String) :=
  match value with
  | .array items => items.mapM fun item => asString file item field
  | _ => .error (invalid file field
      s!"field `{field}` must be a list of strings" "fix the field shape")

/-- A text field of an object inside the definition. -/
def textOf (parent key : String) : WorkflowResult String := do
  asString file (← get file value parent key) (parent ++ "." ++ key)

/-- A number field of an object inside the definition. -/
def countOf (parent key : String) (min max : Nat)
    (action : String) : WorkflowResult Nat := do
  rangedU64 file (← get file value parent key) (parent ++ "." ++ key) min max action

end

def agentRuntime (agent : Json)
    (field want : String) : WorkflowResult String := do
  let runtime ← textOf file agent field "runtime"
  require (runtime = want) (invalid file (field ++ ".runtime")
    s!"{field} runtime must be {want} in this release"
    s!"set {field} runtime to {want}")
  return runtime

def agentSelectionName (agent : Json)
    (field : String) : WorkflowResult String := do
  let selection ← textOf file agent field "selection"
  require (selection = "workspace-default") (invalid file (field ++ ".selection")
      s!"{field} selection must be workspace-default in this release"
      "resolve the selection from the existing workspace configuration")
  return selection

def agentVendorMode (agent : Json)
    (field : String) : WorkflowResult String := do
  let mode ← textOf file agent field "vendorSubagents"
  require (mode ∈ ["within_worker", "forbid"]) (invalid file (field ++ ".vendorSubagents")
      s!"unknown delegation mode `{mode}`" "use within_worker or forbid")
  return mode

end

/-! ## Definitions -/

structure ResourceLimits where
  cpuMillicores : Nat
  memoryBytes : Nat
  maxPids : Nat
  maxRunSeconds : Nat
  diskMonitorBytes : Nat

/-- The bounds of the release. -/
def maxResources : ResourceLimits where
  cpuMillicores := 16000
  memoryBytes := 68719476736
  maxPids := 4096
  maxRunSeconds := 86400
  diskMonitorBytes := 1099511627776

/-- Every resource is at most the other one. -/
structure ResourceLimits.AtMost (limits most : ResourceLimits) : Prop where
  cpuMillicores : limits.cpuMillicores ≤ most.cpuMillicores
  memoryBytes : limits.memoryBytes ≤ most.memoryBytes
  maxPids : limits.maxPids ≤ most.maxPids
  maxRunSeconds : limits.maxRunSeconds ≤ most.maxRunSeconds
  diskMonitorBytes : limits.diskMonitorBytes ≤ most.diskMonitorBytes

structure HeadParts where
  task : String
  references : List String

structure AgentParts where
  runtime : String
  selection : String
  vendorSubagents : String

structure ChecksParts where
  bundle : String
  argv : List String
  timeout : Nat

structure SandboxParts where
  backend : String
  profile : String
  resources : ResourceLimits
  requireHardDiskLimit : Bool

structure BackupParts where
  mode : String
  remote : Option String

/-- A definition that passed its checks. -/
structure CheckedDefinition where
  head : HeadParts
  implementer : AgentParts
  reviewer : AgentParts
  checks : ChecksParts
  sandbox : SandboxParts
  backup : BackupParts
  maxRepairTurns : Nat

def knownTopLevel : List String :=
  ["schemaVersion", "template", "workspace", "repository", "task",
    "references", "implementer", "reviewer", "checks", "sandbox", "backup",
    "maxRepairTurns"]

section

variable (file : String) (json : Json)

def rejectExtraFields : WorkflowResult Unit :=
  match json with
  | .object fields =>
    match fields.find? (·.1 ∉ knownTopLevel) with
    | none => .ok ()
    | some (key, _) => .error (invalid file key s!"unknown field `{key}`"
        "remove the field or use the repair-v1 template fields only")
  | _ => .error (invalid file "" "field `` must be an object" "fix the field shape")

def validateHead : WorkflowResult HeadParts := do
  let schemaVersion ← asU64 file (← get file json "" "schemaVersion") "schemaVersion"
  require (schemaVersion = 1) (invalid file "schemaVersion"
    s!"unsupported schema version {schemaVersion}" "use schemaVersion 1")
  let template ← asString file (← get file json "" "template") "template"
  require (template = "repair-v1") (invalid file "template" s!"unknown template `{template}`"
    "use the repair-v1 template; it is the only template in this release")
  let workspace ← asString file (← get file json "" "workspace") "workspace"
  require (workspace = "current") (invalid file "workspace"
    s!"unsupported workspace selector `{workspace}`"
    "select the current workspace")
  let source ← textOf file (← get file json "" "repository") "repository" "source"
  require (source = "workspace") (invalid file "repository.source"
    s!"unsupported repository source `{source}`"
    "use the workspace repository source")
  let task ← asString file (← get file json "" "task") "task"
  require (task ≠ "") (invalid file "task" "task path is empty"
    "point task at the frozen task file")
  let references ← asStringList file (← get file json "" "references") "references"
  return ⟨task, references⟩

/-- What `validate_agents` reads of one of the two agents. -/
def validateAgent (agent : Json)
    (field want : String) : WorkflowResult AgentParts := do
  let runtime ← agentRuntime file agent field want
  let selection ← agentSelectionName file agent field
  let vendorSubagents ← agentVendorMode file agent field
  return ⟨runtime, selection, vendorSubagents⟩

def validateAgents : WorkflowResult (AgentParts × AgentParts) := do
  let implementer ← get file json "" "implementer"
  let reviewer ← get file json "" "reviewer"
  return (← validateAgent file implementer "implementer" "claude",
    ← validateAgent file reviewer "reviewer" "codex")

def validateChecks : WorkflowResult ChecksParts := do
  let checks ← get file json "" "checks"
  let bundle ← textOf file checks "checks" "bundle"
  require (bundle ≠ "") (invalid file "checks.bundle"
    "check bundle name is empty" "name the frozen trusted test bundle")
  let argv ← asStringList file (← get file checks "checks" "argv") "checks.argv"
  require (argv ≠ []) (invalid file "checks.argv" "check argv is empty"
    "provide the exact check command argv")
  let timeout ← countOf file checks "checks" "timeoutSeconds" 1 3600
    "set checks.timeoutSeconds between 1 and 3600"
  return ⟨bundle, argv, timeout⟩

def validateResources (sandbox : Json) : WorkflowResult ResourceLimits := do
  let count := countOf file sandbox "sandbox"
  let cpuMillicores ← count "cpuMillicores" 1 maxResources.cpuMillicores
    "set sandbox.cpuMillicores between 1 and 16000"
  let memoryBytes ← count "memoryBytes" 268435456 maxResources.memoryBytes
    "set sandbox.memoryBytes between 256MiB and 64GiB"
  let maxPids ← count "maxPids" 1 maxResources.maxPids "set sandbox.maxPids between 1 and 4096"
  let maxRunSeconds ← count "maxRunSeconds" 1 maxResources.maxRunSeconds
    "set sandbox.maxRunSeconds between 1 and 86400"
  let diskMonitorBytes ← count "diskMonitorBytes" 1 maxResources.diskMonitorBytes
    "set sandbox.diskMonitorBytes between 1 and 1TiB"
  return ⟨cpuMillicores, memoryBytes, maxPids, maxRunSeconds, diskMonitorBytes⟩

def validateSandbox : WorkflowResult SandboxParts := do
  let sandbox ← get file json "" "sandbox"
  let backend ← textOf file sandbox "sandbox" "backend"
  require (backend = "docker") (invalid file "sandbox.backend"
    s!"unsupported sandbox backend `{backend}`" "use the docker backend")
  let profile ← textOf file sandbox "sandbox" "profile"
  let resources ← validateResources file sandbox
  let requireHardDiskLimit ← asBool file (← get file sandbox "sandbox" "requireHardDiskLimit")
    "sandbox.requireHardDiskLimit"
  return ⟨backend, profile, resources, requireHardDiskLimit⟩

def validateBackup : WorkflowResult BackupParts := do
  let backup ← get file json "" "backup"
  let mode ← textOf file backup "backup" "mode"
  require (mode ∈ ["off", "best_effort", "required"])
    (invalid file "backup.mode" s!"unsupported backup mode `{mode}`"
      "use off, best_effort, or required")
  match ← get file backup "backup" "remote" with
  | .null => return ⟨mode, none⟩
  | .string remote => return ⟨mode, some remote⟩
  | _ => throw (invalid file "backup.remote" "backup.remote must be a string or null"
      "set an authorized remote ID or null")

def validateDefinition : WorkflowResult CheckedDefinition := do
  rejectExtraFields file json
  let head ← validateHead file json
  let (implementer, reviewer) ← validateAgents file json
  let checks ← validateChecks file json
  let sandbox ← validateSandbox file json
  let backup ← validateBackup file json
  let maxRepairTurns ← rangedU64 file (← get file json "" "maxRepairTurns")
    "maxRepairTurns" 0 2 "set maxRepairTurns between 0 and 2"
  return ⟨head, implementer, reviewer, checks, sandbox, backup, maxRepairTurns⟩

end

end Jackin.WorkflowSpec
