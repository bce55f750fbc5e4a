import Jackin.Foundation.Script
import Jackin.WorkflowSpec.Plan

/-!
# The store of plans and inputs

A compiled plan is stored together with its frozen inputs, each in a file
that is named by its digest.  Files are written in place, and an input whose
file exists is not written again.  So an input file that was cut off when it
was created stays as it is, and that is the only way in which a stored input
differs from what its digest says.
-/

namespace Jackin.WorkflowSpec

open Foundation Result Script

/-! ## The store -/

inductive FileName where
  | input (digest : String)
  | plan (hash : String)
  deriving DecidableEq

/-- A file of the store. -/
structure StoredFile where
  bytes : List UInt8
  readOnly : Bool

abbrev Files := Directory FileName StoredFile

/-- The bytes stored for a digest. -/
def Files.input? (files : Files) (digest : String) : Option (List UInt8) :=
  (files.node? (.input digest)).map StoredFile.bytes

abbrev Storing := Script Files WorkflowError

/-- The store, its user, and how bytes and plans are hashed and written. -/
structure InputStore where
  root : String
  superuser : Bool
  sha256Hex : List UInt8 → String
  planHash : ExecutionPlan → WorkflowResult String
  encode : ExecutionPlan → Option (List UInt8)

namespace InputStore

variable (store : InputStore)

def path : FileName → String
  | .input digest => store.root ++ "/inputs/" ++ digest
  | .plan hash => store.root ++ "/plans/" ++ hash ++ ".plan.json"

section

variable (files : Files) (name : FileName)

def writable : Bool :=
  store.superuser || (files.node? name).all (!·.readOnly)

/-- Open and truncate a file and write it; if that is cut off, a part is there. -/
def writeFile (bytes : List UInt8) (field message : String) : Storing Unit :=
  let failure := single (store.path name) field .missingInput message
    "point the store at a writable directory"
  Script.perform
    { complete := fun files =>
        if store.writable files name then (.ok (), files.store name ⟨bytes, false⟩)
        else (.error failure, files)
      partly := fun extent files =>
        -- the open may fail before there is a file
        if store.writable files name ∧ 0 < extent then
          files.store name ⟨bytes.take (extent - 1), false⟩
        else files
      failure }

/-- The file is made read-only, and nobody asks whether that works. -/
def protect : Storing Unit := do
  let _ ← Script.attempt (Script.perform
    { complete := fun files =>
        (.ok (), match files.node? name with
          | some file => files.store name { file with readOnly := true }
          | none => files)
      failure := ⟨[]⟩ })
  return ()

def writeInput (digest : String) (bytes : List UInt8) : Storing Unit := do
  if ← Script.glance (fun files : Files => (files.input? digest).isSome) then return ()
  store.writeFile (.input digest) bytes "input" "cannot write the stored input"
  protect (.input digest)

def writeInputs : List FrozenInput → Storing Unit
  | [] => return ()
  | input :: rest => do
    store.writeInput input.digest input.bytes
    writeInputs rest

def persist (plan : ExecutionPlan)
    (inputs : List FrozenInput) : Storing String := do
  store.writeInputs inputs
  let hash ← Script.lift (store.planHash plan)
  Script.ensure (plan.planHash = hash) (single "plan" "plan_hash" .planDigestMismatch
      "plan carries a hash that does not match its bytes"
      "recompile the workflow to produce the plan")
  let stored ← Script.lift (present (store.encode plan)
    (single "plan" "plan" .missingInput "cannot encode the stored plan"
      "recompile the workflow to produce the plan"))
  store.writeFile (.plan hash) stored "plan" "cannot write the stored plan"
  protect (.plan hash)
  return hash

def readInput (digest : String) : WorkflowResult (List UInt8) :=
  present (files.input? digest) (single (store.path (.input digest)) "input" .planDigestMismatch
      s!"stored input `{digest}` is missing"
      "recompile the workflow to restore the inputs")

/-! ## Right inputs -/

/-- Every stored input has the digest it is stored for. -/
def Right : Prop :=
  ∀ digest bytes, files.input? digest = some bytes → store.sha256Hex bytes = digest

end

/-- No input file was created with bytes of another digest. -/
def Harmless (incident : Incident Files) : Prop :=
  ∀ digest bytes, incident.before.input? digest = none →
    incident.left.input? digest = some bytes → store.sha256Hex bytes = digest

variable {store} {files : Files} {digest : String} {bytes : List UInt8}

theorem input?_store :
    Files.input? (files.store name file) digest =
      if .input digest = name then some file.bytes
      else files.input? digest := by
  rw [Files.input?, Directory.node?_store]
  split <;> rfl

section

variable (absent : files.input? digest = none)
include absent

theorem right_store :
    store.Right (files.store (.input digest) ⟨bytes, flag⟩) ↔
      store.Right files ∧ store.sha256Hex bytes = digest := by
  simp only [Right, input?_store, FileName.input.injEq]
  grind

theorem harmless_store :
    store.Harmless ⟨fate, files, files.store (.input digest) ⟨bytes, flag⟩⟩ ↔
      store.sha256Hex bytes = digest := by
  simp only [Harmless, input?_store, FileName.input.injEq]
  grind

end

theorem harmless_of_same (same : ∀ digest, left.input? digest = files.input? digest) :
    store.Harmless ⟨fate, files, left⟩ := by
  intro digest bytes before after
  rw [same, before] at after
  cases after

/-- An operation that leaves the bytes of the inputs alone. -/
theorem hinges_of_same {Value : Type}
    {operation : Operation Files WorkflowError Value}
    (complete : ∀ digest, Files.input? (operation.complete files).2 digest = files.input? digest)
    (partly : ∀ extent digest,
      Files.input? (operation.partly extent files) digest = files.input? digest) :
    (perform operation).Hinges store.Right store.Harmless files := by
  apply Hinges.perform
  · simp only [Right, complete]
  · intro fate extent
    rw [and_iff_left (harmless_of_same (partly extent))]
    simp only [Right, partly]
  · exact harmless_of_same complete

theorem protect_hinges :
    (protect name).Hinges store.Right store.Harmless files := by
  refine .bind ?_ fun _ _ => .pure
  refine hinges_of_same ?_ fun _ _ => rfl
  intro digest
  dsimp only
  split
  · rename_i found
    rw [input?_store]
    split
    · rename_i same
      rw [Files.input?, same, found]
      rfl
    · rfl
  · rfl

theorem writePlan_hinges {hash field message} :
    (store.writeFile (.plan hash) bytes field message).Hinges store.Right store.Harmless files := by
  apply hinges_of_same
  · intro digest
    dsimp only
    split <;> simp [input?_store]
  · intro extent digest
    dsimp only
    split <;> simp [input?_store]

/-- A new input is as its digest says, unless its write is cut off. -/
theorem writeInput_hinges (frozen : digest = store.sha256Hex bytes) :
    (store.writeInput digest bytes).Hinges store.Right store.Harmless files := by
  refine .glance ?_
  cases found : files.input? digest with
  | some stored => exact .pure
  | none =>
    have writable : store.writable files (.input digest) := by
      simp [writable, Option.map_eq_none_iff.mp found]
    refine .bind ?_ fun _ _ => protect_hinges
    apply Hinges.perform
    · simp only [writable, if_true, right_store found, and_iff_left frozen.symm]
    · intro fate extent
      by_cases opened : 0 < extent
      · simp only [writable, opened, and_self, if_true, right_store found, harmless_store found]
      · simp only [opened, and_false, if_false]
        exact (and_iff_left (harmless_of_same fun _ => rfl)).symm
    · simp only [writable, if_true, harmless_store found, frozen.symm]

theorem persist_hinges (frozen : ∀ input ∈ inputs, input.digest = store.sha256Hex input.bytes) :
    (store.persist plan inputs).Hinges store.Right store.Harmless files := by
  have written : (store.writeInputs inputs).Hinges store.Right store.Harmless files := by
    induction inputs generalizing files with
    | nil => exact .pure
    | cons input rest ih =>
      obtain ⟨first, later⟩ := List.forall_mem_cons.mp frozen
      exact .bind (writeInput_hinges first) fun _ _ => ih later
  refine .bind written fun _ _ => ?_
  refine .bind Hinges.lift fun hash _ => ?_
  refine .bind Hinges.ensure fun _ _ => ?_
  refine .bind Hinges.lift fun stored _ => ?_
  refine .bind writePlan_hinges fun _ _ => ?_
  exact .bind protect_hinges fun _ _ => .pure

/-- A call of `persist` with resolved inputs, and what becomes of it. -/
structure Call (store : InputStore) where
  plan : ExecutionPlan
  inputs : List FrozenInput
  frozen : ∀ input ∈ inputs, input.digest = store.sha256Hex input.bytes
  fates : List Fate

/-- The files after the calls, and everything that went wrong in them. -/
def play (store : InputStore)
    (files : Files) : List store.Call → Files × List (Incident Files)
  | [] => (files, [])
  | call :: later =>
    let run := store.persist call.plan call.inputs files call.fates
    let rest := store.play run.world later
    (rest.1, run.incidents ++ rest.2)

theorem play_right_iff :
    store.Right (store.play files history).1 ↔ store.Right files ∧
      ∀ incident ∈ (store.play files history).2, store.Harmless incident := by
  induction history generalizing files with
  | nil => simp [play]
  | cons call later ih =>
    simp only [play, ih, persist_hinges call.frozen call.fates, List.forall_mem_append, and_assoc]

/--
Whatever was stored and whatever went wrong, every input that can be read has
its digest, exactly if no input file was created with other bytes.
-/
theorem read_inputs_right_iff (store : InputStore) (history : List store.Call) :
    (∀ digest bytes, store.readInput (store.play Table.empty history).1 digest =
        .ok bytes → store.sha256Hex bytes = digest) ↔
    ∀ incident ∈ (store.play Table.empty history).2, store.Harmless incident := by
  simp only [readInput, present_eq_ok]
  have empty : store.Right Table.empty := by rintro _ _ ⟨⟩
  exact play_right_iff.trans (and_iff_right empty)

/-- An input that is cut off after a byte stays so when it is stored again. -/
theorem cut_input_stays :
    let agent : AgentSelection := ⟨"codex", "codex", "dev", "", "", "", "", none, "", ""⟩
    let plan : ExecutionPlan := ⟨1, "repair", [], agent, agent,
      ⟨"task.md", "ab", 2, "/work/task/task.md"⟩, [], ⟨"", "", ""⟩,
      maxResources, ⟨"", "", [], [], "", 0, 1⟩, ⟨"none", none, none, none⟩, 0,
      Table.empty, ⟨"", "", [], "", 1⟩, "plan"⟩
    let store : InputStore := ⟨"", false,
      fun bytes => String.ofList (bytes.map fun byte => Char.ofNat byte.toNat),
      fun _ => .ok "plan", fun _ => some []⟩
    let call : List Fate → store.Call := .mk plan [⟨"task.md", [97, 98], "ab"⟩] (by decide)
    store.readInput (store.play Table.empty [call [.dies 3], call []]).1 "ab" = .ok [97] ∧
      store.sha256Hex [97] ≠ "ab" :=
  ⟨rfl, by decide⟩

end InputStore

end Jackin.WorkflowSpec
