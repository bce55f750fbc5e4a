import Jackin.Coordinator.Model
import Jackin.Foundation.Directory
import Jackin.Foundation.Script
import Jackin.Foundation.Text

/-!
# The files of the account states

The file store keeps the state of every account in a file of one directory.
The name of the file joins the surface and the account of the capability with
a hyphen, and both may contain hyphens themselves.  For capabilities that do
not overlap in this way, storing, purging and quarantining one account leaves
the file of the other alone, whatever fails on the way.
-/

namespace Jackin.Coordinator

open Foundation Script

/-- A part of a capability that may be part of a file name. -/
def validPart (value : String) : Bool :=
  !value.toList.isEmpty && value.utf8ByteSize ≤ 128 && value.toList.all fun character =>
      character.isAlphanum || character == '-' || character == '_'

def validateCapability (capability : Capability) : Except StateStoreError Unit :=
  if validPart capability.accountId ∧ validPart capability.surfaceId then .ok ()
  else .error .corrupt

def stateFilename (capability : Capability) : String :=
  capability.surfaceId ++ "-" ++ capability.accountId ++ ".json"

/-! ## The store -/

abbrev StateFiles := Directory String (List UInt8)

/-- The accounts directory, and the names that calls were given in it. -/
structure AccountsDir where
  files : StateFiles
  named : List String := []

abbrev Storing := Script AccountsDir StateStoreError

/-- `MAX_ACCOUNT_STATE_BYTES` -/
def maxAccountStateBytes : Nat := 512 * 1024

/-- How envelopes are validated and written, and what the process counts. -/
structure StateWriter (View : Type) where
  validateEnvelope : AccountStateEnvelope View → Capability → Int →
    Except StateStoreError (AccountStateEnvelope View)
  validated_capability : ∀ {envelope validated : AccountStateEnvelope View}
    {expected : Capability} {nowEpoch : Int},
    validateEnvelope envelope expected nowEpoch = .ok validated → validated.capability = expected
  toVec : AccountStateEnvelope View → Except StateStoreError (List UInt8)
  processId : Nat
  tmpCounter : Nat
  timestampNanos : Int
  quarantineCounter : Nat

/-- A system call in the accounts directory, with the names it is given. -/
def callOn {Value : Type} (names : List String)
    (effect : StateFiles → Except StateStoreError Value × StateFiles)
    (partly : Nat → StateFiles → StateFiles := fun _ files => files) :
    Operation AccountsDir StateStoreError Value where
  complete := fun directory =>
    ((effect directory.files).1, ⟨(effect directory.files).2, names ++ directory.named⟩)
  partly := fun extent directory => ⟨partly extent directory.files, names ++ directory.named⟩
  failure := .unavailable

/-- `open_accounts_dir`, `sync_all` and `fsync` -/
def settleDirectory : Operation AccountsDir StateStoreError Unit :=
  callOn [] fun files => (.ok (), files)

/-- `openat` with `O_CREAT` and `O_EXCL` -/
def createFile (name : String) : Operation AccountsDir StateStoreError Unit :=
  callOn [name] fun files =>
    match files.node? name with
    | none => (.ok (), files.store name [])
    | some _ => (.error .unavailable, files)

def writeFile (name : String)
    (bytes : List UInt8) : Operation AccountsDir StateStoreError Unit :=
  callOn [name] (fun files => (.ok (), files.store name bytes))
    fun extent files => files.store name (bytes.take extent)

/-- `renameat`, with whether there was such a file. -/
def renameFile (source target : String) : Operation AccountsDir StateStoreError Bool :=
  callOn [source, target] fun files =>
    match files.node? source with
    | none => (.ok false, files)
    | some bytes => (.ok true, files.move source target bytes)

/-- `unlinkat`, with whether there was such a file. -/
def unlinkFile (name : String) : Operation AccountsDir StateStoreError Bool :=
  callOn [name] fun files =>
    match files.node? name with
    | none => (.ok false, files)
    | some _ => (.ok true, files.drop name)

section

variable {View : Type} (writer : StateWriter View)

def storeState (envelope : AccountStateEnvelope View)
    (nowEpoch : Int) : Storing Unit := do
  lift (validateCapability envelope.capability)
  let validated ← lift (writer.validateEnvelope envelope envelope.capability nowEpoch)
  let bytes ← lift (writer.toVec validated)
  ensure (bytes.length ≤ maxAccountStateBytes) .corrupt
  perform settleDirectory
  let filename := stateFilename validated.capability
  let temporary := "." ++ (filename ++ "." ++ toString writer.processId ++
    "." ++ toString writer.tmpCounter ++ ".tmp")
  perform (createFile temporary)
  match ← attempt (do
      perform (writeFile temporary bytes)
      perform settleDirectory
      let renamed ← perform (renameFile temporary filename)
      ensure renamed .unavailable
      perform settleDirectory) with
  | .ok _ => pure ()
  | .error failure => do
    let _ ← attempt (perform (unlinkFile temporary))
    fail failure

def purgeState (capability : Capability) : Storing Unit := do
  lift (validateCapability capability)
  perform settleDirectory
  let removed ← perform (unlinkFile (stateFilename capability))
  if removed then perform settleDirectory

def quarantineState (capability : Capability) : Storing Unit := do
  lift (validateCapability capability)
  perform settleDirectory
  let filename := stateFilename capability
  let quarantined := "." ++ (filename ++ ".corrupt." ++ toString writer.timestampNanos ++ "-" ++
    toString writer.quarantineCounter)
  let renamed ← perform (renameFile filename quarantined)
  if renamed then perform settleDirectory

/-- What the store is asked to do with the state of an account. -/
inductive StateRequest (View : Type) where
  | store (envelope : AccountStateEnvelope View) (nowEpoch : Int)
  | purge (capability : Capability)
  | quarantine (capability : Capability)

def StateRequest.capability : StateRequest View → Capability
  | .store envelope _ => envelope.capability
  | .purge capability => capability
  | .quarantine capability => capability

def StateRequest.script : StateRequest View → Storing Unit
  | .store envelope nowEpoch => storeState writer envelope nowEpoch
  | .purge capability => purgeState capability
  | .quarantine capability => quarantineState writer capability

end

/--
The first surface continues the second, and the part by which it does is
taken up by the second account.
-/
def Capability.Overlaps (first second : Capability) : Prop :=
  ∃ part : List Char, first.surfaceId.toList = second.surfaceId.toList ++ '-' :: part ∧
      second.accountId.toList = part ++ '-' :: first.accountId.toList

theorem stateFilename_eq_iff :
    stateFilename first = stateFilename second ↔
      first = second ∨ first.Overlaps second ∨ second.Overlaps first := by
  have joined : stateFilename first = stateFilename second ↔
      first.surfaceId.toList ++ '-' :: first.accountId.toList =
        second.surfaceId.toList ++ '-' :: second.accountId.toList := by
    rw [stateFilename, stateFilename, ← String.toList_inj]
    simp only [String.toList_append, List.append_left_inj]
    rw [List.append_assoc, List.append_assoc]
    rfl
  rw [joined, Text.append_cons_eq_append_cons_iff]
  cases first
  cases second
  simp only [Capability.Overlaps, Capability.mk.injEq, String.toList_inj, and_comm]

theorem validPart_of_validateCapability
    (valid : validateCapability capability = .ok ()) :
    validPart capability.surfaceId := by
  unfold validateCapability at valid
  split at valid
  · exact (And.right ‹_›)
  · cases valid

/-- No name of a state file starts like the store's other names. -/
theorem stateFilename_ne_hidden (valid : validateCapability capability = .ok ())
    (hidden : String) :
    stateFilename capability ≠ "." ++ hidden := by
  have part := validPart_of_validateCapability valid
  intro same
  rw [stateFilename, ← String.toList_inj] at same
  simp only [String.toList_append] at same
  simp only [validPart, Bool.and_eq_true, List.all_eq_true] at part
  cases surface : capability.surfaceId.toList with
  | nil => simp [surface] at part
  | cons head rest =>
    have allowed := part.2 head (by simp [surface])
    rw [surface] at same
    obtain rfl : head = '.' := (List.cons.inj same).1
    exact absurd allowed (by decide)

/-! ## What a request leaves alone -/

section

variable (other : String) (before : AccountsDir)

/-- A file is as it was, and no call was given its name. -/
def Untouched (reached : AccountsDir) : Prop :=
  reached.files.node? other = before.files.node? other ∧
    (other ∈ reached.named → other ∈ before.named)

/-- A script that leaves a file untouched, however it ends. -/
def Leaves {Value : Type} (script : Storing Value) : Prop :=
  ∀ directory, Untouched other before directory → Steady (fun _ => True) (Untouched other before)
    script directory (fun _ => Untouched other before)

variable {other before} {Value Result : Type} {next : Value → Storing Result}

theorem Leaves.pure : Leaves other before (Pure.pure value) :=
  fun _ untouched => .pure untouched

theorem Leaves.fail {failure} :
    Leaves other before (fail failure : Storing Value) :=
  fun _ untouched => .fail untouched

theorem Leaves.bind (first : Leaves other before script)
    (rest : ∀ value, Leaves other before (next value)) :
    Leaves other before (script >>= next) :=
  fun directory untouched => Outcomes.bind
    ((first directory untouched).imply rest (fun _ _ => id) (fun _ => id))

theorem Leaves.attempt (leaves : Leaves other before script) :
    Leaves other before (attempt script) :=
  fun directory untouched => Outcomes.attempt (leaves directory untouched)

theorem Leaves.ensure {condition : Prop} [Decidable condition] {failure} :
    Leaves other before (ensure condition failure) := by
  unfold Script.ensure
  split
  · exact .pure
  · exact .fail

theorem Leaves.lift
    (rest : ∀ value, computed = .ok value → Leaves other before (next value)) :
    Leaves other before (lift computed >>= next) := by
  intro directory untouched
  apply Outcomes.bind
  cases computed with
  | ok value => exact .pure (rest value rfl directory untouched)
  | error failure => exact .fail untouched

theorem Leaves.callOn {effect : StateFiles → Except StateStoreError Value × StateFiles}
    (apart : other ∉ names)
    (keeps : ∀ files, (effect files).2.node? other = files.node? other)
    (keepsPart : ∀ extent files, (partly extent files).node? other = files.node? other) :
    Leaves other before (perform (callOn names effect partly)) := by
  intro directory untouched
  have named : other ∈ names ++ directory.named → other ∈ before.named := by
    intro member
    exact untouched.2 ((List.mem_append.mp member).resolve_left apart)
  have after : Untouched other before
      ((Coordinator.callOn names effect partly).complete directory).2 :=
    ⟨(keeps _).trans untouched.1, named⟩
  have inside : ∀ extent, Untouched other before
      ((Coordinator.callOn names effect partly).partly extent directory) :=
    fun extent => ⟨(keepsPart extent _).trans untouched.1, named⟩
  apply Steady.perform inside
  · intro value reached completed
    rw [completed] at after
    exact ⟨after, after⟩
  · intro failure reached completed
    rwa [completed] at after

theorem Leaves.settleDirectory :
    Leaves other before (perform settleDirectory) :=
  Leaves.callOn (by simp) (fun _ => rfl) fun _ _ => rfl

theorem Leaves.createFile (apart : other ≠ name) :
    Leaves other before (perform (createFile name)) := by
  refine .callOn (by simpa using apart) (fun files => ?_) fun _ _ => rfl
  split <;> simp [apart]

theorem Leaves.writeFile (apart : other ≠ name) :
    Leaves other before (perform (writeFile name bytes)) :=
  Leaves.callOn (by simpa using apart) (fun _ => by simp [apart]) fun _ _ => by simp [apart]

theorem Leaves.renameFile (apartSource : other ≠ source)
    (apartTarget : other ≠ target) :
    Leaves other before (perform (renameFile source target)) := by
  refine .callOn (by simp [apartSource, apartTarget]) (fun files => ?_) fun _ _ => rfl
  split <;> simp [apartSource, apartTarget]

theorem Leaves.unlinkFile (apart : other ≠ name) :
    Leaves other before (perform (unlinkFile name)) := by
  refine .callOn (by simpa using apart) (fun files => ?_) fun _ _ => rfl
  split <;> simp [apart]

theorem Leaves.untouched (leaves : Leaves other before script) :
    Untouched other before (script before fates).world := by
  have meets := leaves before ⟨rfl, id⟩ fates (fun _ _ => by trivial)
  unfold Meets at meets
  split at meets <;> exact meets

end

section

variable {View : Type} {first second : Capability} {before : AccountsDir}

theorem StateRequest.leaves {request : StateRequest View}
    (valid : validateCapability second = .ok ())
    (apart : stateFilename second ≠ stateFilename request.capability) :
    Leaves (stateFilename second) before (request.script writer) := by
  have hidden := stateFilename_ne_hidden valid
  cases request with
  | store envelope nowEpoch =>
    refine .lift fun _ _ => ?_
    refine .lift fun validated accepted => ?_
    rw [StateRequest.capability, ← writer.validated_capability accepted] at apart
    refine .lift fun bytes _ => ?_
    refine .bind Leaves.ensure fun _ => ?_
    refine .bind Leaves.settleDirectory fun _ => ?_
    refine .bind (.createFile (hidden _)) fun _ => ?_
    apply Leaves.bind (.attempt _)
    · intro written
      cases written with
      | ok _ => exact .pure
      | error failure => exact .bind (.attempt (.unlinkFile (hidden _))) fun _ => .fail
    · refine .bind (.writeFile (hidden _)) fun _ => ?_
      refine .bind Leaves.settleDirectory fun _ => ?_
      refine .bind (.renameFile (hidden _) apart) fun renamed => ?_
      exact .bind Leaves.ensure fun _ => .settleDirectory
  | purge capability =>
    refine .lift fun _ _ => ?_
    refine .bind Leaves.settleDirectory fun _ => ?_
    refine .bind (.unlinkFile apart) fun removed => ?_
    split
    · exact .settleDirectory
    · exact .pure
  | quarantine capability =>
    refine .lift fun _ _ => ?_
    refine .bind Leaves.settleDirectory fun _ => ?_
    refine .bind (.renameFile apart (hidden _)) fun renamed => ?_
    split
    · exact .settleDirectory
    · exact .pure

/--
Two valid capabilities keep their states apart, in the names of their files
and in every run of a request, if and only if neither of them overlaps the
other.
-/
theorem state_files_apart_iff (writer : StateWriter View)
    (validFirst : validateCapability first = .ok ())
    (validSecond : validateCapability second = .ok ())
    (distinct : first ≠ second) :
    (stateFilename first ≠ stateFilename second ∧
      ∀ request : StateRequest View, request.capability = first →
        ∀ (before : AccountsDir) (fates : List Fate),
          Untouched (stateFilename second) before (request.script writer before fates).world) ↔
      ¬first.Overlaps second ∧ ¬second.Overlaps first := by
  have names : stateFilename first ≠ stateFilename second ↔
      ¬first.Overlaps second ∧ ¬second.Overlaps first := by
    rw [Ne, stateFilename_eq_iff, not_or, not_or]
    exact and_iff_right distinct
  rw [← names]
  refine ⟨And.left, fun apart => ⟨apart, ?_⟩⟩
  rintro request rfl before fates
  exact (StateRequest.leaves validSecond apart.symm).untouched

end

def sampleWriter : StateWriter Unit where
  validateEnvelope := fun envelope expected _ =>
    if envelope.capability = expected then .ok envelope else .error .corrupt
  validated_capability := by
    intro envelope validated expected nowEpoch accepted
    split at accepted
    · cases accepted
      assumption
    · cases accepted
  toVec := fun _ => .ok [0x7b, 0x7d]
  processId := 1
  tmpCounter := 0
  timestampNanos := 0
  quarantineCounter := 0

/-- The states of two accounts with hyphens in their names are apart. -/
theorem sample_states_apart :
    let first : Capability := ⟨"my-work", "claude"⟩
    let second : Capability := ⟨"my-home", "claude"⟩
    validateCapability first = .ok () ∧ validateCapability second = .ok () ∧
      ∀ (before : AccountsDir) (fates : List Fate),
        Untouched (stateFilename second) before (purgeState first before fates).world := by
  intro first second
  have validFirst : validateCapability first = .ok () := by decide +kernel
  have validSecond : validateCapability second = .ok () := by decide +kernel
  have names : stateFilename first ≠ stateFilename second := by decide +kernel
  have apart : ¬first.Overlaps second ∧ ¬second.Overlaps first := by
    rwa [Ne, stateFilename_eq_iff, not_or, not_or, and_iff_right (by decide)] at names
  exact ⟨validFirst, validSecond, ((state_files_apart_iff sampleWriter validFirst validSecond
      (by decide)).mpr apart).2 (.purge first) rfl⟩

/-- Purging one account removes the state of another. -/
theorem sample_purge_removes_other :
    let first : Capability := ⟨"c", "a-b"⟩
    let second : Capability := ⟨"b-c", "a"⟩
    let before : AccountsDir := ⟨Directory.store Table.empty "a-b-c.json" [1], []⟩
    validateCapability first = .ok () ∧ validateCapability second = .ok () ∧ first ≠ second ∧
      stateFilename second = "a-b-c.json" ∧ before.files.node? (stateFilename second) = some [1] ∧
      (purgeState first before []).world.files.node? (stateFilename second) = none := by
  decide +kernel

end Jackin.Coordinator
