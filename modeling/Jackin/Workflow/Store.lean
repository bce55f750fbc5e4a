import Jackin.Foundation.Program
import Jackin.Foundation.Table
import Jackin.Workflow.Model

/-!
# The run store

The store is one relational database, with tables keyed as the schema declares
them.  Every statement may fail: it is either refused, and then changes
nothing, or carried out with its answer lost.  Statements between `BEGIN` and
`COMMIT` are undone together when one of them fails.

Next to the database the state records each test execution, each validated
review and each confirmed remote backup, in order.
-/

namespace Jackin.Workflow

open Foundation
open Program (Emits Ends exec_bind exec_bind_ok)

/-! ## Rows -/

structure StoredRun where
  runId : String
  planHash : String
  maxRepairTurns : Nat
  idempotencyKey : String
  status : RunStatus
  stage : Stage
  round : Nat
  candidate : Option String
  candidateGeneration : Nat
  version : Int
  ownerEpoch : Nat
  pauseKind : Option String
  deriving DecidableEq

/-- A prompt for a session. -/
structure StoredCommand where
  commandId : String
  runId : String
  sessionRef : String
  promptDigest : String
  turn : Nat
  leaseGeneration : Nat
  state : CommandState
  receipt : Option String
  resolution : Option String

structure StoredSession where
  runId : String
  workerId : String
  instanceId : Option String
  capsuleEpoch : Option Int
  sessionId : Option Int
  processIdentity : Option String
  agentProfile : Option String
  authProfile : Option String
  deriving DecidableEq

/-- A session as it is handed in. -/
structure SessionAttachment where
  runId : String
  workerId : String
  instanceId : Option String
  capsuleEpoch : Option Nat
  sessionId : Option Nat
  processIdentity : Option String
  agentProfile : Option String
  authProfile : Option String
  deriving DecidableEq

/-- `i64::try_from(value).unwrap_or(i64::MAX)` -/
def saturated (value : Nat) : Nat := min value (2 ^ 63 - 1)

/-- The row of a session has signed numbers. -/
def SessionAttachment.row (session : SessionAttachment) : StoredSession where
  runId := session.runId
  workerId := session.workerId
  instanceId := session.instanceId
  capsuleEpoch := session.capsuleEpoch.map fun value => saturated value
  sessionId := session.sessionId.map fun value => saturated value
  processIdentity := session.processIdentity
  agentProfile := session.agentProfile
  authProfile := session.authProfile

/-- An operation outside the store. -/
structure StoredEffect where
  operationId : String
  runId : String
  kind : EffectKind
  status : EffectStatus
  expectedState : Option String
  externalIdentity : Option String
  ownershipLabel : Option String
  preservation : Option String

structure StoredEvent where
  runId : String
  seq : Int
  at_ : Int
  actor : String
  kind : String
  evidenceRef : Option String

/-- The `events` uniqueness constraint. -/
def StoredEvent.key (event : StoredEvent) : String × Int := (event.runId, event.seq)

inductive EvidenceKind where
  | test
  | review
  deriving DecidableEq

/-- The verdict column of an evidence row. -/
inductive Verdict where
  | pass
  | fail
  | incomplete
  deriving DecidableEq

/-- The verdict on a candidate. -/
structure StoredEvidence where
  runId : String
  candidate : String
  kind : EvidenceKind
  source : String
  quality : String
  result : Verdict
  policyHash : Option String
  artifactDigest : Option String

/-- The `evidence_candidate_kind` index. -/
def StoredEvidence.key (evidence : StoredEvidence) : String × String × EvidenceKind :=
  (evidence.runId, evidence.candidate, evidence.kind)

/-- The commit of a candidate. -/
structure StoredCheckpoint where
  runId : String
  candidate : String
  commitHash : String
  treeHash : String
  sourceManifest : String
  localPath : String
  backupState : String
  preservationHold : Option String

/-- The `checkpoints` primary key. -/
def StoredCheckpoint.key (checkpoint : StoredCheckpoint) : String × String :=
  (checkpoint.runId, checkpoint.candidate)

/-! ## The database and its surroundings -/

/-- The tables; `ownerEpoch` is the `service_meta` entry of that name. -/
structure Database where
  ownerEpoch : Nat
  runs : Table StoredRun.runId
  sessions : List StoredSession
  commands : Table StoredCommand.commandId
  checkpoints : Table StoredCheckpoint.key
  evidence : Table StoredEvidence.key
  events : Table StoredEvent.key
  effects : Table StoredEffect.operationId

/-- A database as the schema creates it. -/
def Database.fresh : Database where
  ownerEpoch := 0
  runs := Table.empty
  sessions := []
  commands := Table.empty
  checkpoints := Table.empty
  evidence := Table.empty
  events := Table.empty
  effects := Table.empty

/-- What the service did outside of the database. -/
inductive Occurrence where
  | testRun (runId candidate commit tree policyHash : String) (passed : Bool)
  | reviewValidated (runId candidate commit tree : String) (result : Verdict)
  | backupConfirmed (runId commit remote gitRef : String)
  deriving DecidableEq

/-- The database together with the record of outside actions. -/
structure World where
  db : Database
  journal : List Occurrence

/-- The world before any service was opened. -/
def World.fresh : World := ⟨Database.fresh, []⟩

/-- The fate of a statement that does not answer normally. -/
inductive Fault where
  | refused (reason : String)
  | lost (reason : String)

/-- The state of one call: the world and the fates of its statements. -/
structure Session where
  world : World
  faults : List (Option Fault)

/-- A method of the store or the service. -/
abbrev Method := Program Session WorkflowError

namespace Session

/-- Consume one statement's fate, leaving a database. -/
def afterStatement (session : Session) (db : Database) : Session where
  world := { session.world with db }
  faults := session.faults.tail

end Session

/-- The next statements are not hit by a fault. -/
def Unfaulted : Nat → List (Option Fault) → Prop
  | 0, _ => True
  | count + 1, faults => faults.head?.join = none ∧ Unfaulted count faults.tail

/-- The fates left after some statements. -/
def remaining : Nat → List (Option Fault) → List (Option Fault)
  | 0, faults => faults
  | count + 1, faults => remaining count faults.tail

@[simp]
theorem unfaulted_nil : Unfaulted count [] := by
  induction count with
  | zero => trivial
  | succ count ih => exact ⟨rfl, ih⟩

theorem unfaulted_add (first second : Nat) :
    Unfaulted (first + second) faults ↔
      Unfaulted first faults ∧ Unfaulted second (remaining first faults) := by
  induction first generalizing faults with
  | zero => simp [Unfaulted, remaining]
  | succ first ih => rw [Nat.succ_add, Unfaulted, ih, Unfaulted, remaining, and_assoc]

/-! ## Statements -/

section

variable {Value : Type} {session : Session} {value : Value}

/-- How a statement with a given fate and outcome ends. -/
private def settle (label : String) (session : Session) :
    Option Fault → Except String (Value × Database) → Except WorkflowError Value × Session
  | none, .ok (value, db) => (.ok value, session.afterStatement db)
  | none, .error reason =>
    (.error (.storage (label ++ ": " ++ reason)), session.afterStatement session.world.db)
  | some (.lost reason), .ok (_, db) =>
    (.error (.storage (label ++ ": " ++ reason)), session.afterStatement db)
  | some (.lost reason), .error _ | some (.refused reason), _ =>
    (.error (.storage (label ++ ": " ++ reason)), session.afterStatement session.world.db)

/--
One database statement.  A constraint violation and a database failure are
both reported as storage errors under the statement's label.
-/
def statement (label : String)
    (action : Database → Except String (Value × Database)) :
    Method Value :=
  ExceptT.mk fun session => settle label session session.faults.head?.join (action session.world.db)

private theorem exec_statement (label : String)
    (action : Database → Except String (Value × Database)) (session : Session) :
    (statement label action).exec session =
      settle label session session.faults.head?.join (action session.world.db) :=
  rfl

/-- A statement leaves the database alone or carries out its action. -/
theorem statement_world :
    ((statement label action).exec session).2.world = session.world ∨
      ∃ value db, action session.world.db = .ok (value, db) ∧
        ((statement label action).exec session).2.world =
          { session.world with db } := by
  rw [exec_statement]
  generalize session.faults.head?.join = fate
  cases action session.world.db with
  | ok outcome =>
    obtain ⟨value, db⟩ := outcome
    rcases fate with _ | ⟨_ | _⟩
    · exact .inr ⟨value, db, rfl, rfl⟩
    · exact .inl rfl
    · exact .inr ⟨value, db, rfl, rfl⟩
  | error reason => rcases fate with _ | ⟨_ | _⟩ <;> exact .inl rfl

/-- A statement answers exactly when no fault hits it and its action does. -/
theorem statement_ok_iff :
    (statement label action).exec session = (.ok value, reached) ↔
      session.faults.head?.join = none ∧
        ∃ db, action session.world.db = .ok (value, db) ∧ reached = session.afterStatement db := by
  rw [exec_statement]
  constructor
  · intro success
    generalize session.faults.head?.join = fate at success ⊢
    cases equality : action session.world.db with
    | ok outcome =>
      obtain ⟨_, db⟩ := outcome
      rw [equality] at success
      rcases fate with _ | ⟨_ | _⟩ <;> cases success
      exact ⟨rfl, db, rfl, rfl⟩
    | error reason =>
      rw [equality] at success
      rcases fate with _ | ⟨_ | _⟩ <;> cases success
  · rintro ⟨fate, db, outcome, rfl⟩
    rw [fate, outcome]
    rfl

/-- A statement that answers has carried out its action. -/
theorem statement_ok
    (success : (statement label action).exec session = (.ok value, reached)) :
    ∃ db, action session.world.db = .ok (value, db) ∧
      reached.world = { session.world with db } := by
  obtain ⟨_, db, outcome, rfl⟩ := statement_ok_iff.mp success
  exact ⟨db, outcome, rfl⟩

/-- A statement that is not refused carries out what its action does. -/
theorem statement_world_of_not_refused
    (accepted : ∀ reason, session.faults.head?.join ≠ some (.refused reason))
    (outcome : action session.world.db = .ok (value, db)) :
    ((statement label action).exec session).2.world =
      { session.world with db } := by
  rw [exec_statement, outcome]
  cases fate : session.faults.head?.join with
  | none => rfl
  | some fault =>
    cases fault with
    | refused reason => exact absurd fate (accepted reason)
    | lost reason => rfl

theorem statement_world_of_refused (refused : session.faults.head?.join = some (.refused reason)) :
    ((statement label action).exec session).2.world = session.world := by
  rw [exec_statement, refused]
  rfl

/-- A statement that reads. -/
def query (label : String) (answer : Database → Value) : Method Value :=
  statement label (fun db => .ok (answer db, db))

theorem query_world (label : String) (answer : Database → Value)
    (session : Session) :
    ((query label answer).exec session).2.world = session.world := by
  rcases statement_world with same | ⟨value, db, action, changed⟩
  · exact same
  · rw [query, changed]
    cases action
    rfl

theorem query_ok_iff :
    (query label answer).exec session = (.ok value, reached) ↔
      session.faults.head?.join = none ∧
        value = answer session.world.db ∧
          reached = session.afterStatement session.world.db := by
  rw [query, statement_ok_iff]
  constructor
  · rintro ⟨fate, db, outcome, rfl⟩
    cases outcome
    exact ⟨fate, rfl, rfl⟩
  · rintro ⟨fate, rfl, rfl⟩
    exact ⟨fate, _, rfl, rfl⟩

theorem query_ok (success : (query label answer).exec session = (.ok value, reached)) :
    value = answer session.world.db ∧ reached.world = session.world := by
  obtain ⟨_, answered, rfl⟩ := query_ok_iff.mp success
  exact ⟨answered, rfl⟩

/-- A read hands over its answer, or fails with the world unchanged. -/
theorem query_ends (unread : ∀ reached, reached.world = session.world → failed reached) :
    (query label answer).Ends session (fun value reached =>
        value = answer session.world.db ∧ reached.world = session.world) failed := by
  refine .of_exec ?_ (unread _ (query_world _ _ _))
  intro value reached success
  exact query_ok success

end

/-! ## Methods that only read -/

/--
The method leaves this world alone, and an answer satisfies the fact.
-/
def Reads {Value : Type} (method : Method Value) (world : World)
    (fact : Value → Prop) : Prop :=
  ∀ session : Session, session.world = world →
    method.Ends session (fun value reached => fact value ∧ reached.world = world)
      (·.world = world)

namespace Reads

variable {Value Result : Type} {fact : Value → Prop}
    {next : Value → Method Result}

theorem query :
    Reads (query label answer) world (fun value => value = answer world.db) := by
  rintro session rfl
  exact query_ends fun _ => id

theorem pure (holds : fact value) : Reads (Pure.pure value) world fact :=
  fun _ here => .pure ⟨holds, here⟩

theorem ensure {condition : Prop} [Decidable condition] {failure} :
    Reads (Program.ensure condition failure) world (fun _ => condition) := by
  intro session here
  unfold Program.ensure
  split
  · exact .pure ⟨‹condition›, here⟩
  · exact here

theorem require {failure} :
    Reads (Program.require value failure) world (fun present => value = some present) :=
  fun _ here => .require (fun _ found => ⟨found, here⟩) here

theorem lift :
    Reads (Program.lift result) world (fun value => result = .ok value) := by
  intro session here
  cases result with
  | ok value => exact ⟨rfl, here⟩
  | error failure => exact here

theorem bind (first : Reads method world fact)
    (rest : ∀ value, fact value → Reads (next value) world outcome) :
    Reads (method >>= next) world outcome := by
  intro session here
  refine .bind _ (first session here) ?_
  rintro value reached ⟨holds, still⟩
  exact rest value holds reached still

theorem weaken (reads : Reads method world fact)
    (imply : ∀ value, fact value → weaker value) :
    Reads method world weaker := by
  intro session here
  exact (reads session here).weaken fun value _ holds => ⟨imply value holds.1, holds.2⟩

/-- The world is the same however the method ends. -/
theorem unchanged (reads : Reads method session.world fact) :
    (method.exec session).2.world = session.world :=
  ((reads session rfl).weaken fun _ _ holds => holds.2).final

theorem ended
    (reads : Reads method session.world fact)
    (ending : method.exec session = (result, reached)) :
    reached.world = session.world := by
  rw [← reads.unchanged, ending]

/-- An answer satisfies the fact. -/
theorem answered (reads : Reads method session.world fact)
    (success : method.exec session = (.ok value, reached)) :
    fact value ∧ reached.world = session.world :=
  (reads session rfl).answered success

/-- A method that reads first emits what the rest emits. -/
theorem emits_bind {Step} (reads : Reads method world fact)
    (rest : ∀ value faults, fact value → (next value).Emits Session.world Step ⟨world, faults⟩) :
    (method >>= next).Emits Session.world Step ⟨world, faults⟩ := by
  refine .bind (.of_unchanged reads.unchanged) ?_
  rintro value ⟨reached, faults⟩ success
  obtain ⟨holds, rfl⟩ := reads.answered success
  exact rest value faults holds

/-- A method that reads first ends as the rest does. -/
theorem ends_bind (reads : Reads method world fact)
    (unread : ∀ faults, failed ⟨world, faults⟩)
    (rest : ∀ value faults, fact value → (next value).Ends ⟨world, faults⟩ success failed) :
    (method >>= next).Ends ⟨world, faults⟩ success failed := by
  refine .bind _ ((reads _ rfl).imply (fun _ _ => id) ?_) ?_
  · rintro ⟨_, faults⟩ rfl
    exact unread faults
  · rintro value ⟨_, faults⟩ ⟨holds, rfl⟩
    exact rest value faults holds

end Reads

/-! ## Transactions -/

/-- How the commit of a transaction with a given fate ends. -/
private def close (before : World) (session : Session) :
    Option Fault → Except WorkflowError Unit × Session
  | none => (.ok (), ⟨session.world, session.faults.tail⟩)
  | some (.lost reason) =>
    (.error (.storage ("commit workflow store transaction failed: " ++ reason)),
      ⟨session.world, session.faults.tail⟩)
  | some (.refused reason) =>
    (.error (.storage ("commit workflow store transaction failed: " ++ reason)),
      ⟨before, session.faults.tail⟩)

/--
Run statements and commit them.  A failing statement and a refused commit
leave the world as it was before the first of them.
-/
def undoable (body : Method Unit) : Method Unit :=
  ExceptT.mk fun session =>
    match body.exec session with
    | (.error failure, reached) => (.error failure, ⟨session.world, reached.faults⟩)
    | (.ok _, reached) => close session.world reached reached.faults.head?.join

/-- Run statements between `BEGIN` and `COMMIT`. -/
def transaction (body : Method Unit) : Method Unit := do
  query "begin workflow store transaction failed" (fun _ => ())
  undoable body

private theorem exec_undoable (body : Method Unit) (session : Session) :
    (undoable body).exec session = match body.exec session with
      | (.error failure, reached) => (.error failure, ⟨session.world, reached.faults⟩)
      | (.ok _, reached) => close session.world reached reached.faults.head?.join :=
  rfl

variable {session : Session} {reached : Session}

private theorem close_ok_iff :
    close before session fate = (.ok (), reached) ↔
      fate = none ∧ reached = ⟨session.world, session.faults.tail⟩ := by
  rcases fate with _ | ⟨_ | _⟩ <;> simp [close, eq_comm]

/--
A transaction answers exactly when its statements do and neither its start
nor its commit is hit by a fault.
-/
theorem transaction_ok_iff :
    (transaction body).exec session = (.ok (), reached) ↔
      session.faults.head?.join = none ∧ ∃ left,
          body.exec (session.afterStatement session.world.db) = (.ok (), left) ∧
          left.faults.head?.join = none ∧
            reached = ⟨left.world, left.faults.tail⟩ := by
  rw [transaction, Program.exec_bind_ok_iff]
  constructor
  · rintro ⟨_, entered, began, rest⟩
    obtain ⟨fate, _, rfl⟩ := query_ok_iff.mp began
    rw [exec_undoable] at rest
    refine ⟨fate, ?_⟩
    cases outcome : body.exec (session.afterStatement session.world.db) with
    | mk result left =>
      rw [outcome] at rest
      cases result with
      | error failure => cases rest
      | ok value => exact ⟨left, rfl, close_ok_iff.mp rest⟩
  · rintro ⟨fate, left, ran, committed, rfl⟩
    refine ⟨(), _, query_ok_iff.mpr ⟨fate, rfl, rfl⟩, ?_⟩
    rw [exec_undoable, ran]
    exact close_ok_iff.mpr ⟨committed, rfl⟩

/-- A transaction that answers has done all that its statements do. -/
theorem transaction_ok (success : (transaction body).exec session = (.ok (), reached)) :
    ∃ entered left, entered.world = session.world ∧
      body.exec entered = (.ok (), left) ∧ reached.world = left.world := by
  obtain ⟨_, left, ran, _, rfl⟩ := transaction_ok_iff.mp success
  exact ⟨session.afterStatement session.world.db, left, rfl, ran, rfl⟩

/-- The fate of a statement that is not carried out. -/
def Fault.Refuses (fate : Option Fault) : Prop :=
  ∃ reason, fate = some (.refused reason)

private theorem close_of_not_refused (kept : ¬Fault.Refuses fate) :
    (close before session fate).2 = ⟨session.world, session.faults.tail⟩ ∧
      ((close before session fate).1 = .ok () ↔ fate = none) := by
  rcases fate with _ | ⟨reason | reason⟩
  · simp [close]
  · exact absurd ⟨reason, rfl⟩ kept
  · simp [close]

/-- A transaction that begins, runs and is not refused has its effect. -/
theorem transaction_commits (began : session.faults.head?.join = none)
    (ran : body.exec (session.afterStatement session.world.db) =
      (.ok (), left)) (kept : ¬Fault.Refuses left.faults.head?.join) :
    ((transaction body).exec session).2 = ⟨left.world, left.faults.tail⟩ ∧
      (((transaction body).exec session).1 = .ok () ↔ left.faults.head?.join = none) := by
  rw [transaction, exec_bind_ok (query_ok_iff.mpr ⟨began, rfl, rfl⟩), exec_undoable, ran]
  exact close_of_not_refused kept

/-- A transaction without effect has failed. -/
theorem transaction_fails
    (undone : session.faults.head?.join = none → ∀ left,
      body.exec (session.afterStatement session.world.db) =
        (.ok (), left) → Fault.Refuses left.faults.head?.join) :
    ((transaction body).exec session).2.world = session.world ∧
      ((transaction body).exec session).1 ≠ .ok () := by
  have unanswered : ((transaction body).exec session).1 ≠ .ok () := by
    intro answered
    obtain ⟨began, left, ran, committed, _⟩ := transaction_ok_iff.mp (Prod.ext answered rfl)
    obtain ⟨_, refused⟩ := undone began left ran
    rw [refused] at committed
    cases committed
  refine ⟨?_, unanswered⟩
  by_cases began : session.faults.head?.join = none
  · rw [transaction, exec_bind_ok (query_ok_iff.mpr ⟨began, rfl, rfl⟩), exec_undoable]
    cases outcome : body.exec (session.afterStatement session.world.db) with
    | mk result left =>
      cases result with
      | error failure => rfl
      | ok value =>
        obtain ⟨_, refused⟩ := undone began left outcome
        dsimp only
        rw [refused]
        rfl
  · have unread := query_world "begin workflow store transaction failed" (fun _ => ()) session
    rw [transaction, exec_bind]
    cases began' : (query "begin workflow store transaction failed" (fun _ => ())).exec session with
    | mk result entered =>
      rw [began'] at unread
      cases result with
      | error failure => exact unread
      | ok value => exact absurd (query_ok_iff.mp began').1 began

/-- A transaction does nothing visible or all that its statements do. -/
theorem transaction_world :
    ((transaction body).exec session).2.world = session.world ∨
      ∃ entered left, entered.world = session.world ∧ body.exec entered = (.ok (), left) ∧
        ((transaction body).exec session).2.world = left.world := by
  by_cases commits : session.faults.head?.join = none ∧ ∃ left,
      body.exec (session.afterStatement session.world.db) = (.ok (), left) ∧
        ¬Fault.Refuses left.faults.head?.join
  · obtain ⟨began, left, ran, kept⟩ := commits
    refine .inr ⟨session.afterStatement session.world.db, left, rfl, ran, ?_⟩
    rw [(transaction_commits began ran kept).1]
  · refine .inl (transaction_fails fun began left ran => ?_).1
    exact of_not_not fun kept => commits ⟨began, left, ran, kept⟩

/-! ## Methods that write -/

/--
The method carries out its change as a whole or not at all, and it has
carried it out when it answers.
-/
def Changes {Value : Type} (method : Method Value)
    (change : World → World → Prop) : Prop :=
  ∀ session : Session, method.Ends session (fun _ reached => change session.world reached.world)
      (fun reached => reached.world = session.world ∨ change session.world reached.world)

namespace Changes

variable {Value : Type} {method : Method Value} {change : World → World → Prop}

theorem statement {action : Database → Except String (Value × Database)}
    (acts : ∀ {world value db}, action world.db = .ok (value, db) →
      change world { world with db }) :
    Changes (statement label action) change := by
  intro session
  refine .of_exec ?_ ?_
  · intro value reached success
    obtain ⟨db, outcome, world⟩ := statement_ok success
    rw [world]
    exact acts outcome
  · rcases statement_world with same | ⟨value, db, outcome, world⟩
    · exact .inl same
    · rw [world]
      exact .inr (acts outcome)

theorem transaction
    (acts : ∀ {entered left}, body.exec entered = (.ok (), left) →
      change entered.world left.world) : Changes (transaction body) change := by
  intro session
  refine .of_exec ?_ ?_
  · intro _ reached success
    obtain ⟨entered, left, opened, ran, world⟩ := transaction_ok success
    rw [world, ← opened]
    exact acts ran
  · rcases transaction_world with same | ⟨entered, left, opened, ran, world⟩
    · exact .inl same
    · rw [world, ← opened]
      exact .inr (acts ran)

theorem query (rest : ∀ value, Changes (next value) change) :
    Changes (query label answer >>= next) change := by
  intro session
  refine .bind _ (query_ends fun _ => .inl) ?_
  rintro value reached ⟨_, same⟩
  rw [← same]
  exact rest value reached

section

variable (changes : Changes method change)
include changes

/-- The change is there or not, however the method ends. -/
theorem world :
    (method.exec session).2.world = session.world ∨
      change session.world (method.exec session).2.world := by
  have ends := changes session
  unfold Ends at ends
  cases equality : method.exec session with
  | mk outcome reached =>
    rw [equality] at ends
    cases outcome with
    | ok value => exact .inr ends
    | error failure => exact ends

/-- What the change keeps holds however the method ends. -/
theorem leaves (holds : World → Prop)
    (before : holds session.world)
    (kept : ∀ {after}, change session.world after → holds after) :
    holds (method.exec session).2.world := by
  rcases changes.world with same | changed
  · rwa [same]
  · exact kept changed

/-- The change is at most one step. -/
theorem emits {Step}
    (step : ∀ {after}, change session.world after → Step session.world after) :
    method.Emits Session.world Step session := by
  rcases changes.world with same | changed
  · exact .of_unchanged same
  · exact .single (step changed)

theorem answered (success : method.exec session = (.ok value, reached)) :
    change session.world reached.world :=
  (changes session).answered success

end

end Changes

/-- Without faults the method answers, with this value and world. -/
def Answers {Value : Type} (method : Method Value) (world : World)
    (fact : Value → World → Prop) : Prop :=
  ∃ value after, method.exec ⟨world, []⟩ = (.ok value, ⟨after, []⟩) ∧ fact value after

namespace Answers

variable {Value Result : Type} {fact : Value → World → Prop}

theorem pure (holds : fact value world) :
    Answers (Pure.pure value) world fact :=
  ⟨value, world, rfl, holds⟩

theorem ensure {condition : Prop} [Decidable condition]
    {failure} (holds : condition) :
    Answers (Program.ensure condition failure) world (fun _ after => after = world) :=
  ⟨(), world, Program.exec_ensure_of holds _, rfl⟩

theorem statement (value : Value) (db : Database)
    (outcome : action world.db = .ok (value, db)) :
    Answers (statement label action) world (fun found after =>
        found = value ∧ after = { world with db }) :=
  ⟨value, { world with db }, statement_ok_iff.mpr ⟨rfl, db, outcome, rfl⟩, rfl, rfl⟩

theorem query (world : World) :
    Answers (query label answer) world
      (fun found after => found = answer world.db ∧ after = world) :=
  ⟨answer world.db, world, query_ok_iff.mpr ⟨rfl, rfl, rfl⟩, rfl, rfl⟩

theorem bind (first : Answers method world fact)
    (rest : ∀ value after, fact value after → Answers (next value) after outcome) :
    Answers (method >>= next) world outcome := by
  obtain ⟨value, after, answered, holds⟩ := first
  obtain ⟨result, final, rested, final_holds⟩ := rest value after holds
  refine ⟨result, final, ?_, final_holds⟩
  rwa [exec_bind_ok answered]

theorem transaction {fact} (ran : Answers body world fact) :
    Answers (transaction body) world fact := by
  obtain ⟨value, after, answered, holds⟩ := ran
  exact ⟨value, after, transaction_ok_iff.mpr ⟨rfl, ⟨after, []⟩, answered, rfl, rfl⟩, holds⟩

/-- What each item establishes, and later items keep, holds of all. -/
theorem forEach_establishes {Item Report : Type}
    {action : Item → Method (List Report)} {items}
    (kept : World → Prop) (established : Item → World → Prop)
    (each : ∀ item ∈ items, ∀ reached, kept reached → Answers (action item) reached (fun _ after =>
        kept after ∧ established item after ∧
          ∀ other, established other reached → established other after))
    (initial : kept world) :
    Answers (Program.forEach action items) world (fun _ after => kept after ∧
        (∀ item ∈ items, established item after) ∧
        ∀ other, established other world → established other after) := by
  induction items generalizing world with
  | nil => exact .pure ⟨initial, by simp, fun _ => id⟩
  | cons item rest ih =>
    refine .bind (each item (by simp) world initial) ?_
    rintro reports after ⟨stillKept, here, onward⟩
    refine .bind (ih (fun other member => each other (by simp [member])) stillKept) ?_
    rintro others final ⟨finallyKept, all, still⟩
    refine .pure ⟨finallyKept, ?_, fun other holds => still other (onward other holds)⟩
    intro other member
    rcases List.mem_cons.mp member with rfl | later
    · exact still _ here
    · exact all other later

theorem weaken (answers : Answers method world fact)
    (imply : ∀ value after, fact value after → weaker value after) :
    Answers method world weaker := by
  obtain ⟨value, after, answered, holds⟩ := answers
  exact ⟨value, after, answered, imply value after holds⟩

end Answers

end Jackin.Workflow
