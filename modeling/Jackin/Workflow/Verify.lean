import Jackin.Foundation.Result
import Jackin.Foundation.Text
import Jackin.Workflow.Store

/-!
# Verification of a candidate

What the service asks of its surroundings, and the checks it makes on the
answers: a test policy is frozen and hashed, a worker checkout is pinned to
the checkpoint's commit and tree, a review must name exactly the candidate
under review, and `decideCandidate` weighs the collected evidence.

Of git only one fact is used: `rev-parse HEAD` prints hexadecimal digits.
-/

namespace Jackin.Workflow

open Foundation Result

/-! ## Surroundings -/

structure TestBundleFile where
  logicalPath : String
  digest : String

/-- The check that a candidate has to pass. -/
structure TestPolicy where
  argv : List String
  timeoutSecs : Nat
  policyHash : String

/-- A worker with the candidate checked out. -/
structure PreparedTestWorker where
  workerId : String
  workDir : String
  commit : String
  tree : String

structure TestExecution where
  exitCode : Int
  timedOut : Bool
  stdout : List UInt8
  stderr : List UInt8

inductive Severity where
  | blocker
  | major
  | minor
  | note
  deriving DecidableEq

structure ReviewFinding where
  id : String
  severity : Severity
  path : String
  lineStart : Option Nat
  lineEnd : Option Nat
  explanation : String
  suggestion : String

inductive ReviewStatus where
  | pass
  | fail
  deriving DecidableEq

/-- The verdict a review status is stored as. -/
def ReviewStatus.verdict : ReviewStatus → Verdict
  | .pass => .pass
  | .fail => .fail

structure ReviewResult where
  schemaVersion : Nat
  candidateId : String
  commit : String
  tree : String
  status : ReviewStatus
  findings : List ReviewFinding

/-- Why a file could not be read. -/
inductive FileError where
  | notFound
  | other (reason : String)

/--
What one call sees outside of the database: git, files, the test sandbox,
hashing, decoding, fresh identifiers and the clock.
-/
structure Environment where
  git : String → List String → Except WorkflowError String
  headIsObjectName : ∀ dir head,
    git dir ["rev-parse", "HEAD"] = .ok head → Text.isHexadecimal head
  readFile : String → Except String (List UInt8)
  fileLength : String → Except FileError Nat
  isDirectory : String → Bool
  pathExists : String → Bool
  createDirectory : String → Except String Unit
  runTestCommand : TestPolicy → PreparedTestWorker →
    List TestBundleFile → Except WorkflowError TestExecution
  writeArtifact : String → List UInt8 → Except WorkflowError Unit
  verifyArtifact : String → String → Except WorkflowError Bool
  sha256Hex : List UInt8 → String
  parseReview : List UInt8 → Except String ReviewResult
  freshId : String
  now : Int

/-! ## Test policy and worker -/

/-- The bytes of a text. -/
def textBytes (text : String) : List UInt8 := text.toUTF8.data.toList

/-- The eight bytes of a number, most significant first. -/
def bigEndianBytes (value : Nat) : List UInt8 :=
  (List.range 8).map fun index => UInt8.ofNat (value / 256 ^ (7 - index))

def testSandboxImage : String :=
  "python@sha256:" ++ "1b668429b3511ab407d8e00648891631b0b1a4d7e15e3ca70f38ab5b91ad4ab4"

/-- The sandbox settings that are part of every policy hash. -/
def sandboxSettings : String :=
  String.ofList [Char.ofNat 0] ++
    "sandbox-wrapper-v1;watchdog-grace=5s;network=none;readonly-root;" ++
    "cap-drop=all;memory=536870912;cpus=1;pids=64;trusted-ro;" ++
    "candidate-ro;tmpfs=/tmp:64m,/build:256m;" ++
    "env=PYTHONDONTWRITEBYTECODE=1" ++
    String.ofList [Char.ofNat 0]

/-- The bytes a policy hash is taken of. -/
def policyBytes (argv : List String) (timeoutSecs : Nat) : List UInt8 :=
  argv.flatMap (fun part => textBytes part ++ [0]) ++ textBytes testSandboxImage ++
    textBytes sandboxSettings ++ bigEndianBytes timeoutSecs

def TestPolicy.freeze (env : Environment) (argv : List String)
    (timeoutSecs : Nat) : Except WorkflowError TestPolicy :=
  if argv.isEmpty || argv.any Text.isBlank then
    .error (.invalid "frozen test policy needs a non-empty exact argv")
  else if ¬(1 ≤ timeoutSecs ∧ timeoutSecs ≤ 3600) then
    .error (.invalid "frozen test policy timeout must be within 1..=3600 seconds")
  else .ok ⟨argv, timeoutSecs, env.sha256Hex (policyBytes argv timeoutSecs)⟩

structure TestWorkerSpec where
  workerId : String
  candidateId : String
  commit : String
  tree : String
  policyHash : String
  timeoutSecs : Nat

def workerIdOf (runId : String) (round : Nat) (candidate : String) : String :=
  "test-" ++ runId ++ "-r" ++ toString round ++ "-" ++ candidate

/-- The first of the labelled values that is not a path-safe token. -/
def unsafeLabel (values : List (String × String)) : Option String :=
  (values.find? (fun entry => !Text.isPathSafe entry.2)).map Prod.fst

def TestWorkerSpec.new (runId : String) (round : Nat)
    (candidateId commit tree : String) (policy : TestPolicy) :
    Except WorkflowError TestWorkerSpec :=
  match unsafeLabel
      [("run", runId), ("candidate", candidateId), ("commit", commit), ("tree", tree)] with
  | some label =>
    .error (.invalid ("test worker " ++ label ++ " must be a single non-empty path-safe token"))
  | none =>
    .ok ⟨workerIdOf runId round candidateId, candidateId, commit, tree,
      policy.policyHash, policy.timeoutSecs⟩

theorem TestWorkerSpec.new_names {round} {candidateId commit tree}
    (made : TestWorkerSpec.new runId round candidateId commit tree policy = .ok spec) :
    spec.candidateId = candidateId ∧ spec.commit = commit ∧ spec.tree = tree := by
  unfold TestWorkerSpec.new at made
  split at made
  · cases made
  · cases made
    exact ⟨rfl, rfl, rfl⟩

/-- Append a relative path to a directory. -/
def joinPath (base child : String) : String :=
  if child.toList.head? = some '/' then child
  else if base.isEmpty || base.toList.getLast? = some '/' then base ++ child
  else base ++ "/" ++ child

/-- Clone the repository and pin the worker to the commit and tree. -/
def prepareTestWorker (env : Environment) (repo : String)
    (spec : TestWorkerSpec) (scratchRoot : String) :
    Except WorkflowError PreparedTestWorker := do
  require (env.isDirectory repo) (.notFound
    ("test worker source repository " ++ repo ++ " does not exist"))
  (env.createDirectory scratchRoot).mapError fun reason =>
    .storage ("create test worker scratch root failed: " ++ reason)
  let workDir := joinPath scratchRoot spec.workerId
  require (!env.pathExists workDir) (.invalid
    ("test worker directory " ++ workDir ++ " already exists; workers are single-use"))
  let _ ← env.git scratchRoot
    ["clone", "--no-hardlinks", "--no-checkout", "--", repo, spec.workerId]
  let _ ← env.git workDir ["checkout", "--detach", spec.commit]
  let head ← env.git workDir ["rev-parse", "HEAD"]
  require (head = spec.commit) (.storage
    ("test worker HEAD " ++ head ++ " does not match checkpoint " ++ spec.commit))
  let tree ← env.git workDir ["rev-parse", "HEAD^\x7btree\x7d"]
  require (tree = spec.tree) (.storage
    ("test worker tree " ++ tree ++ " does not match checkpoint " ++ spec.tree))
  let dirty ← env.git workDir ["status", "--porcelain"]
  require dirty.isEmpty (.storage "test worker checkout is not clean after pinning the checkpoint")
  return ⟨spec.workerId, workDir, head, tree⟩

/-- Git names the commit and the tree of the worker, and no change to them. -/
structure PreparedTestWorker.Pinned (worker : PreparedTestWorker)
    (env : Environment) : Prop where
  head : env.git worker.workDir ["rev-parse", "HEAD"] = .ok worker.commit
  tree : env.git worker.workDir ["rev-parse", "HEAD^\x7btree\x7d"] = .ok worker.tree
  clean : env.git worker.workDir ["status", "--porcelain"] = .ok ""

/-- A prepared worker stands at the commit and tree it was asked for. -/
theorem prepareTestWorker_pinned
    (prepared : prepareTestWorker env repo spec scratchRoot = .ok worker) :
    worker.commit = spec.commit ∧ worker.tree = spec.tree ∧ worker.Pinned env := by
  simp only [prepareTestWorker, bind_eq_ok, require_eq_ok, pure_eq_ok, exists_const] at prepared
  obtain ⟨_, _, _, _, _, _, _, _, head, printed, rfl, tree, printedTree, rfl,
    dirty, status, empty, rfl⟩ := prepared
  rw [String.isEmpty_iff.mp empty] at status
  exact ⟨rfl, rfl, printed, printedTree, status⟩

/-- The verdict of one execution of a worker. -/
structure TestResult where
  candidateId : String
  commit : String
  tree : String
  policyHash : String
  workerId : String
  exitCode : Int
  passed : Bool

def TestResult.fromExecution (spec : TestWorkerSpec)
    (policy : TestPolicy) (execution : TestExecution) : TestResult where
  candidateId := spec.candidateId
  commit := spec.commit
  tree := spec.tree
  policyHash := policy.policyHash
  workerId := spec.workerId
  exitCode := execution.exitCode
  passed := execution.exitCode == 0 && !execution.timedOut

/-- The outcome line of an execution's artifact. -/
def TestExecution.exitLabel (execution : TestExecution) : String :=
  if execution.timedOut then "timeout"
  else if execution.exitCode < 0 then "signal"
  else "exit " ++ toString execution.exitCode

/-- The bytes of the artifact that keeps an execution's output. -/
def testOutputBytes (candidate : String)
    (execution : TestExecution) : List UInt8 :=
  textBytes ("candidate " ++ candidate ++ " " ++ execution.exitLabel ++
      "\n--- stdout ---\n") ++
    execution.stdout ++ textBytes "\n--- stderr ---\n" ++
    execution.stderr

/-- The row a test verdict is stored as. -/
def testEvidence (runId : String) (result : TestResult)
    (artifactDigest : String) : StoredEvidence where
  runId := runId
  candidate := result.candidateId
  kind := .test
  source := "trusted-test-worker"
  quality := "host-observed"
  result := if result.passed then .pass else .fail
  policyHash := some result.policyHash
  artifactDigest := some artifactDigest

/-- Logical path and digest in the order of their code points. -/
def bundleOrder (left right : TestBundleFile) : Bool :=
  decide ((left.logicalPath, left.digest) = (right.logicalPath, right.digest) ∨ left.logicalPath <
    right.logicalPath ∨ left.logicalPath = right.logicalPath ∧ left.digest < right.digest)

def bundleManifestDigest (env : Environment)
    (files : List TestBundleFile) : String :=
  env.sha256Hex ((files.mergeSort bundleOrder).flatMap fun file =>
    textBytes file.logicalPath ++ [0] ++ textBytes file.digest ++ [0])

/-! ## Reviews -/

def maxReviewBytes : Nat := 64 * 1024

private def reviewTooLong (length : Nat) : WorkflowError :=
  .invalid ("review result is " ++ toString length ++
    " bytes; the limit is " ++ toString maxReviewBytes)

def readReviewBytes (env : Environment)
    (path : String) : Except WorkflowError (List UInt8) := do
  let length ← (env.fileLength path).mapError fun
    | .notFound => .notFound ("review result " ++ path ++
        " is missing; a missing review blocks acceptance")
    | .other reason => .storage ("read review result " ++ path ++ " failed: " ++ reason)
  require (length ≤ maxReviewBytes) (reviewTooLong length)
  let bytes ← (env.readFile path).mapError fun reason =>
    .storage ("read review result " ++ path ++ " failed: " ++ reason)
  require (bytes.length ≤ maxReviewBytes) (reviewTooLong bytes.length)
  return bytes

/-- The parts of a text between separators. -/
def splitOnChar (separator : Char) : List Char → List (List Char)
  | [] => [[]]
  | character :: rest =>
    if character = separator then [] :: splitOnChar separator rest
    else
      match splitOnChar separator rest with
      | part :: parts => (character :: part) :: parts
      | [] => [[character]]

def validRelativePath (path : String) : Bool :=
  !(path.isEmpty || 512 < path.utf8ByteSize || path.toList.head? == some '/') &&
    !(splitOnChar '/' path.toList).any (fun part => part.isEmpty || part == ['.', '.'])

/-- What a review must name. -/
structure ReviewExpectation where
  candidateId : String
  commit : String
  tree : String

/-- One field of a review must repeat what is under review. -/
def checkReviewField (label actual wanted : String) : Except WorkflowError Unit :=
  require (¬Text.isBlank actual ∧ actual = wanted) (.invalid
    ("review " ++ label ++ " does not name the candidate under review"))

/-- A line range is 1-based and ordered, and an end needs a start. -/
def checkLineRange : Option Nat → Option Nat → Except WorkflowError Unit
  | some 0, _ | _, some 0 => .error (.invalid "review line numbers are 1-based")
  | some start, some stop =>
    require (start ≤ stop) (.invalid "review line range ends before it starts")
  | none, some _ => .error (.invalid "review line_end needs a line_start")
  | _, none => .ok ()

def checkFindingText (label text : String) : Except WorkflowError Unit :=
  require (¬Text.isBlank text ∧ text.utf8ByteSize ≤ 4096) (.invalid
    ("review finding " ++ label ++ " must be non-empty and at most 4096 bytes"))

def validateFinding (finding : ReviewFinding) : Except WorkflowError Unit := do
  require (¬Text.isBlank finding.id ∧ finding.id.utf8ByteSize ≤ 128) (.invalid
    "review finding needs a non-empty id of at most 128 bytes")
  require (validRelativePath finding.path) (.invalid
    ("review finding path " ++ finding.path.quote ++ " is outside the candidate source"))
  checkLineRange finding.lineStart finding.lineEnd
  checkFindingText "explanation" finding.explanation
  checkFindingText "suggestion" finding.suggestion

/-- The verdict must agree with the findings it carries. -/
def checkReviewStatus (result : ReviewResult) : Except WorkflowError Unit :=
  match result.status with
  | .pass =>
    require (result.findings.all fun finding => finding.severity == .note)
      (.invalid ("a passing review must not carry blocker, major, or minor " ++ "findings"))
  | .fail =>
    require (!result.findings.isEmpty) (.invalid "a failing review needs at least one finding")

def validateReview (env : Environment) (bytes : List UInt8)
    (expected : ReviewExpectation) : Except WorkflowError ReviewResult := do
  require (bytes.length ≤ maxReviewBytes) (reviewTooLong bytes.length)
  let result ← (env.parseReview bytes).mapError fun reason =>
    .invalid ("review result is not valid review JSON: " ++ reason)
  require (result.schemaVersion = 1) (.invalid
    ("review schema_version is " ++ toString result.schemaVersion ++
      "; only version 1 is accepted"))
  checkReviewField "candidate_id" result.candidateId expected.candidateId
  checkReviewField "commit" result.commit expected.commit
  checkReviewField "tree" result.tree expected.tree
  require (result.findings.length ≤ 256) (.invalid "review carries more than 256 findings")
  result.findings.forM validateFinding
  checkReviewStatus result
  return result

/-- What is read as a review stands in its file. -/
theorem readReviewBytes_read (read : readReviewBytes env path = .ok bytes) :
    env.readFile path = .ok bytes := by
  simp only [readReviewBytes, bind_eq_ok, require_eq_ok, mapError_eq_ok, pure_eq_ok,
    exists_const] at read
  obtain ⟨_, _, _, _, stands, _, rfl⟩ := read
  exact stands

/-- A valid review is what its bytes say, and names what is under review. -/
theorem validateReview_names (valid : validateReview env bytes expected = .ok result) :
    env.parseReview bytes = .ok result ∧ result.candidateId = expected.candidateId ∧
      result.commit = expected.commit ∧ result.tree = expected.tree := by
  simp only [validateReview, checkReviewField, bind_eq_ok, require_eq_ok, mapError_eq_ok,
    pure_eq_ok, exists_const] at valid
  obtain ⟨_, _, parsed, _, ⟨_, candidate⟩, ⟨_, commit⟩, ⟨_, tree⟩, _, _, _, _, _, rfl⟩ := valid
  exact ⟨parsed, candidate, commit, tree⟩

def reviewAcceptable (result : ReviewResult) : Bool :=
  result.status == .pass && result.findings.all (·.severity == .note)

/-- The row a review verdict is stored as. -/
def reviewEvidence (runId candidate policyHash : String)
    (result : ReviewResult) (artifactDigest : String) : StoredEvidence where
  runId := runId
  candidate := candidate
  kind := .review
  source := "independent-review-worker"
  quality := "host-validated"
  result := result.status.verdict
  policyHash := some policyHash
  artifactDigest := some artifactDigest

/-- The tree of a clean checkout whose head is the given commit. -/
def verifySource (env : Environment) (localPath commit candidate : String) :
    Except WorkflowError String := do
  require (¬Text.isBlank commit) (.invalid "checkpoint commit is required")
  let head ← env.git localPath ["rev-parse", "HEAD"]
  require (head = commit) (.blocked ("local source HEAD " ++ head ++
    " does not match candidate `" ++ candidate ++ "` commit " ++ commit))
  let tree ← env.git localPath ["rev-parse", "HEAD^\x7btree\x7d"]
  let dirty ← env.git localPath ["status", "--porcelain"]
  require dirty.isEmpty (.blocked ("local source for candidate `" ++ candidate ++
      "` has uncommitted changes; commit the candidate first"))
  return tree

/-- A verified commit is an object name. -/
theorem verifySource_hexadecimal
    (verified : verifySource env localPath commit candidate = .ok tree) :
    Text.isHexadecimal commit := by
  simp only [verifySource, bind_eq_ok, require_eq_ok, exists_const] at verified
  obtain ⟨_, head, printed, rfl, _⟩ := verified
  exact env.headIsObjectName localPath head printed

/-- A candidate and its commit. -/
structure CandidateRef where
  candidateId : String
  commit : String
  tree : String
  generation : Nat
  deriving DecidableEq

structure VerificationOutcome where
  testPassed : Bool
  reviewAcceptable : Bool
  testPolicyHash : String
  expectedPolicyHash : String

structure HostReadiness where
  sourceCurrent : Bool
  backupSatisfied : Bool

structure InputOwnership where
  hostOwned : Bool
  epochCurrent : Bool
  uncertaintyPending : Bool

/-- What a decision rests on. -/
structure CandidateEvidence where
  candidate : CandidateRef
  current : CandidateRef
  verification : VerificationOutcome
  readiness : HostReadiness
  ownership : InputOwnership
  round : Nat
  maxRepairTurns : Nat

/-- What becomes of the run. -/
inductive Decision where
  | accept
  | repair
  | fail (reason : String)
  | needsOperator (reason : String)

def decideCandidate (evidence : CandidateEvidence) : Decision :=
  if Text.isBlank evidence.candidate.candidateId || Text.isBlank evidence.candidate.commit ||
      Text.isBlank evidence.candidate.tree then
    .needsOperator "incomplete candidate evidence"
  else if evidence.candidate ≠ evidence.current then
    .needsOperator ("stale evidence: the candidate moved; re-verify the current " ++ "candidate")
  else if evidence.verification.testPolicyHash ≠ evidence.verification.expectedPolicyHash then
    .needsOperator "stale evidence: the test policy changed; a new plan is required"
  else if evidence.ownership.uncertaintyPending then
    .needsOperator "unresolved delivery uncertainty blocks the decision"
  else if !evidence.ownership.epochCurrent then
    .needsOperator "owner epoch moved; automatic input from this epoch is stale"
  else if !evidence.ownership.hostOwned then
    .needsOperator ("automatic input is not host-owned; resolve input ownership " ++ "first")
  else if !evidence.readiness.sourceCurrent then
    .needsOperator "source drifted from the candidate; recapture before deciding"
  else if !evidence.readiness.backupSatisfied then
    .needsOperator "required backup has not completed"
  else if evidence.verification.testPassed && evidence.verification.reviewAcceptable then
    .accept
  else if evidence.round < evidence.maxRepairTurns then .repair
  else .fail "repair budget is exhausted with failing verification"

theorem needsOperator_else {refused : Prop} [Decidable refused]
    {rest : Decision} :
    (if refused then .needsOperator reason else rest) = .accept ↔
      ¬refused ∧ rest = .accept := by
  split <;> simp [*]

/-- What an accepting decision was based on. -/
theorem decideCandidate_accept (accepted : decideCandidate evidence = .accept) :
    evidence.verification.testPassed ∧ evidence.verification.reviewAcceptable ∧
      evidence.verification.testPolicyHash =
        evidence.verification.expectedPolicyHash ∧
      evidence.readiness.sourceCurrent ∧ evidence.readiness.backupSatisfied ∧
      evidence.ownership.uncertaintyPending = false := by
  unfold decideCandidate at accepted
  rw [needsOperator_else, needsOperator_else, needsOperator_else, needsOperator_else,
    needsOperator_else, needsOperator_else, needsOperator_else, needsOperator_else] at accepted
  grind

end Jackin.Workflow
