import Jackin.Workflow.Acceptance

/-!
# Uncertain delivery after the operator's decision

`resolve_input` writes its decision into the command's resolution and leaves
the command in the state `delivery_unknown`, and nothing ever moves it out of
that state.  The gates of resume, acceptance and recovery query commands by
state only, so a decided command keeps blocking its run, and it can be decided
again.
-/

namespace Jackin.Workflow

open Foundation Table Program

variable {runId commandId : String} {world : World} {command : StoredCommand}
    {service : Service}
    {actor : String} {session : Session}

theorem Uncertain.change (change : Change permits before after)
    (uncertain : Uncertain before runId commandId) :
    Uncertain after runId commandId := by
  cases change with
  | move move =>
    cases move with
    | commands kept =>
      obtain ⟨command, found, rfl, state⟩ := uncertain
      obtain ⟨later, laterFound, laterState, owner⟩ := kept commandId command found state
      exact ⟨later, laterFound, owner, laterState⟩
    | _ => exact uncertain
  | accept accepts =>
    obtain ⟨_, _, _, _, _, _, _, _, _, rfl⟩ := accepts
    exact uncertain

/-- The store has a run with the id. -/
def World.Stores (world : World) (runId : String) : Prop :=
  (world.db.runs.find? runId).isSome

/-- No run is deleted. -/
theorem run_kept (change : Change permits before after)
    (stored : before.Stores runId) :
    after.Stores runId := by
  have transitioned : ∀ transition epoch events effects,
      (before.transitioned transition epoch events effects).Stores runId := by
    intro transition epoch events effects
    rw [World.Stores, find?_transitioned]
    split
    · rwa [Option.isSome_map]
    · exact stored
  cases change with
  | move move =>
    cases move with
    | created _ _ inserted =>
      rw [World.Stores, find?_of_insert? inserted]
      split
      · rfl
      · exact stored
    | moved => exact transitioned _ _ _ _
    | _ => exact stored
  | accept accepts =>
    obtain ⟨_, _, _, _, _, _, _, _, _, rfl⟩ := accepts
    exact transitioned _ _ _ _

/-- A decided command and its run are still there after any history. -/
theorem uncertain_play (uncertain : Uncertain world runId commandId)
    (stored : world.Stores runId) :
    Uncertain (world.play history) runId commandId ∧
      (world.play history).Stores runId :=
  World.play_invariant (fun reached => Uncertain reached runId commandId ∧ reached.Stores runId)
    (fun _ _ _ change held => ⟨held.1.change change, run_kept change held.2⟩)
    ⟨uncertain, stored⟩ history

/-- An answered decision leaves the command uncertain, and its run stored. -/
theorem resolveInput_leaves (service : Service) (runId commandId : String)
    (decision : OperatorDecision) (actor observedSessionState : String)
    (resumes : decision ≠ .cancel) (session : Session) :
    (service.resolveInput runId commandId decision actor observedSessionState).Ends session
      (fun _ reached => Uncertain reached.world runId commandId ∧ reached.world.Stores runId)
      (fun _ => True) := by
  refine .of_exec ?_ trivial
  intro summary reached success
  have emitted : Obeys { Permits.none with queues := True }
      (service.resolveInput runId commandId decision actor observedSessionState) session :=
    resolveInput_emits (fun cancelled => absurd cancelled resumes)
      (fun cancelled => absurd cancelled resumes) fun _ => trivial
  unfold Service.resolveInput at success
  obtain ⟨_, _, inspecting, rest⟩ := exec_bind_eq_ok success
  obtain ⟨_, rfl⟩ := ensure_ok inspecting
  obtain ⟨command, _, locating, decided⟩ := exec_bind_eq_ok rest
  obtain ⟨_, found, owned, uncertain, _⟩ := requireUncertain_ok_iff.mp locating
  constructor
  · have final := emitted.invariant (fun _ _ step => Uncertain.change (.move step.move))
      ⟨command, found, owned, uncertain⟩
    rwa [Service.resolveInput, success] at final
  · have summarized : ∃ before, (summaryOf runId).exec before = (.ok summary, reached) := by
      cases decision with
      | continueFromCurrent =>
        obtain ⟨_, _, _, rest⟩ := exec_bind_eq_ok decided
        obtain ⟨_, before, _, last⟩ := exec_bind_eq_ok rest
        exact ⟨before, last⟩
      | submitNew =>
        obtain ⟨_, _, _, rest⟩ := exec_bind_eq_ok decided
        obtain ⟨_, _, _, rest⟩ := exec_bind_eq_ok rest
        obtain ⟨_, before, _, last⟩ := exec_bind_eq_ok rest
        exact ⟨before, last⟩
      | cancel => exact absurd rfl resumes
    obtain ⟨_, last⟩ := summarized
    obtain ⟨⟨_, runFound, _⟩, same⟩ := summaryOf_reads.answered last
    rw [same, World.Stores, runFound]
    rfl

theorem Uncertain.listed (uncertain : Uncertain world runId commandId) :
    world.db.commandsIn runId .deliveryUnknown ≠ [] := by
  obtain ⟨command, found, owned, state⟩ := uncertain
  have member : command ∈ world.db.commandsIn runId .deliveryUnknown := by
    refine List.mem_filter.mpr ⟨mem_of_find? found, ?_⟩
    simp [owned, state]
  intro none
  rw [none] at member
  cases member

section

variable (listed : session.world.db.commandsIn runId .deliveryUnknown ≠ [])
include listed

/-- Resume refuses a run with an uncertain command. -/
theorem resumeRun_refuses :
    (service.resumeRun runId actor).Ends session (fun _ _ => False)
      (·.world = session.world) := by
  refine requireRun_reads.ends_bind (fun _ => rfl) fun stored _ _ => ?_
  refine Reads.ensure.ends_bind (fun _ => rfl) fun _ _ _ => ?_
  refine Reads.query.ends_bind (fun _ => rfl) ?_
  rintro uncertain _ rfl
  split
  · rfl
  · rename_i none
    exact absurd none listed

/-- Acceptance refuses a run with an uncertain command. -/
theorem acceptRun_refuses {hash} :
    (service.acceptRun runId expectedVersion hash).Ends session
      (fun _ _ => False) (·.world = session.world) := by
  have unread : ∀ faults : List (Option Fault),
      (Session.mk session.world faults).world = session.world :=
    fun _ => rfl
  refine requireOpenRun_reads.ends_bind unread fun stored _ _ => ?_
  refine Reads.ensure.ends_bind unread fun _ _ _ => ?_
  refine Reads.require.ends_bind unread fun candidate _ _ => ?_
  refine findCheckpoint_reads.ends_bind unread fun checkpoint _ _ => ?_
  refine Reads.query.ends_bind unread fun evidence _ _ => ?_
  refine Reads.lift.ends_bind unread ?_
  rintro ⟨test, review⟩ _ _
  refine Reads.ensure.ends_bind unread fun _ _ _ => ?_
  refine Reads.query.ends_bind unread fun effects _ _ => ?_
  refine Reads.query.ends_bind unread ?_
  rintro uncertain _ rfl
  split
  · rename_i decided
    have certain := (decideCandidate_accept decided).2.2.2.2.2
    dsimp only [candidateEvidence] at certain
    exact absurd (by simpa using certain) listed
  · rfl
  · rfl
  · rfl

theorem advanceRun_refuses {hash} :
    (service.advanceRun runId expectedVersion "host" "verified_current"
      (some hash)).Ends session (fun _ _ => False)
      (·.world = session.world) := by
  refine Reads.require.ends_bind (fun _ => rfl) fun observer _ _ => ?_
  refine Reads.require.ends_bind (fun _ => rfl) fun observed _ observation => ?_
  cases observation
  refine Reads.ensure.ends_bind (fun _ => rfl) fun _ _ _ => ?_
  refine Reads.ensure.ends_bind (fun _ => rfl) fun _ _ _ => ?_
  apply acceptRun_refuses
  exact listed

end

/-- The operator gets the run unless it is already stopped. -/
theorem escalateToOperator_answers (found : world.db.runs.find? runId = some run) :
    Answers (service.escalateToOperator runId eventKind) world
      (fun _ after => after.db.commands = world.db.commands ∧
        ∃ later, after.db.runs.find? runId = some later ∧
          later.status = if run.status = .active then .needsOperator else run.status) := by
  refine .bind (requireRun_answers found) ?_
  rintro loaded after ⟨rfl, rfl⟩
  have key : loaded.runId = runId := key_of_find? found
  split
  · refine (apply_answers found rfl).weaken ?_
    rintro _ after ⟨events, rfl⟩
    exact ⟨rfl, _, find?_transitioned_self found key, rfl⟩
  · refine appendEvent_answers.weaken ?_
    rintro _ after ⟨events, rfl⟩
    exact ⟨rfl, loaded, found, rfl⟩

/-- Recovery makes the interrupted dispatches of a run uncertain. -/
theorem recoverDispatches_answers (stored : world.Stores runId) :
    Answers (forEach service.recoverDispatch (world.db.commandsIn runId .dispatching)) world
      (fun _ after => after.Stores runId ∧ (∀ command ∈ world.db.commandsIn runId .dispatching,
          Uncertain after runId command.commandId) ∧
        ∀ command : StoredCommand,
          Uncertain world runId command.commandId → Uncertain after runId command.commandId) := by
  refine (Answers.forEach_establishes (fun reached => reached.Stores runId ∧
      ∀ command ∈ world.db.commandsIn runId .dispatching, ∃ row,
        reached.db.commands.find? command.commandId = some row ∧ row.runId = runId)
    (fun command reached => Uncertain reached runId command.commandId)
    ?_ ⟨stored, ?_⟩).weaken ?_
  · rintro command member reached ⟨stillStored, present⟩
    obtain ⟨_, found, owned⟩ := present command member
    refine .bind (setCommandState_answers found) ?_
    rintro _ after ⟨events, rfl⟩
    refine .pure ⟨⟨stillStored, ?_⟩, ?_, ?_⟩
    · intro other otherMember
      obtain ⟨_, otherFound, otherOwned⟩ := present other otherMember
      rw [World.withCommands, find?_update, otherFound]
      split <;> exact ⟨_, rfl, otherOwned⟩
    · exact ⟨_, find?_update_self (StoredCommand.inState_commandId _ _ _) found, owned, rfl⟩
    · rintro other ⟨blocked, blockedFound, blockedOwned, state⟩
      obtain ⟨kept, keptFound, keptState, keptRun⟩ :=
        UncertaintyKept.update (.inl rfl) other.commandId blocked blockedFound state
      exact ⟨kept, keptFound, keptRun.trans blockedOwned, keptState⟩
  · intro command member
    obtain ⟨present, matching⟩ := List.mem_filter.mp member
    exact ⟨command, mem_rows_iff.mp present, by
      simpa using (Bool.and_eq_true_iff.mp matching).1⟩
  · rintro _ after ⟨⟨stillStored, _⟩, all, still⟩
    exact ⟨stillStored, all, still⟩

/-- What recovery reports for a run with an uncertain command. -/
def uncertainReport : String := "run needs_operator: uncertain input delivery"

/--
Recovery leaves a dispatching or uncertain command uncertain, and hands its
run to the operator.
-/
theorem recoverCommands_answers (found : world.db.commands.find? command.commandId = some command)
    (owned : command.runId = runId)
    (pending : command.state = .dispatching ∨ command.state = .deliveryUnknown)
    (stored : world.Stores runId) :
    Answers (service.recoverCommands runId) world (fun actions after => uncertainReport ∈ actions ∧
        Uncertain after runId command.commandId ∧
        ∃ run, after.db.runs.find? runId = some run ∧ run.status ≠ .active) := by
  refine .bind (.query world) ?_
  rintro dispatching here ⟨rfl, rfl⟩
  refine .bind (recoverDispatches_answers stored) ?_
  rintro actions after ⟨stillStored, dispatched, still⟩
  have uncertain : Uncertain after runId command.commandId := by
    rcases pending with dispatching | unknown
    · refine dispatched command (List.mem_filter.mpr ⟨mem_of_find? found, ?_⟩)
      simp [owned, dispatching]
    · exact still command ⟨command, found, owned, unknown⟩
  refine .bind (.query after) ?_
  rintro listed _ ⟨rfl, rfl⟩
  rw [if_neg (by simpa using uncertain.listed)]
  obtain ⟨_, runFound⟩ := Option.isSome_iff_exists.mp stillStored
  refine .bind (escalateToOperator_answers runFound) ?_
  rintro _ final ⟨commands, later, laterFound, status⟩
  unfold Uncertain at uncertain ⊢
  rw [← commands] at uncertain
  refine .pure ⟨by simp [uncertainReport], uncertain, later, laterFound, ?_⟩
  rw [status]
  split
  · decide
  · assumption

theorem reactivate_answers (stored : world.Stores runId) :
    Answers (service.reactivate runId actor eventKind) world
      (fun _ after => after.db.commands = world.db.commands ∧ after.Stores runId) := by
  obtain ⟨_, found⟩ := Option.isSome_iff_exists.mp stored
  refine .bind (requireRun_answers found) ?_
  rintro loaded here ⟨rfl, rfl⟩
  have key : loaded.runId = runId := key_of_find? found
  split
  · refine (apply_answers found rfl).weaken ?_
    rintro _ after ⟨events, rfl⟩
    rw [World.Stores, find?_transitioned_self found key]
    exact ⟨rfl, rfl⟩
  · exact .pure ⟨rfl, stored⟩

/-- The end of a decision that resumes: its resolution and the run. -/
theorem decidedResume_answers (service : Service) (world : World)
    (found : world.db.commands.find? commandId = some command)
    (stored : world.Stores runId) :
    Answers (do
        service.store.setCommandState commandId .deliveryUnknown receipt resolution
        service.reactivate runId actor eventKind
        summaryOf runId) world
      (fun _ after => ∀ other, other ≠ commandId →
        after.db.commands.find? other = world.db.commands.find? other) := by
  refine .bind (setCommandState_answers found) ?_
  rintro _ changed ⟨events, rfl⟩
  refine .bind (reactivate_answers stored) ?_
  rintro _ resumed ⟨commands, resumedStored⟩
  refine (summaryOf_answers resumedStored).weaken ?_
  rintro _ final rfl other different
  rw [commands, World.withCommands, find?_update, if_neg different]

/-- The command that replaces an uncertain one. -/
def replacement (service : Service) (runId : String)
    (command : StoredCommand) : StoredCommand :=
  ⟨"cmd-" ++ service.env.freshId, runId, command.sessionRef,
    command.promptDigest, command.turn, command.leaseGeneration, .queued,
    none, none⟩

/--
An uncertain command of a stored run can be decided; a decision to submit
again queues a replacement under the next fresh identifier.
-/
theorem resolveInput_answers (service : Service) (actor : String)
    (found : world.db.commands.find? commandId = some command)
    (owned : command.runId = runId)
    (uncertain : command.state = .deliveryUnknown) (stored : world.Stores runId)
    (visible : Text.isBlank observedSessionState = false)
    (fresh : world.db.commands.find? ("cmd-" ++ service.env.freshId) = none) :
    Answers (service.resolveInput runId commandId .continueFromCurrent
        actor observedSessionState) world (fun _ _ => True) ∧
      Answers (service.resolveInput runId commandId .submitNew actor
        observedSessionState) world (fun _ after =>
          after.db.commands.find? ("cmd-" ++ service.env.freshId) =
            some (replacement service runId command)) := by
  have inspected : ¬Text.isBlank observedSessionState := by
    rw [visible]
    exact Bool.false_ne_true
  have located : (requireUncertain runId commandId).exec ⟨world, []⟩ =
      (.ok command, ⟨world, []⟩) :=
    requireUncertain_ok_iff.mpr ⟨rfl, found, owned, uncertain, rfl⟩
  have opened : ∀ {Result : Type} {next : StoredCommand → Method Result}
      {outcome : Result → World → Prop},
      Answers (next command) world outcome →
        Answers (requireUncertain runId commandId >>= next) world outcome := by
    intro Result next outcome rest
    have first : Answers (requireUncertain runId commandId) world
        (fun loaded after => loaded = command ∧ after = world) :=
      ⟨command, world, located, rfl, rfl⟩
    refine .bind first ?_
    rintro loaded after ⟨rfl, rfl⟩
    exact rest
  constructor
  · refine .bind (.ensure inspected) ?_
    rintro _ here rfl
    exact opened ((decidedResume_answers service here found stored).weaken fun _ _ _ => trivial)
  · refine .bind (.ensure inspected) ?_
    rintro _ here rfl
    refine opened (.bind (insertCommand_answers fresh) ?_)
    rintro _ inserted ⟨commands, events, insertion, rfl⟩
    have different : "cmd-" ++ service.env.freshId ≠ commandId := by
      rintro rfl
      rw [found] at fresh
      cases fresh
    have lookup : ∀ other, commands.find? other = _ := fun other => find?_of_insert? insertion
    have stillFound : commands.find? commandId = some command := by
      rwa [lookup, if_neg different]
    refine (decidedResume_answers service
      (here.withCommands commands events) stillFound stored).weaken ?_
    intro _ after kept
    rw [kept _ different]
    exact (lookup _).trans (if_pos rfl)

/-- The ways in which an uncertain command still stands in the way. -/
structure StillBlocks (world : World) (runId commandId : String) : Prop where
  resume : ∀ service faults actor,
    (Call.exec ⟨service, faults, .resumeRun runId actor⟩ world).1 ≠ .ok ()
  accept : ∀ service faults hash expectedVersion,
    (Call.exec ⟨service, faults, .acceptance runId hash expectedVersion⟩ world).1 ≠ .ok ()
  recovery : ∀ service : Service, Answers (service.recoverCommands runId) world
      (fun actions after => uncertainReport ∈ actions ∧
        ∃ run, after.db.runs.find? runId = some run ∧ run.status ≠ .active)
  decidedAgain : ∀ (service : Service) actor observedSessionState,
    Text.isBlank observedSessionState = false →
      world.db.commands.find? ("cmd-" ++ service.env.freshId) = none →
        ∀ decision, decision ≠ .cancel →
          (Call.exec ⟨service, [], .resolveInput runId commandId decision
            actor observedSessionState⟩ world).1 = .ok ()
  replacedAgain : ∀ (service : Service) actor observedSessionState,
    Text.isBlank observedSessionState = false →
      world.db.commands.find? ("cmd-" ++ service.env.freshId) = none → ∃ command,
          (world.after (.called ⟨service, [], .resolveInput runId commandId
              .submitNew actor observedSessionState⟩)).db.commands.find?
              ("cmd-" ++ service.env.freshId) =
            some (replacement service runId command)

theorem Uncertain.stillBlocks (uncertain : Uncertain world runId commandId)
    (stored : world.Stores runId) : StillBlocks world runId commandId where
  resume service faults actor := discard_refuses (resumeRun_refuses uncertain.listed)
  accept service faults hash expectedVersion :=
    discard_refuses (advanceRun_refuses uncertain.listed)
  recovery service := by
    obtain ⟨command, found, owned, state⟩ := uncertain
    have key : command.commandId = commandId := key_of_find? found
    subst key
    refine (recoverCommands_answers found owned (.inr state) stored).weaken ?_
    rintro _ _ ⟨reported, _, stopped⟩
    exact ⟨reported, stopped⟩
  decidedAgain service actor observed visible fresh decision resumes := by
    obtain ⟨command, found, owned, state⟩ := uncertain
    obtain ⟨continued, submitted⟩ := resolveInput_answers service actor
      found owned state stored visible fresh
    cases decision with
    | continueFromCurrent => exact discard_answers continued
    | submitNew => exact discard_answers submitted
    | cancel => exact absurd rfl resumes
  replacedAgain service actor observed visible fresh := by
    obtain ⟨command, found, owned, state⟩ := uncertain
    obtain ⟨_, submitted⟩ := resolveInput_answers service actor found
      owned state stored visible fresh
    obtain ⟨_, replaced⟩ := after_of_answers service (.resolveInput runId
      commandId .submitNew actor observed) rfl submitted
    exact ⟨command, replaced⟩

/--
Whatever the world, once a decision to continue or to submit again has
answered, the command stands in the way of its run in every later state, and
it can be decided and replaced again in every later state.
-/
theorem decided_command_still_blocks (world : World) (service : Service)
    (faults : List (Option Fault)) (runId commandId : String)
    (decision : OperatorDecision) (actor observedSessionState : String)
    (resumes : decision ≠ .cancel)
    (answered : (Call.exec ⟨service, faults, .resolveInput runId commandId
      decision actor observedSessionState⟩ world).1 = .ok ())
    (history : List Event) :
    StillBlocks ((world.after (.called ⟨service, faults, .resolveInput runId
        commandId decision actor observedSessionState⟩)).play history) runId commandId := by
  have ends := resolveInput_leaves service runId commandId decision actor
    observedSessionState resumes ⟨world, faults⟩
  have left : Uncertain (world.after (.called ⟨service, faults, .resolveInput runId
          commandId decision actor observedSessionState⟩))
        runId commandId ∧
      (world.after (.called ⟨service, faults, .resolveInput runId
        commandId decision actor observedSessionState⟩)).Stores runId := by
    obtain ⟨_, held⟩ := discard_answered ends answered
    unfold World.after Call.exec
    dsimp only [Service.perform]
    rwa [discard_world]
  obtain ⟨uncertain, stored⟩ := uncertain_play left.1 left.2
  exact uncertain.stillBlocks stored

/-- A dispatch is interrupted and recovered. -/
def interruptedHistory : List Event :=
  .opened :: calls firstEnvironment [.startRun "plan" 3 "key",
      .recordDispatchIntent "run-1" "session" "prompt" 1 1,
      .recover ⟨[], []⟩]

theorem interruptedHistory_still_blocks :
    StillBlocks ((World.fresh.play interruptedHistory).after
        (.called ⟨⟨1, firstEnvironment⟩, [], .resolveInput "run-1" "cmd-1"
          .continueFromCurrent "operator" "idle"⟩)) "run-1" "cmd-1" :=
  decided_command_still_blocks (World.fresh.play interruptedHistory) ⟨1, firstEnvironment⟩ []
    "run-1" "cmd-1" .continueFromCurrent "operator" "idle" (by decide) (by decide +kernel) []

/-- The surroundings at a later call, with another fresh identifier. -/
def laterEnvironment : Environment := { firstEnvironment with freshId := "2" }

/-- The command is decided, then the run is paused. -/
def decidedHistory : List Event :=
  interruptedHistory ++ calls firstEnvironment
    [.resolveInput "run-1" "cmd-1" .continueFromCurrent "operator" "idle",
      .pauseRun "run-1" "operator" "later" false]

/-- Resume refuses the decided command, and it is decided again. -/
theorem decided_command_refuses_resume :
    (Call.exec ⟨⟨1, firstEnvironment⟩, [], .resolveInput "run-1" "cmd-1"
        .continueFromCurrent "operator" "idle"⟩
      (World.fresh.play interruptedHistory)).1 = .ok () ∧
    (Call.exec ⟨⟨1, firstEnvironment⟩, [], .resumeRun "run-1" "operator"⟩
      (World.fresh.play decidedHistory)).1 =
        .error (.blocked ("command cmd-1 has uncertain delivery; " ++ "resolve it before resume")) ∧
    (Call.exec ⟨⟨1, laterEnvironment⟩, [], .resolveInput "run-1" "cmd-1"
        .submitNew "operator" "idle"⟩ (World.fresh.play decidedHistory)).1 = .ok () := by
  refine ⟨by decide +kernel, by decide +kernel, by decide +kernel⟩

end Jackin.Workflow
