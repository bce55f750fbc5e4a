import Mathlib
import Jackin.Workflow.Launch
import Jackin.Workflow.Uncertainty

/-!
# Two services on one store

Opening a store increments the stored owner epoch and hands the new value to
the service that opened it.  No statement reads the stored epoch again.  A
service that another one has superseded therefore goes on writing: from every
state it can start a run if none is open, insert a command and change its
state, and move an open run.
-/

namespace Jackin.Workflow

open List Foundation Table
open Program (Emits Ends exec_bind_ok)

variable {runId : String} {world : World} {run : StoredRun} {service : Service}

/-- Some text, put after a label, is none of finitely many. -/
theorem exists_fresh {taken : List String} : ∃ text, label ++ text ∉ taken := by
  have injective : Function.Injective (fun text => label ++ text) :=
    fun _ _ same => (String.append_right_inj label).mp same
  obtain ⟨_, ⟨text, rfl⟩, fresh⟩ :=
    (Set.infinite_range_of_injective injective).exists_notMem_finset taken.toFinset
  exact ⟨text, by simpa using fresh⟩

/-- Some text is the identifier of no stored command. -/
theorem exists_fresh_command :
    ∃ text, world.db.commands.find? ("cmd-" ++ text) = none := by
  obtain ⟨text, fresh⟩ := exists_fresh
  refine ⟨text, find?_eq_none_iff.mpr ?_⟩
  intro row member same
  exact fresh (mem_map.mpr ⟨row, member, same⟩)

/-- Some text is the identifier of no run and no event. -/
theorem exists_fresh_run :
    ∃ text, world.db.runs.find? ("run-" ++ text) = none ∧
      world.db.events.find? ("run-" ++ text, 0) = none := by
  obtain ⟨text, fresh⟩ := exists_fresh
  rw [mem_append, not_or] at fresh
  refine ⟨text, find?_eq_none_iff.mpr ?_, find?_eq_none_iff.mpr ?_⟩
  · intro row member same
    exact fresh.1 (mem_map.mpr ⟨row, member, same⟩)
  · intro row member same
    exact fresh.2 (mem_map.mpr ⟨row, member, congrArg Prod.fst same⟩)

/-- Some idempotency key is not used. -/
theorem exists_fresh_key :
    ∃ text, world.db.runByKey ("key-" ++ text) = none := by
  obtain ⟨text, fresh⟩ := exists_fresh
  refine ⟨text, ?_⟩
  rw [Database.runByKey, find?_eq_none]
  intro row member same
  exact fresh (mem_map.mpr ⟨row, member, beq_iff_eq.mp same⟩)

theorem ensureEffect_runs :
    ((ensureEffect runId kind ownershipLabel).exec
      session).2.world.db.runs = session.world.db.runs := by
  have added := ((@ensureEffect_ends runId kind
    ownershipLabel session).weaken fun _ _ holds => holds.1).final
  rcases added with same | ⟨_, effects, _, world⟩
  · rw [same]
  · rw [world]
    rfl

/-- With nothing open, a start that creates its run leaves an open one. -/
theorem startRun_opens (creates : Creates service "plan" key world) :
    (world.after (.called ⟨service, [], .startRun "plan" 0 key⟩)).db.activeRun.isSome := by
  have calm : ReachesRow (Session.mk world []).faults :=
    ⟨⟨rfl, rfl, trivial⟩, ⟨rfl, rfl, rfl, trivial⟩, nofun⟩
  obtain ⟨runs, events, inserted, final⟩ := startRun_creates creates calm
  have answered : (remaining 5 (Session.mk world []).faults).head?.join = none :=
    rfl
  rw [after_start rfl, final, if_pos answered]
  rw [Database.activeRun, find?_isSome, ensureEffect_runs]
  exact ⟨_, mem_of_find? (find?_self_of_insert? inserted), rfl⟩

/-- The run that recovery looks at is stored and not finished. -/
theorem activeRun_found (active : world.db.activeRun = some run) :
    world.db.runs.find? run.runId = some run ∧ run.status.isTerminal = false := by
  refine ⟨mem_rows_iff.mp (mem_of_find?_eq_some active), ?_⟩
  have isOpen := find?_some active
  revert isOpen
  unfold Database.isOpen
  cases run.status <;> decide

theorem writeArtifact_answers (written : service.env.writeArtifact name bytes = .ok ()) :
    Answers (service.writeArtifact name bytes) world (fun _ after => after = world) := by
  refine ⟨service.env.sha256Hex bytes, world, ?_, rfl⟩
  rw [Service.writeArtifact, written]
  rfl

/-- A dispatch intent on a stored run inserts a command and changes it. -/
theorem recordDispatchIntent_answers (stored : (world.db.runs.find? runId).isSome)
    (sessionNamed : Text.isBlank sessionRef = false)
    (prompted : prompt.isEmpty = false)
    (written : service.env.writeArtifact
      ("cmd-" ++ service.env.freshId) (textBytes prompt) = .ok ())
    (fresh : world.db.commands.find? ("cmd-" ++ service.env.freshId) = none) :
    Answers (service.recordDispatchIntent runId sessionRef prompt turn leaseGeneration) world
      (fun _ after =>
        after.db.runs = world.db.runs ∧ ∃ command,
            after.db.commands.find? ("cmd-" ++ service.env.freshId) = some command ∧
              command.runId = runId ∧ command.state = .dispatching) := by
  obtain ⟨_, found⟩ := Option.isSome_iff_exists.mp stored
  refine .bind (requireRun_answers found) ?_
  rintro _ here ⟨rfl, rfl⟩
  refine .bind (.ensure (by simp [sessionNamed])) ?_
  rintro _ _ rfl
  refine .bind (.ensure (by simp [prompted])) ?_
  rintro _ here rfl
  refine .bind (writeArtifact_answers written) ?_
  rintro digest _ rfl
  refine .bind (insertCommand_answers fresh) ?_
  rintro _ inserted ⟨commands, events, insertion, rfl⟩
  have queued := (find?_of_insert? insertion).trans (if_pos rfl)
  refine .bind (setCommandState_answers queued) ?_
  rintro _ dispatched ⟨later, rfl⟩
  refine .bind (summaryOf_answers stored) ?_
  rintro summary final rfl
  exact .pure ⟨rfl, _, find?_update_self (StoredCommand.inState_commandId _ _ _) queued, rfl, rfl⟩

theorem preserveCandidate_answers :
    Answers (preserveCandidate runId candidate) world
      (fun _ after => after.db.runs = world.db.runs) := by
  cases candidate with
  | none => exact .pure rfl
  | some candidate => exact ⟨(), _, rfl, rfl⟩

/-- A transition that plans nothing moves the loaded run one version on. -/
theorem apply_moves (found : world.db.runs.find? runId = some run)
    (plain : request.effect = none) :
    Answers (service.apply run request) world (fun _ after => ∃ moved,
        after.db.runs.find? runId = some moved ∧ moved.version = run.version + 1 ∧
          moved.status = request.status ∧
          moved.ownerEpoch = service.epoch) := by
  have key : run.runId = runId := key_of_find? found
  refine (apply_answers found plain).weaken ?_
  rintro _ _ ⟨events, rfl⟩
  exact ⟨_, find?_transitioned_self found key, rfl, rfl, rfl⟩

/-- Any service can cancel an unfinished run. -/
theorem cancelRun_answers (found : world.db.runs.find? runId = some run)
    (unfinished : run.status.isTerminal = false) :
    Answers (service.cancelRun runId actor reason) world (fun _ after => ∃ moved,
        after.db.runs.find? runId = some moved ∧
          moved.version = run.version + 1 ∧ moved.status = .cancelled ∧
          moved.ownerEpoch = service.epoch) := by
  refine .bind (requireRun_answers found) ?_
  rintro loaded here ⟨rfl, rfl⟩
  refine .bind (.ensure (by simp [unfinished])) ?_
  rintro _ here rfl
  refine .bind preserveCandidate_answers ?_
  intro _ preserved runs
  rw [← runs] at found
  refine .bind (apply_moves found rfl) ?_
  rintro _ cancelled ⟨moved, movedFound, facts⟩
  refine .bind appendEvent_answers ?_
  rintro _ _ ⟨events, rfl⟩
  have stored : ((cancelled.withEvents events).db.runs.find? runId).isSome :=
    Option.isSome_iff_exists.mpr ⟨moved, movedFound⟩
  refine (summaryOf_answers stored).weaken ?_
  rintro _ _ rfl
  exact ⟨moved, movedFound, facts⟩

/-- Recovery leaves a dispatching command of the open run uncertain. -/
theorem recover_settles (active : world.db.activeRun = some run)
    (found : world.db.commands.find? command.commandId = some command)
    (owned : command.runId = run.runId)
    (dispatching : command.state = .dispatching) :
    Uncertain (world.after (.called ⟨service, [], .recover inventory⟩)) run.runId
      command.commandId := by
  obtain ⟨stored, _⟩ := activeRun_found active
  obtain ⟨_, after, answered, _, uncertain, _⟩ :=
    recoverCommands_answers found owned (.inl dispatching) (by rw [World.Stores, stored]; rfl)
  have searched : activeRun.exec ⟨world, []⟩ = (.ok (some run), ⟨world, []⟩) :=
    query_ok_iff.mpr ⟨rfl, active.symm, rfl⟩
  unfold World.after Call.exec
  dsimp only [Service.perform]
  rw [discard_world, Service.recover, exec_bind_ok searched]
  unfold Service.recoverRun
  rw [exec_bind_ok answered]
  exact Emits.invariant recoverFindings_emits
    (fun _ _ (step : Step .none _ _) held =>
      Uncertain.change (.move step.move) held) uncertain

/-- The event is a call of a service with this epoch. -/
def Event.issuedBy (epoch : Nat) : Event → Prop
  | .opened => False
  | .called call => call.service.epoch = epoch

/-- A command is stored that was not. -/
def InsertsCommand (before after : World) : Prop :=
  ∃ commandId command,
    before.db.commands.find? commandId = none ∧ after.db.commands.find? commandId = some command

/-- A stored command is in another state. -/
def ChangesCommand (before after : World) : Prop :=
  ∃ commandId stored changed, before.db.commands.find? commandId = some stored ∧
    after.db.commands.find? commandId = some changed ∧ changed.state ≠ stored.state

/-- A stored run is one version on, written under this epoch. -/
def MovesRun (epoch : Nat) (before after : World) : Prop :=
  ∃ runId stored moved,
    before.db.runs.find? runId = some stored ∧ after.db.runs.find? runId = some moved ∧
      moved.version = stored.version + 1 ∧ moved.status ≠ stored.status ∧ moved.ownerEpoch = epoch

/-- Surroundings with a given fresh identifier. -/
def freshEnvironment (text : String) : Environment := { firstEnvironment with freshId := text }

/-- A service of any epoch can reach a state with an open run. -/
theorem exists_activeRun :
    ∃ start : List Event, (∀ event ∈ start, event.issuedBy epoch) ∧
      (world.play start).db.activeRun.isSome := by
  cases active : world.db.activeRun with
  | some run =>
    refine ⟨[], by simp, ?_⟩
    rw [World.play_nil, active]
    rfl
  | none =>
    obtain ⟨text, unknown, silent⟩ := exists_fresh_run
    obtain ⟨key, unkeyed⟩ := exists_fresh_key
    have named : Text.isBlank ("key-" ++ key) = false := by
      rw [Text.isBlank, String.toList_append]
      rfl
    have plan : Text.isBlank "plan" = false := by decide
    refine ⟨[.called ⟨⟨epoch, freshEnvironment text⟩, [],
      .startRun "plan" 0 ("key-" ++ key)⟩], ?_, ?_⟩
    · intro event member
      rw [mem_singleton.mp member]
      exact rfl
    · exact startRun_opens ⟨by simp [named, plan], active, unkeyed, unknown, silent⟩

/--
Whatever the store holds when another service opens it, the service with the
older epoch can go on: some calls of it insert a command, change the state of
a command and move a run.
-/
theorem superseded_service_commits (world : World) (epoch : Nat) :
    ∃ (start : List Event) (dispatch recovery cancellation : Call),
      (∀ event ∈ start, event.issuedBy epoch) ∧ dispatch.service.epoch = epoch ∧
        recovery.service.epoch = epoch ∧
        cancellation.service.epoch = epoch ∧
        let started := (world.after .opened).play start
        let dispatched := started.after (.called dispatch)
        InsertsCommand started dispatched ∧
          ChangesCommand dispatched (dispatched.after (.called recovery)) ∧
          MovesRun epoch dispatched (dispatched.after (.called cancellation)) := by
  obtain ⟨start, issued, isOpen⟩ := exists_activeRun
  generalize startedIs : (world.after .opened).play start = started at isOpen
  obtain ⟨run, active⟩ := Option.isSome_iff_exists.mp isOpen
  obtain ⟨runFound, unfinished⟩ := activeRun_found active
  obtain ⟨text, fresh⟩ := exists_fresh_command
  let service : Service := ⟨epoch, freshEnvironment text⟩
  let dispatch : Call := ⟨service, [], .recordDispatchIntent run.runId "session" "prompt" 0 0⟩
  obtain ⟨_, runs, command, commandFound, owned, dispatching⟩ :=
    after_of_answers service dispatch.operation rfl
      (recordDispatchIntent_answers (Option.isSome_iff_exists.mpr ⟨run, runFound⟩) (by decide)
        (by decide) rfl fresh)
  have key : command.commandId = "cmd-" ++ service.env.freshId := key_of_find? commandFound
  have stillActive :
      (started.after (.called dispatch)).db.activeRun = some run := by
    rwa [Database.activeRun, runs]
  have stillFound := commandFound
  rw [← key] at stillFound
  obtain ⟨changed, changedFound, _, unknown⟩ :=
    recover_settles stillActive stillFound owned dispatching
  obtain ⟨_, moved, movedFound, version, cancelled, owner⟩ :=
    after_of_answers service (.cancelRun run.runId "operator" "late") rfl
      (cancelRun_answers (activeRun_found stillActive).1 unfinished)
  refine ⟨start, dispatch, ⟨service, [], .recover ⟨[], []⟩⟩,
    ⟨service, [], .cancelRun run.runId "operator" "late"⟩, issued, rfl, rfl,
    rfl, ?_⟩
  rw [startedIs]
  refine ⟨⟨_, command, fresh, commandFound⟩, ⟨_, command, changed, stillFound, changedFound, ?_⟩,
    ⟨_, run, moved, (activeRun_found stillActive).1, movedFound, version, ?_, owner⟩⟩
  · rw [unknown, dispatching]
    decide
  · intro same
    rw [← same, cancelled] at unfinished
    exact absurd unfinished (by decide)

/-- The first service dispatches and cancels after a second one opened. -/
def supersededHistory : List Event :=
  [.opened] ++ calls firstEnvironment [.startRun "plan" 3 "key"] ++
    [.opened] ++ calls firstEnvironment
      [.recordDispatchIntent "run-1" "session" "prompt" 1 1, .cancelRun "run-1" "operator" "late"]

theorem supersededHistory_commits :
    (World.fresh.play supersededHistory).db.ownerEpoch = 2 ∧
      ((World.fresh.play supersededHistory).db.commands.find?
        "cmd-1").map StoredCommand.state = some .dispatching ∧
      ((World.fresh.play supersededHistory).db.runs.find? "run-1").map
        (fun run => (run.status, run.ownerEpoch)) = some (.cancelled, 1) := by
  refine ⟨by decide +kernel, by decide +kernel, by decide +kernel⟩

end Jackin.Workflow
