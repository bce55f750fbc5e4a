import Jackin.Workflow.Uncertainty

/-!
# Sessions after a restart

Recorded sessions are never replaced: a worker that was started again has an
older row beside its current one.  Recovery compares every row with what is
alive, so that a run whose workers are all alive goes to the operator as soon
as one of its older sessions is gone.
-/

namespace Jackin.Workflow

open Foundation

variable {service : Service} {run : StoredRun} {row : StoredSession}

/-- The last session of each worker. -/
def latestSessions : List SessionAttachment → List SessionAttachment
  | [] => []
  | session :: rest =>
    if rest.any fun later => later.workerId == session.workerId then latestSessions rest
    else session :: latestSessions rest

/-- The live instance may be the one with this epoch and process. -/
abbrev LiveInstance.Serves (live : LiveInstance) (epoch : Option Nat)
    (process : Option String) :
    Prop :=
  live.sessionAlive ∧ differs epoch live.capsuleEpoch = false ∧
    differs process live.processIdentity = false

/-- A live instance of the inventory matches the session. -/
abbrev SessionAttachment.Matches (session : SessionAttachment)
    (inventory : InstanceInventory) : Prop :=
  ∃ live ∈ inventory.instances, session.instanceId = some live.instanceId ∧
    live.Serves session.capsuleEpoch session.processIdentity

/--
The session names no instance, or the listed one is alive and its own, as far
as the stored epoch tells.
-/
abbrev SessionAttachment.Accounted (session : SessionAttachment)
    (inventory : InstanceInventory) : Prop :=
  ∀ identity ∈ session.instanceId, ∃ live ∈ inventory.instances.find?
    (·.instanceId == identity),
      live.Serves (session.capsuleEpoch.map saturated) session.processIdentity

theorem sessionLost_iff {session : SessionAttachment} :
    sessionLost session.row inventory = false ↔ session.Accounted inventory := by
  unfold sessionLost SessionAttachment.Accounted
  have epoch : session.row.capsuleEpoch.map Int.toNat =
      session.capsuleEpoch.map saturated := by
    cases known : session.capsuleEpoch <;> simp [SessionAttachment.row, known]
  rw [epoch, show session.row.instanceId = session.instanceId from rfl]
  cases named : session.instanceId with
  | none => simp
  | some identity =>
    cases found : inventory.instances.find? (·.instanceId == identity) with
    | none => simp [found]
    | some live => simp [found, and_assoc, SessionAttachment.row]

/-- What the run's status is in a world. -/
def World.statusOf (world : World) (runId : String) : Option RunStatus :=
  (world.db.runs.find? runId).map (·.status)

/-- A lost session takes an active run to the operator, where it stays. -/
theorem recoverSession_answers
    (status : world.statusOf runId = some .active ∨
      world.statusOf runId = some .needsOperator) :
    Answers (service.recoverSession runId inventory row) world
      (fun _ after => after.statusOf runId =
        if sessionLost row inventory then some .needsOperator
        else world.statusOf runId) := by
  unfold Service.recoverSession
  split
  · refine .bind appendEvent_answers ?_
    rintro _ _ ⟨events, rfl⟩
    cases found : world.db.runs.find? runId with
    | none => simp [World.statusOf, found] at status
    | some run =>
      refine .bind (escalateToOperator_answers found) ?_
      rintro _ after ⟨_, later, laterFound, moved⟩
      refine .pure ?_
      simp only [World.statusOf, found, Option.map_some, Option.some.injEq] at status
      rw [World.statusOf, laterFound, Option.map_some, moved]
      rcases status with active | operator
      · rw [if_pos active]
      · rw [operator]
        rfl
  · exact .pure rfl

/-- A lost session among the rows leaves the run with the operator. -/
theorem recoverSessions_answers (active : world.statusOf runId = some .active)
    (stored : row ∈ world.db.sessionsOf runId)
    (lost : sessionLost row inventory) :
    Answers (service.recoverSessions runId inventory) world
      (fun _ after => after.statusOf runId = some .needsOperator) := by
  refine .bind (.query world) ?_
  rintro rows _ ⟨rfl, rfl⟩
  refine (Answers.forEach_establishes (fun reached => reached.statusOf runId = some .active ∨
      reached.statusOf runId = some .needsOperator)
    (fun row reached => sessionLost row inventory →
      reached.statusOf runId = some .needsOperator)
    ?_ (.inl active)).weaken fun _ _ holds => holds.2.1 row stored lost
  intro other _ reached status
  refine (recoverSession_answers status).weaken fun _ after moved => ?_
  by_cases gone : sessionLost other inventory
  · rw [if_pos gone] at moved
    exact ⟨.inr moved, fun _ => moved, fun _ _ _ => moved⟩
  · rw [if_neg gone] at moved
    rw [moved]
    exact ⟨status, fun lost => absurd lost gone, fun _ => id⟩

theorem recoverSessions_quiet
    (accounted : ∀ row ∈ session.world.db.sessionsOf runId, sessionLost row inventory = false) :
    ((service.recoverSessions runId inventory).exec session).2.world =
      session.world := by
  have quiet : ∀ rows : List StoredSession, (∀ row ∈ rows, sessionLost row inventory = false) →
        Program.forEach (service.recoverSession runId inventory) rows = pure [] := by
    intro rows kept
    induction rows with
    | nil => rfl
    | cons row rest ih =>
      have here : service.recoverSession runId inventory row = pure [] :=
        if_neg (by simp [kept row])
      rw [Program.forEach, here, ih fun other member => kept other (List.mem_cons_of_mem _ member)]
      rfl
  have reads : Reads (service.recoverSessions runId inventory) session.world fun _ => True := by
    refine Reads.query.bind ?_
    rintro rows rfl
    rw [quiet _ accounted]
    exact .pure trivial
  exact reads.unchanged

/-- A run that is not active only gets events. -/
theorem recoverSessions_inactive (inactive : session.world.statusOf runId ≠ some .active) :
    ((service.recoverSessions runId inventory).exec
      session).2.world.statusOf runId = session.world.statusOf runId := by
  have logs {kind : String} {evidence : Option String} (reached : Session) :
      (service.store.appendEvent runId "host" kind evidence).Emits
        Session.world (fun before after =>
          after.statusOf runId = before.statusOf runId) reached := by
    obtain ⟨_, world⟩ := appendEvent_world
    refine .single ?_
    rw [world]
    rfl
  have emits : (service.recoverSessions runId inventory).Emits Session.world
      (fun before after => after.statusOf runId = before.statusOf runId)
      session := by
    refine Reads.query.emits_bind fun rows _ _ => ?_
    refine .forEach (·.statusOf runId ≠ some .active)
      (fun _ _ same => same.symm ▸ id) inactive fun row _ reached still => ?_
    unfold Service.recoverSession
    split
    · refine .bind (logs reached) fun _ logged success => ?_
      refine .bind ?_ fun _ _ _ => .pure
      have kept := @appendEvent_world runId service.store "host"
        "session_lost" row.instanceId reached
      rw [success] at kept
      obtain ⟨_, same⟩ := kept
      replace still : logged.world.statusOf runId ≠ some .active := by
        rwa [same]
      refine requireRun_reads.emits_bind fun stored _ found => ?_
      have other : stored.status ≠ .active := by
        intro active
        simp [World.statusOf, found, active] at still
      rw [if_neg other]
      exact logs _
    · exact .pure
  exact emits.invariant (fun _ _ same => same.trans) rfl

/--
A run whose workers are all alive is not handed to the operator, exactly when
it is not active or all its recorded sessions are accounted for, older ones
and those with an epoch that does not fit its column included.
-/
theorem sessions_keep_run_iff (service : Service) (world : World)
    (runId : String)
    (inventory : InstanceInventory) (recorded : List SessionAttachment)
    (stored : world.db.sessionsOf runId = recorded.map SessionAttachment.row) :
    ((∀ session ∈ latestSessions recorded, session.Matches inventory) →
      world.statusOf runId ≠ some .needsOperator →
      ∀ faults, ((service.recoverSessions runId inventory).exec
        ⟨world, faults⟩).2.world.statusOf runId ≠ some .needsOperator) ↔
    ((∀ session ∈ latestSessions recorded, session.Matches inventory) →
      world.statusOf runId = some .active →
      ∀ session ∈ recorded, session.Accounted inventory) := by
  have rows : (∀ row ∈ world.db.sessionsOf runId, sessionLost row inventory = false) ↔
      ∀ session ∈ recorded, session.Accounted inventory := by
    simp only [stored, List.forall_mem_map, sessionLost_iff]
  rw [← rows]
  refine imp_congr_right fun _ => ⟨fun stays active row stored => ?_,
    fun accounted unstopped faults => ?_⟩
  · by_contra lost
    obtain ⟨_, _, answered, moved⟩ := recoverSessions_answers active stored
      (Bool.not_eq_false _ ▸ lost)
    refine stays (by rw [active]; decide) [] ?_
    rwa [answered]
  · by_cases active : world.statusOf runId = some .active
    · rwa [recoverSessions_quiet (accounted active)]
    · rwa [recoverSessions_inactive active]

/-- The sessions of a worker that is started twice. -/
def restartedSessions : List SessionAttachment :=
  ["old", "new"].map fun instanceId =>
    ⟨"run-1", "worker", some instanceId, none, none, none, none, none⟩

/-- They are recorded; the history may end with a recovery. -/
def restartedHistory (recovery : List Operation) : List Event :=
  .opened :: calls firstEnvironment (.startRun "plan" 3 "key" ::
    restartedSessions.map (.recordSession · 0) ++ recovery)

def liveInstance (instanceId : String) : LiveInstance := ⟨instanceId, "", false, true, none, none⟩

/-- The worker is alive, and recovery gives the run to the operator. -/
theorem restarted_worker_stops_run :
    (World.fresh.play (restartedHistory [])).db.sessionsOf "run-1" =
        restartedSessions.map SessionAttachment.row ∧
      (∀ session ∈ latestSessions restartedSessions,
        session.Matches ⟨[liveInstance "new"], []⟩) ∧
      (World.fresh.play (restartedHistory [])).statusOf "run-1" = some .active ∧
      (World.fresh.play (restartedHistory
        [.recover ⟨[liveInstance "new"], []⟩])).statusOf "run-1" = some .needsOperator := by
  refine ⟨by decide +kernel, by decide +kernel, by decide +kernel, by decide +kernel⟩

/-- With both instances alive the run goes on, whatever fails. -/
theorem restarted_worker_keeps_run :
    (World.fresh.play (restartedHistory [])).statusOf "run-1" = some .active ∧
      ∀ faults, ((Service.recoverSessions ⟨1, firstEnvironment⟩ "run-1"
          ⟨[liveInstance "old", liveInstance "new"], []⟩).exec
        ⟨World.fresh.play (restartedHistory []), faults⟩).2.world.statusOf "run-1" ≠
          some .needsOperator := by
  refine ⟨by decide +kernel, ?_⟩
  exact (sessions_keep_run_iff ⟨1, firstEnvironment⟩ (World.fresh.play (restartedHistory []))
    "run-1" ⟨[liveInstance "old", liveInstance "new"], []⟩ restartedSessions
    (by decide +kernel)).mpr (fun _ _ => by decide) (by decide) (by decide +kernel)

end Jackin.Workflow
