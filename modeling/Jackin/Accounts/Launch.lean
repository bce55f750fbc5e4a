import Jackin.Accounts.Model
import Jackin.Foundation.Result

/-!
# Which instances a launch starts

A launch starts one instance for each selected configuration.  The selection
is made for this launch, or inherited from the role, the workspace or the
whole configuration; without one, the account bound to the agent is used, or
the only one that is eligible.  A saved launch starts the instances it
recorded, if they still are what they were.

Each way ends in the same checks of the account and of the workspace, and an
agent whose instances cannot be kept apart is started once.
-/

namespace Jackin.Accounts

open List Foundation Result

/-- An instance to launch: an agent with its account. -/
structure ResolvedInstance where
  configId : String
  agent : Agent
  accountId : String
  model : Option String
  baseUrl : Option String
  xdgRoots : Option XdgRoots
  label : String
  synthesized : Bool

/-- An instance of an earlier launch. -/
structure SavedLaunchInstance where
  configId : String
  agent : Agent
  accountId : String

section

variable (id : String) (agent : Agent) (account : AccountConfig)

def unknownConfiguration : ConfigError :=
  .msg [.text "unknown agent configuration ", .quoted id]

def unknownAccount : ConfigError := .msg [.text "unknown account ", .quoted id]

def notAssigned : ConfigError :=
  .msg [.text "account ", .quoted id, .text " is not assigned to this workspace"]

def notAuthorized : ConfigError :=
  .msg [.text "account ", .quoted id, .text (" is not authorized for " ++ agent.slug)]

def unsupportedWrapper : ConfigError :=
  .msg [.text "configuration ", .quoted id,
    .text (" declares an unsupported shell wrapper; jackin capsule " ++
      "launches cannot execute arbitrary host wrappers safely")]

def sharedXdgRoot (name : String) : ConfigError :=
  .msg [.text ("agent " ++ agent.slug ++
    " admits only one account per container: isolating several accounts " ++
    "needs " ++ name ++ ", which would also redirect unrelated XDG " ++
    "consumers of the pane process")]

def noFolderVariable : ConfigError :=
  .msg [.text ("agent " ++ agent.slug ++
    " admits only one account per container: it has no config-folder env " ++
    "var to isolate instances")]

def accountModel : Option String :=
  match account.credential with
  | .apiKey _ _ model => model
  | _ => none

def accountUrl : Option String :=
  match account.credential with
  | .apiKey _ baseUrl _ => baseUrl
  | _ => none

def accountXdgRoots : Option XdgRoots :=
  match account.credential with
  | .profile owner _ xdgRoots _ => if owner = agent then xdgRoots else none
  | _ => none

def defaultLabel : String :=
  agent.label ++ " · " ++ account.name

end

namespace ResolvedInstance

/-- The instance of a configuration and its account. -/
def bind (configId : String) (config : AgentConfiguration)
    (account : AccountConfig) : ResolvedInstance where
  configId := configId
  agent := config.agent
  accountId := config.account
  model := config.model <|> accountModel account
  baseUrl := config.baseUrl <|> accountUrl account
  xdgRoots := accountXdgRoots config.agent account
  label := config.displayLabel.getD (defaultLabel config.agent account)
  synthesized := false

/-- The instance of an account without a configuration. -/
def synthesize (accountId : String) (agent : Agent)
    (account : AccountConfig) : ResolvedInstance where
  configId := accountId ++ "@" ++ agent.slug
  agent := agent
  accountId := accountId
  model := accountModel account
  baseUrl := accountUrl account
  xdgRoots := accountXdgRoots agent account
  label := defaultLabel agent account
  synthesized := true

end ResolvedInstance

/-! ## Shared checks -/

variable {launched : ResolvedInstance} {instances : List ResolvedInstance}
    {entry : String × AccountConfig} {agent : Agent}

section

variable (cfg : AppConfig)

/-- The workspace of that name, where one is given. -/
def findWorkspace : Option String → Except ConfigError (Option WorkspaceConfig)
  | none => .ok none
  | some name => do
    let workspace ← present (cfg.workspaces.get? name) (.workspaceNotFound name)
    pure (some workspace)

variable (workspace : Option WorkspaceConfig)

/-- In a workspace, only its accounts may be used. -/
def assigned (accountId : String) : Bool :=
  match workspace with
  | none => true
  | some workspace => workspace.accounts.contains accountId

def validateLaunchTransport (config : AgentConfiguration)
    (id : String) : Except ConfigError Unit :=
  require (config.invokedViaWrapper.isNone) (unsupportedWrapper id)

def bindExplicit (id : String) : Except ConfigError ResolvedInstance := do
  let config ← present (cfg.agentConfigurations.get? id) (unknownConfiguration id)
  validateLaunchTransport config id
  require (assigned workspace config.account) (notAssigned config.account)
  let account ← present (cfg.accounts.get? config.account) (unknownAccount config.account)
  require (account.supportsAgent config.agent) (notAuthorized config.account config.agent)
  pure (.bind id config account)

section

variable (workspace : Option WorkspaceConfig)
    (instances : List ResolvedInstance)
    (agent : Agent)
    (saved : SavedLaunchInstance)

def countAgent : Nat :=
  instances.countP (·.agent = agent)

/-- Whether several instances of an agent can be kept apart. -/
def checkShared : Except ConfigError Unit :=
  match agent.folderEnvVar with
  | some ⟨_, .dir⟩ => .ok ()
  | some ⟨_, .parent⟩ => .ok ()
  | some ⟨name, .xdgRoot⟩ => .error (sharedXdgRoot agent name)
  | none => .error (noFolderVariable agent)

def checkAgent : Except ConfigError Unit :=
  if countAgent instances agent < 2 then .ok () else checkShared agent

def checkAgents (instances : List ResolvedInstance) : List Agent → Except ConfigError Unit
  | [] => .ok ()
  | agent :: rest => do
    checkAgent instances agent
    checkAgents instances rest

def checkedLaunchInstances :
    Except ConfigError (List ResolvedInstance) := do
  checkAgents instances Agent.all
  pure instances

/--
The account the bindings settle on: the role's, the workspace's, or the
one for all.
-/
def findBinding (role : String) (agent : Agent) : Option String :=
  let roleBinding := do
    let found ← workspace
    let override ← found.roles.get? role
    override.accountBindings agent
  let workspaceBinding := do
    let found ← workspace
    found.accountBindings agent
  roleBinding <|> workspaceBinding <|> cfg.accountBindings agent

def resolveBinding (id : String) : Except ConfigError (String × AccountConfig) := do
  require (assigned workspace id) (notAssigned id)
  let account ← present (cfg.accounts.get? id) (unknownAccount id)
  require (account.supportsAgent agent)
    (.msg [.text "account ", .quoted id, .text (" does not support " ++ agent.slug)])
  pure (id, account)

/-- The entries of assigned accounts. -/
def lookupAccounts : List String → Except ConfigError (List (String × AccountConfig))
  | [] => .ok []
  | id :: rest => do
    let account ← present (cfg.accounts.get? id) (unknownAccount id)
    let others ← lookupAccounts rest
    pure ((id, account) :: others)

/-- The only account of a workspace that supports an agent, if there is one. -/
def soleCandidate :
    List (String × AccountConfig) → Except ConfigError (Option (String × AccountConfig))
  | [] => .ok none
  | [selected] => .ok (some selected)
  | _ => .error (.msg [.text ("multiple accounts support " ++ agent.slug ++
      "; select an account binding")])

/--
The entry of the account an agent uses.  The source answers with a
reference into the registry and finds its id by that reference.
-/
def resolveAccount (workspace : Option WorkspaceConfig) (role : String) :
    Except ConfigError (Option (String × AccountConfig)) :=
  match findBinding cfg workspace role agent with
  | some id => do
    let entry ← resolveBinding cfg workspace agent id
    pure (some entry)
  | none =>
    match workspace with
    | none => .ok none
    | some found => do
      let entries ← lookupAccounts cfg found.accounts
      soleCandidate agent (entries.filter fun entry => entry.2.supportsAgent agent)

/-! ## A launch -/

/-- Bind the configurations selected for this launch, each once. -/
def bindSelection (workspace : Option WorkspaceConfig) :
    List String → List String → Except ConfigError (List ResolvedInstance)
  | _, [] => .ok []
  | seen, id :: rest => do
    require (id ∉ seen) (.msg [.text "duplicate configuration ",
      .quoted id, .text " in launch selection"])
    let bound ← bindExplicit cfg workspace id
    let others ← bindSelection workspace (id :: seen) rest
    pure (bound :: others)

/--
Bind an inherited list; a list for all workspaces skips what is not
assigned to this one.
-/
def bindInherited (workspace : Option WorkspaceConfig) (scopeIsGlobal : Bool) :
    List String → Except ConfigError (List ResolvedInstance)
  | [] => .ok []
  | id :: rest => do
    let config ← present (cfg.agentConfigurations.get? id) (unknownConfiguration id)
    if scopeIsGlobal && !assigned workspace config.account then
      bindInherited workspace scopeIsGlobal rest
    else do
      let bound ← bindExplicit cfg workspace id
      let others ← bindInherited workspace scopeIsGlobal rest
      pure (bound :: others)

def roleLaunch (role : String) : Option (List String) := do
  let found ← workspace
  let override ← found.roles.get? role
  override.defaultLaunch

def workspaceLaunch : Option (List String) := do
  let found ← workspace
  found.defaultLaunch

/-- The instances an account could serve. -/
def eligibleFor (agents : List Agent)
    (entry : String × AccountConfig) : List ResolvedInstance :=
  (agents.filter entry.2.supportsAgent).map fun agent => .synthesize entry.1 agent entry.2

def eligibleInstances (agents : List Agent) :
    Option WorkspaceConfig → Except ConfigError (List ResolvedInstance)
  | some workspace => do
    let entries ← lookupAccounts cfg workspace.accounts
    pure (entries.flatMap (eligibleFor agents))
  | none => .ok (cfg.accounts.rows.flatMap (eligibleFor agents))

def soleEligible : List ResolvedInstance → Except ConfigError (List ResolvedInstance)
  | [] => .error (.msg [.text "no eligible account for this launch"])
  | [only] => .ok [only]
  | _ => .error (.msg [.text "multiple accounts are eligible; select launch configurations"])

/--
Without any selection: the account of the agent, or the only one that is
eligible.
-/
def resolveUnselected (role : String) : Option Agent → Except ConfigError (List ResolvedInstance)
  | some committed => do
    let selected ← resolveAccount cfg committed workspace role
    match selected with
    | some (id, account) => checkedLaunchInstances [.synthesize id committed account]
    | none => do
      let eligible ← eligibleInstances cfg [committed] workspace
      soleEligible eligible
  | none => do
    let eligible ← eligibleInstances cfg Agent.all workspace
    soleEligible eligible

def resolveLaunch (workspace : Option String) (role : String)
    (oneLaunch : Option (List String)) (agent : Option Agent) :
    Except ConfigError (List ResolvedInstance) := do
  let found ← findWorkspace cfg workspace
  match oneLaunch with
  | some selection => do
    let instances ← bindSelection cfg found [] selection
    checkedLaunchInstances instances
  | none =>
    let nearer := roleLaunch found role <|> workspaceLaunch found
    match nearer <|> cfg.defaultLaunch with
    | some ids => do
      let instances ← bindInherited cfg found nearer.isNone ids
      checkedLaunchInstances instances
    | none => resolveUnselected cfg found role agent

/-- A recorded configuration, as it is now. -/
def rebind : Except ConfigError ResolvedInstance := do
  let bound ← bindExplicit cfg workspace saved.configId
  require (bound.agent = saved.agent ∧ bound.accountId = saved.accountId)
    (.msg [.text "saved configuration ", .quoted saved.configId,
      .text " no longer matches its recorded agent/account tuple"])
  pure bound

/-- A recorded instance without a configuration. -/
def resynthesize : Except ConfigError ResolvedInstance := do
  require (saved.configId = saved.accountId ++ "@" ++ saved.agent.slug)
    (.msg [.text "saved synthesized configuration ", .quoted saved.configId,
      .text " does not match its recorded account/agent tuple"])
  require (assigned workspace saved.accountId) (notAssigned saved.accountId)
  let account ← present (cfg.accounts.get? saved.accountId) (unknownAccount saved.accountId)
  require (account.supportsAgent saved.agent) (notAuthorized saved.accountId saved.agent)
  pure (.synthesize saved.accountId saved.agent account)

def resolveSaved : Except ConfigError ResolvedInstance :=
  if (cfg.agentConfigurations.get? saved.configId).isSome then rebind cfg workspace saved
  else resynthesize cfg workspace saved

def resolveEachSaved (workspace : Option WorkspaceConfig) :
    List String → List SavedLaunchInstance → Except ConfigError (List ResolvedInstance)
  | _, [] => .ok []
  | seen, saved :: rest => do
    require (saved.configId ∉ seen) (.msg [.text "duplicate configuration ",
      .quoted saved.configId, .text " in saved launch selection"])
    let resolved ← resolveSaved cfg workspace saved
    let others ← resolveEachSaved workspace (saved.configId :: seen) rest
    pure (resolved :: others)

def resolveSavedLaunch (workspace : Option String)
    (saved : List SavedLaunchInstance) :
    Except ConfigError (List ResolvedInstance) := do
  let found ← findWorkspace cfg workspace
  require (saved ≠ []) (.msg [.text "saved launch selection is empty"])
  let instances ← resolveEachSaved cfg found [] saved
  checkedLaunchInstances instances

/-! ## What every instance has passed -/

/--
An instance uses an enabled account that exists, fits its agent and may
be used here.
-/
structure Authorized (launched : ResolvedInstance) : Prop where
  supported : ∃ account, cfg.accounts.get? launched.accountId = some account ∧
    account.enabled ∧ account.compatibleAgent launched.agent
  assigned : assigned workspace launched.accountId

end

section

variable {cfg} {workspace : Option WorkspaceConfig}

theorem authorized_of_supports (found : cfg.accounts.get? launched.accountId = some account)
    (supports : account.supportsAgent launched.agent)
    (here : assigned workspace launched.accountId) :
    Authorized cfg workspace launched where
  supported :=
    ⟨account, found, (Bool.and_eq_true_iff.mp supports).1, (Bool.and_eq_true_iff.mp supports).2⟩
  assigned := here

theorem authorized_bindExplicit {id}
    (bound : bindExplicit cfg workspace id = .ok launched) :
    Authorized cfg workspace launched := by
  simp only [bindExplicit, bind_eq_ok, present_eq_ok, require_eq_ok, pure_eq_ok] at bound
  obtain ⟨_, _, _, _, _, here, _, found, _, supports, rfl⟩ := bound
  exact authorized_of_supports found supports here

theorem authorized_bindSelection
    (bound : bindSelection cfg workspace seen selection = .ok instances) :
    ∀ launched ∈ instances, Authorized cfg workspace launched := by
  induction selection generalizing seen instances with
  | nil =>
    cases bound
    exact fun _ member => absurd member not_mem_nil
  | cons id rest ih =>
    simp only [bindSelection, bind_eq_ok, pure_eq_ok] at bound
    obtain ⟨_, _, _, firstBound, _, othersBound, rfl⟩ := bound
    intro launched member
    rcases mem_cons.mp member with rfl | later
    · exact authorized_bindExplicit firstBound
    · exact ih othersBound launched later

theorem authorized_bindInherited
    (bound : bindInherited cfg workspace scopeIsGlobal ids = .ok instances) :
    ∀ launched ∈ instances, Authorized cfg workspace launched := by
  induction ids generalizing instances with
  | nil =>
    cases bound
    exact fun _ member => absurd member not_mem_nil
  | cons id rest ih =>
    simp only [bindInherited, bind_eq_ok] at bound
    obtain ⟨_, _, bound⟩ := bound
    split at bound
    · exact ih bound
    · simp only [bind_eq_ok, pure_eq_ok] at bound
      obtain ⟨_, firstBound, _, othersBound, rfl⟩ := bound
      intro launched member
      rcases mem_cons.mp member with rfl | later
      · exact authorized_bindExplicit firstBound
      · exact ih othersBound launched later

/-- An entry of the registry for an account that may be used here. -/
structure Usable (cfg : AppConfig) (workspace : Option WorkspaceConfig)
    (entry : String × AccountConfig) : Prop where
  found : cfg.accounts.get? entry.1 = some entry.2
  here : Accounts.assigned workspace entry.1

theorem Usable.synthesize (usable : Usable cfg workspace entry)
    (supports : entry.2.supportsAgent agent) :
    Authorized cfg workspace (.synthesize entry.1 agent entry.2) :=
  authorized_of_supports usable.found supports usable.here

theorem lookupAccounts_entries (looked : lookupAccounts cfg ids = .ok entries) :
    ∀ entry ∈ entries, entry.1 ∈ ids ∧ cfg.accounts.get? entry.1 = some entry.2 := by
  induction ids generalizing entries with
  | nil =>
    cases looked
    exact fun _ member => absurd member not_mem_nil
  | cons id rest ih =>
    simp only [lookupAccounts, bind_eq_ok, present_eq_ok, pure_eq_ok] at looked
    obtain ⟨_, found, _, othersLooked, rfl⟩ := looked
    intro entry member
    rcases mem_cons.mp member with rfl | later
    · exact ⟨mem_cons_self, found⟩
    · obtain ⟨listed, known⟩ := ih othersLooked entry later
      exact ⟨mem_cons_of_mem _ listed, known⟩

theorem usable_of_lookupAccounts (looked : lookupAccounts cfg within.accounts = .ok entries) :
    ∀ entry ∈ entries, Usable cfg (some within) entry := by
  intro entry member
  obtain ⟨listed, found⟩ := lookupAccounts_entries looked entry member
  exact ⟨found, contains_iff_mem.mpr listed⟩

theorem mem_of_soleCandidate
    (sole : soleCandidate agent candidates = .ok (some entry)) :
    entry ∈ candidates := by
  cases candidates with
  | nil => cases sole
  | cons first rest =>
    cases rest with
    | nil =>
      cases sole
      exact mem_cons_self
    | cons second others => cases sole

theorem usable_resolveAccount
    (resolved : resolveAccount cfg agent workspace role = .ok (some entry)) :
    Usable cfg workspace entry ∧ entry.2.supportsAgent agent := by
  unfold resolveAccount at resolved
  split at resolved
  · simp only [resolveBinding, bind_eq_ok, require_eq_ok, present_eq_ok,
      pure_eq_ok, Option.some.injEq] at resolved
    obtain ⟨_, ⟨_, here, _, found, _, supports, rfl⟩, rfl⟩ := resolved
    exact ⟨⟨found, here⟩, supports⟩
  · cases workspace with
    | none => cases resolved
    | some within =>
      simp only [bind_eq_ok] at resolved
      obtain ⟨_, looked, sole⟩ := resolved
      obtain ⟨member, supports⟩ := mem_filter.mp (mem_of_soleCandidate sole)
      exact ⟨usable_of_lookupAccounts looked entry member, supports⟩

theorem authorized_eligibleFor (usable : Usable cfg workspace entry) :
    ∀ launched ∈ eligibleFor agents entry, Authorized cfg workspace launched := by
  intro launched member
  obtain ⟨_, chosen, rfl⟩ := mem_map.mp member
  exact usable.synthesize (mem_filter.mp chosen).2

theorem authorized_eligibleInstances
    (eligible : eligibleInstances cfg agents workspace = .ok instances) :
    ∀ launched ∈ instances, Authorized cfg workspace launched := by
  intro launched member
  cases workspace with
  | none =>
    cases eligible
    obtain ⟨entry, listed, offered⟩ := mem_flatMap.mp member
    have usable : Usable cfg none entry := ⟨Registry.get?_of_mem listed, rfl⟩
    exact authorized_eligibleFor usable launched offered
  | some within =>
    simp only [eligibleInstances, bind_eq_ok, pure_eq_ok] at eligible
    obtain ⟨_, looked, rfl⟩ := eligible
    obtain ⟨entry, listed, offered⟩ := mem_flatMap.mp member
    exact authorized_eligibleFor (usable_of_lookupAccounts looked entry listed) launched offered

/--
The state of each instance of the agent can be put in a folder of its
own.
-/
def Separable (agent : Agent) : Prop :=
  ∃ folder, agent.folderEnvVar = some folder ∧ folder.kind ≠ .xdgRoot

/-- An agent that is not separable occurs at most once. -/
def KeptApart (instances : List ResolvedInstance) : Prop :=
  ∀ agent, ¬Separable agent → countAgent instances agent ≤ 1

theorem separable_of_checkShared (checked : checkShared agent = .ok ()) :
    Separable agent := by
  rw [checkShared] at checked
  split at checked
  · rename_i folder
    exact ⟨_, folder, by simp⟩
  · rename_i folder
    exact ⟨_, folder, by simp⟩
  · cases checked
  · cases checked

theorem separable_of_checkAgents (checked : checkAgents instances agents = .ok ())
    (member : agent ∈ agents)
    (several : 2 ≤ countAgent instances agent) : Separable agent := by
  induction agents with
  | nil => cases member
  | cons first rest ih =>
    simp only [checkAgents, bind_eq_ok] at checked
    obtain ⟨_, firstChecked, restChecked⟩ := checked
    rcases mem_cons.mp member with rfl | later
    · rw [checkAgent, if_neg (Nat.not_lt.mpr several)] at firstChecked
      exact separable_of_checkShared firstChecked
    · exact ih restChecked later

theorem checkedLaunchInstances_eq_ok (passes : checkedLaunchInstances instances = .ok checked) :
    checked = instances ∧ KeptApart instances := by
  simp only [checkedLaunchInstances, bind_eq_ok, pure_eq_ok] at passes
  obtain ⟨_, agentsChecked, rfl⟩ := passes
  refine ⟨rfl, ?_⟩
  intro agent inseparable
  by_contra several
  exact inseparable (separable_of_checkAgents agentsChecked Agent.mem_all (Nat.not_le.mp several))

theorem keptApart_singleton :
    KeptApart [launched] := fun _ _ => countP_le_length

theorem soleEligible_eq_ok (sole : soleEligible eligible = .ok instances) :
    instances = eligible ∧ KeptApart instances := by
  cases eligible with
  | nil => cases sole
  | cons first rest =>
    cases rest with
    | nil =>
      cases sole
      exact ⟨rfl, keptApart_singleton⟩
    | cons second others => cases sole

/-! ## Every launch -/

/-- All instances are authorized and those that have to be are kept apart. -/
def Permitted (cfg : AppConfig) (workspace : Option WorkspaceConfig)
    (instances : List ResolvedInstance) : Prop :=
  (∀ launched ∈ instances, Authorized cfg workspace launched) ∧ KeptApart instances

theorem permitted_of_checked
    (authorized : ∀ launched ∈ instances, Authorized cfg workspace launched)
    (passes : checkedLaunchInstances instances = .ok checked) :
    Permitted cfg workspace checked := by
  obtain ⟨rfl, apart⟩ := checkedLaunchInstances_eq_ok passes
  exact ⟨authorized, apart⟩

theorem permitted_of_eligible (found : eligibleInstances cfg agents workspace = .ok eligible)
    (sole : soleEligible eligible = .ok instances) :
    Permitted cfg workspace instances := by
  obtain ⟨rfl, apart⟩ := soleEligible_eq_ok sole
  exact ⟨authorized_eligibleInstances found, apart⟩

theorem permitted_resolveUnselected {agent}
    (resolved : resolveUnselected cfg workspace role agent = .ok instances) :
    Permitted cfg workspace instances := by
  cases agent with
  | none =>
    simp only [resolveUnselected, bind_eq_ok] at resolved
    obtain ⟨_, found, sole⟩ := resolved
    exact permitted_of_eligible found sole
  | some committed =>
    simp only [resolveUnselected, bind_eq_ok] at resolved
    obtain ⟨selected, accountResolved, resolved⟩ := resolved
    cases selected with
    | none =>
      simp only [bind_eq_ok] at resolved
      obtain ⟨_, found, sole⟩ := resolved
      exact permitted_of_eligible found sole
    | some entry =>
      obtain ⟨usable, supports⟩ := usable_resolveAccount accountResolved
      refine permitted_of_checked ?_ resolved
      intro launched member
      rw [mem_singleton.mp member]
      exact usable.synthesize supports

theorem authorized_resolveSaved (resolved : resolveSaved cfg workspace saved = .ok launched) :
    Authorized cfg workspace launched := by
  rw [resolveSaved] at resolved
  split at resolved
  · simp only [rebind, bind_eq_ok, pure_eq_ok] at resolved
    obtain ⟨_, bound, _, _, rfl⟩ := resolved
    exact authorized_bindExplicit bound
  · simp only [resynthesize, bind_eq_ok, require_eq_ok, present_eq_ok, pure_eq_ok] at resolved
    obtain ⟨_, _, _, here, _, found, _, supports, rfl⟩ := resolved
    exact authorized_of_supports found supports here

theorem authorized_resolveEachSaved
    (resolved : resolveEachSaved cfg workspace seen saved = .ok instances) :
    ∀ launched ∈ instances, Authorized cfg workspace launched := by
  induction saved generalizing seen instances with
  | nil =>
    cases resolved
    exact fun _ member => absurd member not_mem_nil
  | cons first rest ih =>
    simp only [resolveEachSaved, bind_eq_ok, pure_eq_ok] at resolved
    obtain ⟨_, _, _, oneResolved, _, othersResolved, rfl⟩ := resolved
    intro launched member
    rcases mem_cons.mp member with rfl | later
    · exact authorized_resolveSaved oneResolved
    · exact ih othersResolved launched later

end

/-- Both resolutions find the workspace first and work in it. -/
theorem permitted_of_resolved {workspace} {agent}
    (resolved :
      resolveLaunch cfg workspace role oneLaunch agent = .ok instances ∨
        resolveSavedLaunch cfg workspace saved = .ok instances) :
    ∃ found, findWorkspace cfg workspace = .ok found ∧ Permitted cfg found instances := by
  rcases resolved with launched | relaunched
  · simp only [resolveLaunch, bind_eq_ok] at launched
    obtain ⟨found, located, launched⟩ := launched
    refine ⟨found, located, ?_⟩
    cases oneLaunch with
    | some selection =>
      simp only [bind_eq_ok] at launched
      obtain ⟨_, selected, checked⟩ := launched
      exact permitted_of_checked (authorized_bindSelection selected) checked
    | none =>
      dsimp only at launched
      split at launched
      · simp only [bind_eq_ok] at launched
        obtain ⟨_, inherited, checked⟩ := launched
        exact permitted_of_checked (authorized_bindInherited inherited) checked
      · exact permitted_resolveUnselected launched
  · simp only [resolveSavedLaunch, bind_eq_ok] at relaunched
    obtain ⟨found, located, _, _, _, eachResolved, checked⟩ := relaunched
    exact ⟨found, located, permitted_of_checked (authorized_resolveEachSaved eachResolved) checked⟩

theorem mem_of_assigned {workspace}
    (located : findWorkspace cfg workspace = .ok found)
    (here : assigned found accountId) (given : workspace = some name) :
    ∃ within, cfg.workspaces.get? name = some within ∧ accountId ∈ within.accounts := by
  subst given
  simp only [findWorkspace, bind_eq_ok, present_eq_ok, pure_eq_ok] at located
  obtain ⟨within, known, rfl⟩ := located
  exact ⟨within, known, contains_iff_mem.mp here⟩

/--
Every instance of a launch or a saved launch uses an account that exists,
is enabled, fits its agent and is assigned to the given workspace; an agent
without a folder variable for each instance is started at most once.
-/
theorem launched_instances_permitted {workspace : Option String}
    {role : String} {oneLaunch : Option (List String)}
    {agent : Option Agent} {saved : List SavedLaunchInstance}
    {instances : List ResolvedInstance}
    (resolved :
      resolveLaunch cfg workspace role oneLaunch agent = .ok instances ∨
        resolveSavedLaunch cfg workspace saved = .ok instances) :
    (∀ launched ∈ instances,
      (∃ account, cfg.accounts.get? launched.accountId = some account ∧ account.enabled ∧
        account.compatibleAgent launched.agent) ∧
      ∀ name, workspace = some name →
        ∃ within, cfg.workspaces.get? name = some within ∧ launched.accountId ∈ within.accounts) ∧
    ∀ agent, ¬Separable agent → countAgent instances agent ≤ 1 := by
  obtain ⟨_, located, authorized, apart⟩ := permitted_of_resolved cfg resolved
  refine ⟨?_, apart⟩
  intro launched member
  have passed := authorized launched member
  exact ⟨passed.supported, fun _ => mem_of_assigned cfg located passed.assigned⟩

end

def sampleAccount : AccountConfig where
  enabled := true
  name := "Work"
  provider := .anthropic
  credential := .oAuthToken .claude (.plain "token")

def sampleConfiguration (account : String) : AgentConfiguration where
  agent := .claude
  account := account
  model := none
  baseUrl := none
  displayLabel := none
  invokedViaWrapper := none

def sampleWorkspace : WorkspaceConfig where
  accounts := ["work", "home"]
  accountBindings _ := none
  defaultLaunch := none
  roles := Table.empty

def sampleConfig : AppConfig where
  accounts := ⟨[("work", sampleAccount), ("home", sampleAccount)], by decide⟩
  agentConfigurations :=
    ⟨[("main", sampleConfiguration "work"), ("spare", sampleConfiguration "home")], by decide⟩
  accountBindings _ := none
  defaultLaunch := none
  workspaces := ⟨[("site", sampleWorkspace)], by decide⟩

/-- Two accounts of a workspace serve two instances of one agent. -/
theorem sample_launch_permitted :
    ∃ instances,
      resolveLaunch sampleConfig (some "site") "dev" (some ["main", "spare"]) none =
        .ok instances ∧
      instances.length = 2 ∧
      ∀ launched ∈ instances, launched.accountId ∈ sampleWorkspace.accounts := by
  have resolved :
      resolveLaunch sampleConfig (some "site") "dev" (some ["main", "spare"]) none =
        .ok [.bind "main" (sampleConfiguration "work") sampleAccount,
          .bind "spare" (sampleConfiguration "home") sampleAccount] :=
    rfl
  refine ⟨_, resolved, rfl, ?_⟩
  intro launched member
  have permitted := @launched_instances_permitted sampleConfig _ _ _ _ [] _ (.inl resolved)
  obtain ⟨_, known, listed⟩ := (permitted.1 launched member).2 "site" rfl
  cases known
  exact listed

end Jackin.Accounts
