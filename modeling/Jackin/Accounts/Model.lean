import Jackin.Foundation.Table

/-!
# Accounts and agents

A configuration registers accounts with AI providers, named configurations of
agents, and workspaces to which accounts are assigned.  An account supports an
agent when it is enabled and its credential can authenticate that agent with
its provider.  What no launch reads is left out.
-/

namespace Jackin.Accounts

open Foundation

inductive Agent where
  | claude
  | codex
  | amp
  | kimi
  | opencode
  | grok
  | antigravity
  | gemini
  | cursor
  | muse
  | omp
  | hermes
  deriving DecidableEq

inductive FolderVarKind where
  | dir
  | parent
  | xdgRoot

/-- A variable that moves an agent's folder. -/
structure FolderVar where
  name : String
  kind : FolderVarKind

namespace Agent

def all : List Agent :=
  [.claude, .codex, .amp, .kimi, .opencode, .grok, .antigravity, .gemini,
    .cursor, .muse, .omp, .hermes]

theorem mem_all : agent ∈ all := by cases agent <;> decide

def slug : Agent → String
  | .claude => "claude"
  | .codex => "codex"
  | .amp => "amp"
  | .kimi => "kimi"
  | .opencode => "opencode"
  | .grok => "grok"
  | .antigravity => "antigravity"
  | .gemini => "gemini"
  | .cursor => "cursor"
  | .muse => "muse"
  | .omp => "omp"
  | .hermes => "hermes"

def label : Agent → String
  | .claude => "Claude"
  | .codex => "Codex"
  | .amp => "Amp"
  | .kimi => "Kimi"
  | .opencode => "OpenCode"
  | .grok => "Grok"
  | .antigravity => "Antigravity"
  | .gemini => "Gemini"
  | .cursor => "Cursor"
  | .muse => "Muse"
  | .omp => "omp"
  | .hermes => "Hermes"

/-- The variable that names the folder an agent keeps its state in. -/
def folderEnvVar : Agent → Option FolderVar
  | .claude => some ⟨"CLAUDE_CONFIG_DIR", .dir⟩
  | .codex => some ⟨"CODEX_HOME", .dir⟩
  | .amp => some ⟨"XDG_DATA_HOME", .xdgRoot⟩
  | .kimi => none
  | .opencode => some ⟨"XDG_DATA_HOME", .xdgRoot⟩
  | .grok => none
  | .antigravity => some ⟨"GEMINI_CLI_HOME", .parent⟩
  | .gemini => some ⟨"GEMINI_CLI_HOME", .parent⟩
  | .cursor => some ⟨"CURSOR_CONFIG_DIR", .dir⟩
  | .muse => none
  | .omp => some ⟨"PI_CODING_AGENT_DIR", .dir⟩
  | .hermes => some ⟨"HERMES_HOME", .dir⟩

end Agent

/-! ## Accounts -/

inductive AiProvider where
  | anthropic
  | openAi
  | amp
  | xai
  | opencode
  | moonshot
  | zai
  | minimax
  | google
  | cursor
  | metaAi
  | openRouter
  deriving DecidableEq

def AiProvider.forAgent : Agent → Option AiProvider
  | .claude => some .anthropic
  | .codex => some .openAi
  | .amp => some .amp
  | .kimi => some .moonshot
  | .opencode => some .opencode
  | .grok => some .xai
  | .antigravity => some .google
  | .gemini => some .google
  | .cursor => some .cursor
  | .muse => some .metaAi
  | .omp => none
  | .hermes => none

/-- A value for the environment, or where to find one. -/
inductive EnvValue where
  | opRef (op path : String) (account : Option String) (onDemand : Bool)
  | extended (value : String) (onDemand : Bool)
  | plain (value : String)

structure ProfileSelector where
  entry : String
  profile : Option String

structure XdgRoots where
  data : String
  config : String
  cache : String

/-- How an account signs in. -/
inductive AccountCredential where
  | profile (agent : Agent) (directory : String)
      (xdgRoots : Option XdgRoots) (sourceSelector : Option ProfileSelector)
  | apiKey (value : EnvValue) (baseUrl model : Option String)
  | oAuthToken (agent : Agent) (value : EnvValue)

/-- A registered account. -/
structure AccountConfig where
  enabled : Bool
  name : String
  provider : AiProvider
  credential : AccountCredential

/-- The agents an API key authenticates besides its provider's own. -/
def routesApiKey (provider : AiProvider) : Agent → Bool
  | .claude => provider == .moonshot || provider == .zai || provider == .minimax
  | .codex => provider == .moonshot || provider == .zai || provider == .minimax
  | .opencode => provider != .amp
  | .omp => provider != .amp
  | .hermes => provider != .amp
  | _ => false

namespace AccountConfig

def compatibleAgent (account : AccountConfig) (agent : Agent) : Bool :=
  match account.credential with
  | .profile owner _ _ _ =>
    owner == agent && (some account.provider == AiProvider.forAgent agent ||
        (agent == .opencode || agent == .omp || agent == .hermes))
  | .oAuthToken owner _ => owner == agent && agent == .claude && account.provider == .anthropic
  | .apiKey _ _ _ =>
    some account.provider == AiProvider.forAgent agent || routesApiKey account.provider agent

def supportsAgent (account : AccountConfig) (agent : Agent) : Bool :=
  account.enabled && account.compatibleAgent agent

end AccountConfig

/-! ## Configurations -/

structure WrapperSpec where
  identity : String
  args : List String

/-- An agent bound to an account. -/
structure AgentConfiguration where
  agent : Agent
  account : String
  model : Option String
  baseUrl : Option String
  displayLabel : Option String
  invokedViaWrapper : Option WrapperSpec

/-- Entries under ids. -/
abbrev Registry (Value : Type) := Table (Prod.fst : String × Value → String)

namespace Registry

variable {Value : Type}

def get? (registry : Registry Value) (id : String) : Option Value :=
  (registry.find? id).map Prod.snd

theorem get?_of_mem {registry : Registry Value} {id}
    (member : (id, value) ∈ registry.rows) : registry.get? id = some value := by
  rw [get?, Table.mem_rows_iff.mp member]
  rfl

end Registry

/-- Which account an agent uses, where that is settled. -/
abbrev AccountBindings := Agent → Option String

/-- What a role sets for itself in a workspace. -/
structure WorkspaceRoleOverride where
  accountBindings : AccountBindings
  defaultLaunch : Option (List String)

structure WorkspaceConfig where
  accounts : List String
  accountBindings : AccountBindings
  defaultLaunch : Option (List String)
  roles : Registry WorkspaceRoleOverride

/-- The configuration, as far as launches read it. -/
structure AppConfig where
  accounts : Registry AccountConfig
  agentConfigurations : Registry AgentConfiguration
  accountBindings : AccountBindings
  defaultLaunch : Option (List String)
  workspaces : Registry WorkspaceConfig

/--
A piece of a message: a text, or a value in quotes with its special
characters escaped.
-/
inductive Piece where
  | text (text : String)
  | quoted (value : String)

inductive ConfigError where
  | workspaceNotFound (name : String)
  | msg (pieces : List Piece)

end Jackin.Accounts
