import Mathlib
import Jackin.Foundation.Result

/-!
# Homes of panes

The first session of an agent instance runs in the home of the instance.  One
that starts while another session of the instance is registered gets a
directory of its own below that home, numbered by a counter that only grows: a
start that fails has used up its number.
-/

namespace Jackin.Layout.Homes

open Foundation.Result List

/-- What a launch looks up for an instance, and the identity of shells. -/
structure LaunchConfig where
  agentForInstance : String → Option String
  homeForInstance : String → Option String
  forwardedForInstance : String → Option String
  identityForInstance : String → Option Nat
  shellIdentity : Option Nat

inductive LaunchFailure where
  | lacks (name part : String)
  | noShellIdentity

/-- A shell has no agent and no home of its own. -/
structure Session where
  id : UInt64
  agent : Option String
  homeDir : Option String

/-- The sessions, and the next number for a home. -/
structure Multiplexer where
  sessions : List Session
  paneHomeSeq : UInt64

def paneHomesDirName : String := "panes"

def homeIn (baseHome : String) : Option UInt64 → String
  | some seq => baseHome ++ "/" ++ paneHomesDirName ++ "/" ++ toString seq
  | none => baseHome

def LaunchConfig.homeDir (config : LaunchConfig) (name : String)
    (derivedHomeSeq : Option UInt64) :
    Except LaunchFailure String := do
  let _ ← present (config.agentForInstance name) (.lacks name "agent runtime")
  let baseHome ← present (config.homeForInstance name) (.lacks name "home dir")
  let _ ← present (config.forwardedForInstance name) (.lacks name "forwarded dir")
  let _ ← present (config.identityForInstance name) (.lacks name "isolated Unix identity")
  return homeIn baseHome derivedHomeSeq

namespace Multiplexer

section

variable (config : LaunchConfig) (mux : Multiplexer)

def assignPaneHomeSeq (name : String) : Option UInt64 × Multiplexer :=
  if mux.sessions.any (·.agent = some name) then
    (some mux.paneHomeSeq, { mux with paneHomeSeq := mux.paneHomeSeq + 1 })
  else (none, mux)

def sessionLaunch : Option String → Except LaunchFailure (Option String) × Multiplexer
  | some name =>
    let (derivedHomeSeq, mux) := mux.assignPaneHomeSeq name
    (some <$> config.homeDir name derivedHomeSeq, mux)
  | none => (if config.shellIdentity.isSome then .ok none else .error .noShellIdentity, mux)

def remove (id : UInt64) : Multiplexer :=
  { mux with sessions := mux.sessions.filter (·.id ≠ id) }

def insert (session : Session) : Multiplexer :=
  { mux with sessions := session :: (mux.remove session.id).sessions }

/-- Launch and register a session; `Session::spawn` yields an identity or fails. -/
def start (agent : Option String)
    (spawned : Option UInt64) : Option UInt64 × Multiplexer :=
  let (launched, mux) := mux.sessionLaunch config agent
  match launched, spawned with
  | .ok homeDir, some id => (id, mux.insert ⟨id, agent, homeDir⟩)
  | _, _ => (none, mux)

def spawnSession (agent : Option String)
    (spawned : Option UInt64) : Multiplexer :=
  (mux.start config agent spawned).2

/-- A session for which the tree of the tab has no place is removed again. -/
def splitFocusedInto (agent : Option String) (spawned : Option UInt64)
    (placed : Bool) :
    Multiplexer :=
  match mux.start config agent spawned with
  | (some id, mux) => if placed then mux else mux.remove id
  | (none, mux) => mux

/-- Requests that are refused before the launch change nothing. -/
inductive Operation where
  | spawn (agent : Option String) (spawned : Option UInt64)
  | split (agent : Option String) (spawned : Option UInt64) (placed : Bool)
  | close (id : UInt64)

def step : Operation → Multiplexer
  | .spawn agent spawned => mux.spawnSession config agent spawned
  | .split agent spawned placed => mux.splitFocusedInto config agent spawned placed
  | .close id => mux.remove id

end

/-- Runs in which the counter does not wrap around. -/
inductive Reached (config : LaunchConfig) : Multiplexer → Prop
  | start : Reached config ⟨[], 0⟩
  | step (reached : Reached config mux) (operation : Operation)
    (unwrapped : mux.paneHomeSeq ≤ (mux.step config operation).paneHomeSeq) :
    Reached config (mux.step config operation)

end Multiplexer

open Multiplexer

theorem homeIn_injective : (homeIn base).Injective := by
  have longer : ∀ seq, homeIn base (some seq) ≠ base := by
    intro seq same
    have sizes := congrArg String.length same
    have slash : "/".length = 1 := rfl
    simp only [homeIn, String.length_append] at sizes
    omega
  rintro (_ | first) (_ | second) same
  · rfl
  · exact absurd same.symm (longer second)
  · exact absurd same (longer first)
  · have digits := Nat.repr_inj.mp ((String.append_right_inj _).mp same)
    exact congrArg some (UInt64.toNat_inj.mp digits)

/-- The number of a home, if it has one, has been used. -/
def HomeOf (config : LaunchConfig) (bound : UInt64) (name : String)
    (home : Option String) : Prop :=
  ∃ base seq, config.homeForInstance name = some base ∧ home = some (homeIn base seq) ∧
    ∀ number ∈ seq, number < bound

/-- No two sessions of an instance share a home. -/
def Apart (mux : Multiplexer) : Prop :=
  ∀ first ∈ mux.sessions, ∀ second ∈ mux.sessions, first.id ≠ second.id → ∀ name,
    first.agent = some name → second.agent = some name → first.homeDir ≠ second.homeDir

/-- Homes are apart, and numbered below the next number. -/
structure Sound (config : LaunchConfig) (mux : Multiplexer) : Prop where
  apart : Apart mux
  homes : ∀ session ∈ mux.sessions, ∀ name, session.agent = some name →
    HomeOf config mux.paneHomeSeq name session.homeDir

variable {config : LaunchConfig} {mux : Multiplexer} {id : UInt64}

theorem Sound.remove (sound : Sound config mux) :
    Sound config (mux.remove id) where
  apart _ here _ there := sound.apart _ (mem_of_mem_filter here) _ (mem_of_mem_filter there)
  homes session member := sound.homes session (mem_of_mem_filter member)

theorem Sound.insert (sound : Sound config mux)
    (fresh : ∀ name, agent = some name → HomeOf config mux.paneHomeSeq name homeDir ∧
      ∀ other ∈ mux.sessions, other.agent = some name → homeDir ≠ other.homeDir) :
    Sound config (mux.insert ⟨id, agent, homeDir⟩) where
  apart _ here _ there different name one other := by
    rcases mem_cons.mp here with rfl | here <;> rcases mem_cons.mp there with rfl | there
    · exact absurd rfl different
    · exact (fresh name one).2 _ (mem_of_mem_filter there) other
    · exact ((fresh name other).2 _ (mem_of_mem_filter here) one).symm
    · exact sound.remove.apart _ here _ there different name one other
  homes session member := by
    rcases mem_cons.mp member with rfl | member
    · exact fun name agent => (fresh name agent).1
    · exact sound.remove.homes session member

theorem homeDir_eq_ok (launched : some <$> config.homeDir name seq = .ok home) :
    ∃ base, config.homeForInstance name = some base ∧ home = some (homeIn base seq) := by
  simp only [LaunchConfig.homeDir, functorMap_eq_ok, bind_eq_ok, present_eq_ok, pure_eq_ok]
    at launched
  obtain ⟨_, ⟨_, _, base, found, _, _, _, _, rfl⟩, rfl⟩ := launched
  exact ⟨base, found, rfl⟩

/-- The number assigned is new, and there is one unless no session of the instance is there. -/
theorem Sound.assign (sound : Sound config mux)
    (assigned : mux.assignPaneHomeSeq name = (seq, later))
    (unwrapped : mux.paneHomeSeq ≤ later.paneHomeSeq) :
    Sound config later ∧ (∀ number ∈ seq, number < later.paneHomeSeq) ∧
      ∀ other ∈ later.sessions, other.agent = some name →
        ∀ base, config.homeForInstance name = some base →
          other.homeDir ≠ some (homeIn base seq) := by
  unfold assignPaneHomeSeq at assigned
  split at assigned
  · cases assigned
    have less : mux.paneHomeSeq < mux.paneHomeSeq + 1 :=
      UInt64.lt_of_le_of_ne unwrapped (by simp)
    refine ⟨⟨sound.apart, fun session member name agent => ?_⟩, ?_, ?_⟩
    · obtain ⟨base, seq, found, home, below⟩ := sound.homes session member name agent
      exact ⟨base, seq, found, home, fun number used => UInt64.lt_trans (below _ used) less⟩
    · rintro _ ⟨⟩
      exact less
    · intro other member agent base found same
      obtain ⟨_, seq, again, home, below⟩ := sound.homes other member name agent
      cases found.symm.trans again
      have same := homeIn_injective (Option.some.inj (home.symm.trans same))
      exact UInt64.lt_irrefl _ (below _ (same ▸ rfl))
  · rename_i alone
    cases assigned
    refine ⟨sound, nofun, fun other member agent => ?_⟩
    exact absurd (any_eq_true.mpr ⟨other, member, decide_eq_true agent⟩) alone

theorem Sound.start (sound : Sound config mux)
    (unwrapped : mux.paneHomeSeq ≤ (mux.start config agent spawned).2.paneHomeSeq) :
    Sound config (mux.start config agent spawned).2 := by
  unfold Multiplexer.start sessionLaunch at unwrapped ⊢
  cases agent with
  | none =>
    dsimp only
    split
    · exact sound.insert nofun
    · exact sound
  | some name =>
    rcases assigned : mux.assignPaneHomeSeq name with ⟨seq, later⟩
    simp only [assigned] at unwrapped ⊢
    split at unwrapped
    · rename_i launched
      obtain ⟨whole, below, fresh⟩ := sound.assign assigned unwrapped
      obtain ⟨base, found, rfl⟩ := homeDir_eq_ok launched
      apply whole.insert
      rintro _ ⟨⟩
      exact ⟨⟨base, _, found, rfl, below⟩, fun other member agent same =>
        fresh other member agent base found same.symm⟩
    · exact (sound.assign assigned unwrapped).1

/-- One operation keeps the homes apart unless the counter wraps around. -/
theorem Sound.step (sound : Sound config mux)
    (unwrapped : mux.paneHomeSeq ≤ (mux.step config operation).paneHomeSeq) :
    Sound config (mux.step config operation) := by
  cases operation with
  | spawn agent spawned => exact sound.start unwrapped
  | split agent spawned placed =>
    simp only [Multiplexer.step, splitFocusedInto] at unwrapped ⊢
    rcases started : mux.start config agent spawned with ⟨_ | id, later⟩
    all_goals
      simp only [started] at unwrapped ⊢
      have whole := @sound.start _ _ agent spawned
      rw [started] at whole
    · exact whole unwrapped
    · cases placed with
      | false => exact (whole unwrapped).remove
      | true => exact whole unwrapped
  | close id => exact sound.remove

/-- Sessions of one instance have homes of their own in every run. -/
theorem instance_homes_distinct (reached : Reached config mux) : Apart mux := by
  suffices sound : Sound config mux from sound.apart
  induction reached with
  | start => exact ⟨nofun, nofun⟩
  | step _ operation unwrapped ih => exact ih.step unwrapped

/-- A second session beside the first one. -/
theorem two_homes_distinct :
    let config : LaunchConfig := ⟨some, some, some, fun _ => some 0, none⟩
    let mux : Multiplexer := ⟨[⟨2, "main", "main/panes/0"⟩, ⟨1, "main", "main"⟩], 1⟩
    Reached config mux ∧ Apart mux := by
  intro config mux
  have one : Reached config ⟨[⟨1, "main", "main"⟩], 0⟩ :=
    Reached.start.step (.spawn "main" (some 1)) (by decide)
  have two : Reached config mux := one.step (.split "main" (some 2) true) (by decide)
  exact ⟨two, instance_homes_distinct two⟩

end Jackin.Layout.Homes
