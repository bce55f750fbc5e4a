import Jackin.Coordinator.Model

/-!
# Retry deadlines

After a failure an account waits for the exponential backoff, capped, with
some jitter below the cap.  None of the operations that are not saturating
leaves its range, and the deadline is between the whole seconds of the capped
backoff and the cap, unless the provider asks for a later one.
-/

namespace Jackin.Coordinator

open Foundation.Machine

variable {View : Type}

/-- The operations of `retryDeadline` that would panic, made visible. -/
def checkedRetryDeadline (shared : Shared View) (capability : Capability)
    (generation failures : Nat) (providerDeadline : Option Int)
    (finishedAtEpoch : Int) : Option (Option Int) :=
  if failures = 0 then some providerDeadline
  else do
    let policy := shared.config.retryPolicy
    let factor := 2 ^ min (failures - 1) 8
    guard (factor ≤ u32Max)
    let product := policy.retryBase * factor
    let exponential :=
      min (if product ≤ durationMax then product else policy.retryCap) policy.retryCap
    let capSeconds := max (asSecs policy.retryCap) 1
    let exponentialSeconds := min (max (asSecs exponential) 1) capSeconds
    let seed := accountKeyHashSeed shared capability generation failures
    guard (exponentialSeconds ≤ capSeconds)
    let jitterCap := min (exponentialSeconds / 4) (capSeconds - exponentialSeconds)
    guard (jitterCap = 0 ∨ jitterCap + 1 ≤ u64Max)
    let jitter := if jitterCap = 0 then 0 else seed % (jitterCap + 1)
    let backoff := min (exponentialSeconds + jitter) u64Max
    let fallback := addI64 finishedAtEpoch (toI64 backoff)
    return some (raise providerDeadline fallback)

/-- The exponential backoff of a policy, capped. -/
def UsagePolicy.backoff (policy : UsagePolicy) (failures : Nat) : Nat :=
  min (policy.retryBase * 2 ^ min (failures - 1) 8) policy.retryCap

/-- The whole seconds of the backoff, at least one. -/
def UsagePolicy.backoffSeconds (policy : UsagePolicy) (failures : Nat) : Nat :=
  max (asSecs (policy.backoff failures)) 1

/-- The longest wait in whole seconds, at least one. -/
def UsagePolicy.capSeconds (policy : UsagePolicy) : Nat :=
  max (asSecs policy.retryCap) 1

theorem asSecs_mono (le : first ≤ second) : asSecs first ≤ asSecs second :=
  Nat.div_le_div_right le

theorem asSecs_le_u64Max (range : duration ≤ durationMax) :
    asSecs duration ≤ u64Max := by
  unfold durationMax u64Max nanos at range
  unfold asSecs u64Max nanos
  omega

theorem jitter_le {seed jitterCap} :
    (if jitterCap = 0 then 0 else seed % (jitterCap + 1)) ≤ jitterCap := by
  split
  · exact Nat.zero_le _
  · exact Nat.lt_succ_iff.mp (Nat.mod_lt seed (Nat.succ_pos jitterCap))

/--
The deadline after a failure: nothing overflows, it is at least one second
and the whole seconds of the backoff away, at most the cap unless the
provider's deadline is later, and not before that one.
-/
theorem retryDeadline_bounds (shared : Shared View) (capability : Capability)
    (generation failures : Nat) (providerDeadline : Option Int)
    (finishedAtEpoch : Int) (failed : 1 ≤ failures)
    (capRange : shared.config.retryPolicy.retryCap ≤ durationMax)
    (epochRange : i64Min ≤ finishedAtEpoch)
    (unsaturated : shared.config.retryPolicy.backoffSeconds failures ≤ i64Max ∧
      finishedAtEpoch + shared.config.retryPolicy.backoffSeconds failures ≤ i64Max) :
    ∃ deadline, checkedRetryDeadline shared capability generation failures
        providerDeadline finishedAtEpoch = some (some deadline) ∧
      retryDeadline shared capability generation failures providerDeadline
        finishedAtEpoch = some deadline ∧
      finishedAtEpoch + shared.config.retryPolicy.backoffSeconds failures ≤
        deadline ∧
      (deadline ≤ finishedAtEpoch + shared.config.retryPolicy.capSeconds ∨
        providerDeadline = some deadline) ∧
      ∀ provider ∈ providerDeadline, provider ≤ deadline := by
  have nonzero : failures ≠ 0 := Nat.one_le_iff_ne_zero.mp failed
  have factor : 2 ^ min (failures - 1) 8 ≤ u32Max :=
    (Nat.pow_le_pow_right Nat.two_pos (min_le_right _ 8)).trans (by decide)
  rw [checkedRetryDeadline, retryDeadline, if_neg nonzero, if_neg nonzero]
  generalize shared.config.retryPolicy = policy at *
  have capped : min (if policy.retryBase * 2 ^ min (failures - 1) 8 ≤
      durationMax then policy.retryBase * 2 ^ min (failures - 1) 8
      else policy.retryCap) policy.retryCap = policy.backoff failures := by
    unfold UsagePolicy.backoff
    split <;> omega
  have within : policy.backoffSeconds failures ≤ policy.capSeconds :=
    max_le_max_right 1 (asSecs_mono (min_le_right _ _))
  have short : policy.capSeconds ≤ u64Max :=
    max_le (asSecs_le_u64Max capRange) (by decide)
  simp only [UsagePolicy.capSeconds, UsagePolicy.backoffSeconds] at within short unsaturated ⊢
  simp only [capped, min_eq_left within]
  generalize max (asSecs (policy.backoff failures)) 1 = wait at *
  generalize max (asSecs policy.retryCap) 1 = longest at *
  generalize capped : min (wait / 4) (longest - wait) = jitterCap
  have fits : jitterCap = 0 ∨ jitterCap + 1 ≤ u64Max := by omega
  have most := @jitter_le (accountKeyHashSeed shared capability generation failures) jitterCap
  generalize (if jitterCap = 0 then 0 else _ % (jitterCap + 1)) = jitter at *
  have least : finishedAtEpoch + wait ≤
      addI64 finishedAtEpoch (toI64 (min (wait + jitter) u64Max)) := by
    unfold addI64 toI64
    omega
  have most : addI64 finishedAtEpoch (toI64 (min (wait + jitter) u64Max)) ≤
      finishedAtEpoch + longest := by
    unfold addI64 toI64
    omega
  refine ⟨_, ?_, rfl, least.trans floor_le_raise, ?_, ?_⟩
  · simp only [factor, within, fits]
    rfl
  · cases providerDeadline with
    | none =>
      refine .inl ?_
      simp only [raise]
      omega
    | some provider =>
      simp only [raise, Option.some.injEq]
      omega
  · exact fun provider asked => AtLeast.raise ⟨provider, asked, le_rfl⟩

/-- A backoff of half a second more than a second gives a second only. -/
theorem half_second_is_lost :
    let shared : Shared Unit := ⟨⟨0, 0, ⟨1500000000, ofSecs 900⟩⟩,
      fun _ _ => "", fun _ view => view, fun _ => true⟩
    retryDeadline shared ⟨"account", "codex"⟩ 1 1 none 0 = some 1 ∧
      ofSecs 1 < shared.config.retryPolicy.backoff 1 := by
  decide

/-- The default policy, five failures and no deadline from the provider. -/
theorem fifth_failure_waits :
    let shared : Shared Unit := ⟨⟨0, 0, ⟨ofSecs 30, ofSecs 900⟩⟩,
      fun _ _ => "", fun _ view => view, fun _ => true⟩
    ∃ deadline, retryDeadline shared ⟨"account", "codex"⟩ 1 5 none 0 =
      some deadline ∧ 480 ≤ deadline := by
  intro shared
  obtain ⟨deadline, _, found, later, _⟩ := retryDeadline_bounds shared
    ⟨"account", "codex"⟩ 1 5 none 0 (by decide) (by decide) (by decide)
    (by decide)
  exact ⟨deadline, found, le_trans (by decide) later⟩

end Jackin.Coordinator
