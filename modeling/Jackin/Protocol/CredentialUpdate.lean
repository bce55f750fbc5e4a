import Jackin.Foundation.Machine
import Jackin.Foundation.Result
import Jackin.Foundation.Text
import Jackin.Foundation.Wire

/-!
# The signing bytes of credential updates

A credential update is signed over a transcript: a prefix, the name of the
phase, the context and the payload.  Every part of variable length stands
behind its length, so the transcript determines the message.
-/

namespace Jackin.Protocol

open Foundation Wire

def maxCredentialRefreshPayloadBytesV2 : Nat := 4 * 1024 * 1024

def signedControlPrefixV2 : List UInt8 := utf8 "jackin-signed-control-v2\x00"

inductive CredentialRefreshPhaseV2 where
  | prepare
  | commit
  | abort
  deriving DecidableEq

def CredentialRefreshPhaseV2.domain : CredentialRefreshPhaseV2 → List UInt8
  | .prepare => utf8 "credential-refresh-prepare-v2"
  | .commit => utf8 "credential-refresh-commit-v2"
  | .abort => utf8 "credential-refresh-abort-v2"

def validResourceId (value : String) : Bool :=
  value != "" && value.utf8ByteSize ≤ 512 && !value.toList.any Text.isControl

def validUuidByte (byte : UInt8) : Nat → Bool
  | 8 | 13 | 18 | 23 => byte == 45
  | 14 => byte == 52
  | 19 => byte == 56 || byte == 57 || byte == 97 || byte == 98
  | _ => (48 ≤ byte && byte ≤ 57) || (97 ≤ byte && byte ≤ 102)

def validUuidV4 (value : String) : Bool :=
  (utf8 value).length == 36 && (utf8 value).zipIdx.all fun (byte, index) => validUuidByte byte index

/-- Each part of the context has its form. -/
def validContext (resourceId daemonBootId nonce : String) : Bool :=
  validResourceId resourceId && validUuidV4 daemonBootId && validUuidV4 nonce

/-- The context of an update, as the constructor accepts it. -/
@[ext]
structure CredentialRefreshContextV2 where
  resourceId : String
  daemonBootId : String
  nonce : String
  expectedGeneration : UInt64
  valid : validContext resourceId daemonBootId nonce

inductive CredentialRefreshEncodingErrorV2 where
  | invalidContext
  | payloadTooLarge
  | abortPayloadMustBeEmpty
  | lengthOverflow
  | allocationFailed

def CredentialRefreshContextV2.new
    (resourceId daemonBootId nonce : String) (expectedGeneration : UInt64) :
    Except CredentialRefreshEncodingErrorV2 CredentialRefreshContextV2 :=
  if valid : validContext resourceId daemonBootId nonce = true then
    .ok ⟨resourceId, daemonBootId, nonce, expectedGeneration, valid⟩
  else .error .invalidContext

/-- `usize::checked_add` -/
def checkedAdd (left right : Nat) : Option Nat :=
  if left + right ≤ Machine.u64Max then some (left + right) else none

/-- The size of a transcript with these fields. -/
def totalSize (fieldSizes : List Nat) : Option Nat := do
  let fixed ← checkedAdd signedControlPrefixV2.length 8
  fieldSizes.foldlM (fun size fieldSize => do checkedAdd (← checkedAdd size 8) fieldSize) fixed

section

variable (phase : CredentialRefreshPhaseV2)
    (context : CredentialRefreshContextV2)
    (payload : List UInt8)

def signedFields : List (List UInt8) :=
  [phase.domain, utf8 context.resourceId, utf8 context.daemonBootId, utf8 context.nonce, payload]

/-- The bytes that are signed: every part with its length. -/
def transcript : List UInt8 :=
  signedControlPrefixV2 ++ (framed phase.domain ++ (framed (utf8 context.resourceId) ++
    (framed (utf8 context.daemonBootId) ++ (framed (utf8 context.nonce) ++
    (bigEndian 8 context.expectedGeneration.toNat ++ framed payload)))))

/-- `encode_signing_bytes_v2`, with whether so many bytes can be reserved. -/
def encodeSigningBytesV2 (tryReserveExact : Nat → Bool) :
    Except CredentialRefreshEncodingErrorV2 (List UInt8) := do
  Result.require (payload.length ≤ maxCredentialRefreshPayloadBytesV2) .payloadTooLarge
  Result.require (¬(phase = .abort ∧ payload ≠ [])) .abortPayloadMustBeEmpty
  let fields := signedFields phase context payload
  Result.require (∀ field ∈ fields, field.length ≤ Machine.u64Max) .lengthOverflow
  let size ← Result.present (totalSize (fields.map List.length)) .lengthOverflow
  Result.require (tryReserveExact size) .allocationFailed
  return transcript phase context payload

end

theorem domain_injective :
    Function.Injective CredentialRefreshPhaseV2.domain := by
  intro first second same
  have texts := congrArg List.length same
  cases first <;> cases second <;> first | rfl | exact absurd texts (by decide)

variable {tryReserveExact otherReserve : Nat → Bool}
    {phase otherPhase : CredentialRefreshPhaseV2}
    {context otherContext : CredentialRefreshContextV2}
    {payload otherPayload bytes : List UInt8}

theorem encodeSigningBytesV2_ok
    (encoded : encodeSigningBytesV2 phase context payload tryReserveExact = .ok bytes) :
    transcript phase context payload = bytes ∧
      ∀ field ∈ signedFields phase context payload, field.length < 256 ^ 8 := by
  simp only [encodeSigningBytesV2, Result.bind_eq_ok, Result.require_eq_ok,
    Result.pure_eq_ok] at encoded
  obtain ⟨_, _, _, _, _, sizes, _, _, _, _, written⟩ := encoded
  exact ⟨written, fun field member => Nat.lt_succ_of_le (sizes field member)⟩

/-- The signing bytes determine phase, context and payload. -/
theorem signing_bytes_determine_message
    (encoded : encodeSigningBytesV2 phase context payload tryReserveExact = .ok bytes)
    (otherEncoded : encodeSigningBytesV2 otherPhase otherContext otherPayload
      otherReserve = .ok bytes) :
    phase = otherPhase ∧ context = otherContext ∧ payload = otherPayload := by
  obtain ⟨written, small⟩ := encodeSigningBytesV2_ok encoded
  obtain ⟨same, otherSmall⟩ := encodeSigningBytesV2_ok otherEncoded
  rw [← written] at same
  simp only [signedFields, List.forall_mem_cons] at small otherSmall
  obtain ⟨domain, same⟩ := framed_append_inj otherSmall.1 small.1 (List.append_cancel_left same)
  obtain ⟨resource, same⟩ := framed_append_inj otherSmall.2.1 small.2.1 same
  obtain ⟨boot, same⟩ := framed_append_inj otherSmall.2.2.1 small.2.2.1 same
  obtain ⟨nonce, same⟩ := framed_append_inj otherSmall.2.2.2.1 small.2.2.2.1 same
  obtain ⟨generation, same⟩ := bigEndian_append_inj (UInt64.toNat_lt _) (UInt64.toNat_lt _) same
  obtain ⟨payload, _⟩ := framed_append_inj otherSmall.2.2.2.2.1
    small.2.2.2.2.1 (congrArg (· ++ []) same)
  exact ⟨(domain_injective domain).symm,
    (CredentialRefreshContextV2.ext (utf8_injective resource) (utf8_injective boot)
      (utf8_injective nonce) (UInt64.toNat_inj.mp generation)).symm, payload.symm⟩

def sampleContext : CredentialRefreshContextV2 :=
  ⟨"account", "00000000-0000-4000-8000-000000000000",
    "11111111-1111-4111-a111-111111111111", 7, by decide⟩

theorem sample_message_determined :
    ∃ bytes, encodeSigningBytesV2 .commit sampleContext [1] (fun _ => true) = .ok bytes ∧
      ∀ phase context payload,
        encodeSigningBytesV2 phase context payload (fun _ => true) = .ok bytes →
          .commit = phase ∧ sampleContext = context ∧ [1] = payload :=
  ⟨transcript .commit sampleContext [1], rfl, fun _ _ _ =>
    signing_bytes_determine_message (show encodeSigningBytesV2 _ _ _ (fun _ => true) = _ from rfl)⟩

end Jackin.Protocol
