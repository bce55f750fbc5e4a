import Mathlib
import Jackin.Foundation.Text

/-!
# Keys of quota scopes

Metrics of one allowance are recognised by a text made from the parts of its
quota scope.  A part is written behind the number of its bytes and an absent
part as a dash, so the texts tell scopes apart whatever their parts contain.
-/

namespace Jackin.Protocol

open Foundation String

/-- What a quota is counted for. -/
@[ext]
structure UsageQuotaScopeKey where
  service : String
  billingSubject : String
  scope : String
  model : Option String
  key : Option String

def segment (value : String) : String := toString value.utf8ByteSize ++ ":" ++ value

def optional : Option String → String
  | none => "-"
  | some value => segment value

def UsageQuotaScopeKey.dedupKey (key : UsageQuotaScopeKey) : String :=
  "quota-scope-v1:" ++ segment key.service ++ ":" ++
    segment key.billingSubject ++ ":" ++ segment key.scope ++ ":" ++
    optional key.model ++ ":" ++ optional key.key

theorem toList_segment :
    (segment value).toList =
      (toString value.utf8ByteSize).toList ++ ':' :: value.toList := by
  simp [segment]

/-- A segment tells where it ends. -/
theorem segment_append_inj (same : segment first ++ firstRest = segment second ++ secondRest) :
    first = second ∧ firstRest = secondRest := by
  have letters := congrArg toList same
  rw [toList_append, toList_append, toList_segment,
    toList_segment, List.append_assoc, List.append_assoc] at letters
  obtain ⟨sizes, rest⟩ := Text.separator_append_inj (Text.not_mem_toString (by decide))
    (Text.not_mem_toString (by decide)) letters
  obtain ⟨whole, rest⟩ := Text.append_inj_of_size (Nat.repr_inj.mp (toList_injective sizes)) rest
  exact ⟨whole, toList_injective rest⟩

/-- A segment starts with a digit. -/
theorem segment_append_ne_dash :
    segment value ++ firstRest ≠ "-" ++ secondRest := by
  intro same
  have letters := congrArg toList same
  rw [toList_append, toList_append, toList_segment] at letters
  have dash : '-' ∉ (toString value.utf8ByteSize).toList :=
    Text.not_mem_toString (by decide)
  cases digits : (toString value.utf8ByteSize).toList with
  | nil =>
    rw [digits] at letters
    cases letters
  | cons digit _ =>
    rw [digits] at letters dash
    rw [(List.cons.inj letters).1] at dash
    exact dash List.mem_cons_self

theorem optional_append_inj (same : optional first ++ firstRest = optional second ++ secondRest) :
    first = second ∧ firstRest = secondRest := by
  cases first with
  | none =>
    cases second with
    | none => exact ⟨rfl, (append_right_inj _).mp same⟩
    | some second => exact absurd same.symm segment_append_ne_dash
  | some first =>
    cases second with
    | none => exact absurd same segment_append_ne_dash
    | some second =>
      obtain ⟨rfl, rest⟩ := segment_append_inj same
      exact ⟨rfl, rest⟩

/-- Two quota scopes have one key exactly when all their parts are equal. -/
theorem dedupKey_eq_iff (first second : UsageQuotaScopeKey) :
    first.dedupKey = second.dedupKey ↔ first = second := by
  constructor
  · intro same
    unfold UsageQuotaScopeKey.dedupKey at same
    simp only [append_assoc, append_right_inj] at same
    obtain ⟨service, same⟩ := segment_append_inj same
    obtain ⟨subject, same⟩ := segment_append_inj ((append_right_inj _).mp same)
    obtain ⟨scope, same⟩ := segment_append_inj ((append_right_inj _).mp same)
    obtain ⟨model, same⟩ := optional_append_inj ((append_right_inj _).mp same)
    have key := (append_right_inj _).mp same
    exact UsageQuotaScopeKey.ext service subject scope model
      (optional_append_inj (congrArg (· ++ "") key)).1
  · intro same
    rw [same]

example :
    (UsageQuotaScopeKey.mk "a:1" "" "ü" none (some "-")).dedupKey =
      "quota-scope-v1:3:a:1:0::2:ü:-:1:-" := by
  rfl

end Jackin.Protocol
