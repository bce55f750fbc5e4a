import Jackin.Workflow.Acceptance

/-!
# Digests of policies and bundles

The bytes that are hashed for a test policy and for a test bundle hold their
texts, each ended by a zero byte.  Texts without zero characters can be read
back from them, and a bundle is hashed in one order of its files.
-/

namespace Jackin.Workflow

open List Foundation

def NulFree (text : String) : Prop := Char.ofNat 0 ∉ text.toList

theorem textBytes_eq :
    textBytes text = text.toList.flatMap String.utf8EncodeChar := by
  have bytes : text.toUTF8 =
      (text.toList.flatMap String.utf8EncodeChar).toByteArray := by
    conv_lhs => rw [← String.ofList_toList (s := text)]
    rfl
  rw [textBytes, bytes]
  simp

theorem textBytes_injective : Function.Injective textBytes := by
  intro text other same
  exact String.toByteArray_inj.mp (ByteArray.ext (Array.toList_inj.mp same))

theorem zero_notMem_utf8EncodeChar (nonzero : char ≠ Char.ofNat 0) :
    0 ∉ String.utf8EncodeChar char := by
  have value : char.val.toNat ≠ 0 := fun zero => nonzero (Char.ext (UInt32.toNat_inj.mp zero))
  unfold String.utf8EncodeChar
  simp only
  split_ifs <;>
    simp only [mem_cons, not_mem_nil, ← UInt8.toNat_inj, UInt8.toNat_ofNat',
      UInt8.toNat_zero, or_false] <;>
    omega

theorem zero_notMem_textBytes (nulFree : NulFree text) :
    0 ∉ textBytes text := by
  rw [textBytes_eq, mem_flatMap]
  rintro ⟨char, member, zero⟩
  exact zero_notMem_utf8EncodeChar (fun same => nulFree (same ▸ member)) zero

/-- The hashed form of a list of texts. -/
def terminated (parts : List String) : List UInt8 :=
  parts.flatMap fun part => textBytes part ++ [0]

section

variable {parts others : List String} (inParts : ∀ part ∈ parts, NulFree part)
    (inOthers : ∀ part ∈ others, NulFree part)
include inParts inOthers

theorem terminated_inj (same : terminated parts = terminated others) :
    parts = others := by
  induction parts generalizing others with
  | nil => cases others <;> simp_all [terminated]
  | cons part parts ih =>
    cases others with
    | nil => simp [terminated] at same
    | cons other others =>
      rw [forall_mem_cons] at inParts inOthers
      simp only [terminated, flatMap_cons, append_assoc, singleton_append] at same
      obtain ⟨first, rest⟩ := Text.separator_append_inj (zero_notMem_textBytes inParts.1)
        (zero_notMem_textBytes inOthers.1) same
      rw [textBytes_injective first, ih inParts.2 inOthers.2 rest]

/-- The part between the arguments and the timeout is the same in every policy. -/
theorem policyBytes_inj (small : timeout < 2 ^ 64)
    (otherSmall : other < 2 ^ 64)
    (same : policyBytes parts timeout = policyBytes others other) :
    parts = others ∧ timeout = other := by
  obtain ⟨texts, timeouts⟩ := append_inj' same (by simp [bigEndianBytes])
  rw [append_left_inj, append_left_inj] at texts
  simp [bigEndianBytes, range_succ, ← UInt8.toNat_inj] at timeouts
  exact ⟨terminated_inj inParts inOthers texts, by omega⟩

end

theorem bundleOrder_trans (first : bundleOrder left middle)
    (second : bundleOrder middle right) : bundleOrder left right := by
  simp only [bundleOrder, decide_eq_true_eq, Prod.mk.injEq] at first second ⊢
  grind

theorem bundleOrder_total :
    (bundleOrder left right || bundleOrder right left) := by
  simp only [bundleOrder, Bool.or_eq_true, decide_eq_true_eq, Prod.mk.injEq]
  grind

theorem bundleOrder_antisymm (first : bundleOrder left right)
    (second : bundleOrder right left) : left = right := by
  cases left
  cases right
  simp only [bundleOrder, decide_eq_true_eq, Prod.mk.injEq, TestBundleFile.mk.injEq]
    at first second ⊢
  grind

variable {files : List TestBundleFile}

/-- A bundle is hashed in one order, however its files are listed. -/
theorem mergeSort_bundleOrder (same : files.Perm others) :
    files.mergeSort bundleOrder = others.mergeSort bundleOrder := by
  have sorted (listed : List TestBundleFile) :
      (listed.mergeSort bundleOrder).Pairwise (bundleOrder · ·) :=
    @pairwise_mergeSort _ bundleOrder (fun _ _ _ => bundleOrder_trans)
      (fun _ _ => bundleOrder_total) listed
  refine Perm.eq_of_pairwise ?_ (sorted files) (sorted others) ?_
  · exact fun _ _ _ _ => bundleOrder_antisymm
  · exact (files.mergeSort_perm _).trans (same.trans (others.mergeSort_perm _).symm)

/-- The texts of a bundle, in the order in which they are hashed. -/
def bundleTexts (files : List TestBundleFile) : List String :=
  files.flatMap fun file => [file.logicalPath, file.digest]

theorem bundleTexts_injective : Function.Injective bundleTexts := by
  intro files
  induction files with
  | nil => rintro (_ | _) <;> simp [bundleTexts]
  | cons file files ih =>
    rintro (_ | ⟨other, others⟩) same
    · cases same
    · injection same with path same
      injection same with digest rest
      cases file
      cases path
      cases digest
      rw [ih rest]

theorem bundleManifestDigest_eq :
    bundleManifestDigest env files =
      env.sha256Hex (terminated (bundleTexts (files.mergeSort bundleOrder))) := by
  simp [bundleManifestDigest, terminated, bundleTexts, flatMap_assoc]

/-- A file named in both hashed texts has no zero in them. -/
theorem bundleTexts_nulFree
    (nulFree : ∀ file ∈ files, NulFree file.logicalPath ∧ NulFree file.digest) :
    ∀ part ∈ bundleTexts (files.mergeSort bundleOrder), NulFree part := by
  simp only [bundleTexts, mem_flatMap, mem_mergeSort]
  rintro part ⟨file, member, named⟩
  grind

/-- Surroundings whose hash spells out the bytes. -/
def spellingEnvironment : Environment :=
  { firstEnvironment with sha256Hex := fun bytes => String.ofList (bytes.map Char.ofUInt8) }

theorem spelling_injective :
    Function.Injective spellingEnvironment.sha256Hex := by
  intro bytes others same
  refine map_injective_iff.mpr ?_ (String.ofList_injective same)
  exact fun _ _ equal => UInt8.toUInt32_inj.mp (congrArg Char.val equal)

end Jackin.Workflow
