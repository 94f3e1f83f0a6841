import SecureUpdate.Mirror.Basic
import SecureUpdate.Proofs.Json.Readability
import SecureUpdate.Proofs.Text.Percent

/-!
File names of metadata. A name tells the role, and the version where there is one: a version is
digits and ends at the first dot, and role names are percent-encoded.

Main statement: `metadataFile_inj`.
-/

namespace SecureUpdate

variable {role role' : String} {version version' : Option UInt64}

/-- The file name of a role tells the role. -/
theorem fileOf_encode_inj (h : Role.fileOf (Text.Percent.encode role) =
    Role.fileOf (Text.Percent.encode role')) : role = role' := by
  have hchars := congrArg String.toList h
  simp only [Role.fileOf, String.toList_append] at hchars
  exact Text.Percent.encode_injective (String.toList_inj.1 (List.append_cancel_right hchars))

theorem toList_metadataFile_some (role : String) (v : UInt64) :
    (metadataFile role (some v)).toList =
      Text.decimal v.toNat ++ '.' :: (Role.fileOf (Text.Percent.encode role)).toList := by
  simp [metadataFile, Text.decimal]

/-- Two file names, both with a version or both without one, are the same for the same role and
version only. -/
theorem metadataFile_inj (hversions : version.isSome = version'.isSome)
    (h : metadataFile role version = metadataFile role' version') :
    role = role' ∧ version = version' := by
  cases version with
  | none =>
    cases version' with
    | none => exact ⟨fileOf_encode_inj h, rfl⟩
    | some v' => cases hversions
  | some v =>
    cases version' with
    | none => cases hversions
    | some v' =>
      have hchars := congrArg String.toList h
      rw [toList_metadataFile_some, toList_metadataFile_some] at hchars
      -- no digit is a dot, so both versions end at the first one
      have hdot {r : List Char} : Json.Detached ('.' :: r) := Json.detached_cons (by decide)
      obtain ⟨hv, hrest⟩ := Json.decimal_unique hdot hdot hchars
      obtain ⟨-, hfile⟩ := List.cons.inj hrest
      exact ⟨fileOf_encode_inj (String.toList_inj.1 hfile), congrArg some (UInt64.toNat_inj.1 hv)⟩

end SecureUpdate
