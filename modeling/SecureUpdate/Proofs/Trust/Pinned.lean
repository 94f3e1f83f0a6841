import SecureUpdate.Hash.Pinned
import SecureUpdate.Proofs.Trust.Run

/-!
What a snapshot pins. Metadata of delegated roles may outlive the snapshot that pinned it, when a
rotation of the timestamp keys drops the snapshot; but the next snapshot that is accepted drops it
in turn, so whenever a snapshot is held it pins all that is held of delegated roles.

Main statement: `delegatedPinned_of_attempt`.
-/

namespace SecureUpdate

/-! ### Exactly what a pin describes -/

/-- Whether a version and bytes are exactly what a pin says: the version, the length if it gives
one, and every digest that it gives. -/
structure Pin.Matches (p : Primitives) (pin : Pin) (version : UInt64) (bs : Bytes) : Prop where
  version_eq : version = pin.version
  length_eq : ∀ length, pin.length = some length → bs.length = length.toNat
  digests : ∀ hashes, pin.hashes = some hashes →
    ∀ e ∈ hashes.entries, Hashes.agrees p bs e.1 e.2 = true

theorem Pin.check_eq_ok_iff {p : Primitives} {pin : Pin} {bs : Bytes} : pin.check p bs = .ok () ↔
    (∀ length, pin.length = some length → bs.length = length.toNat) ∧
      ∀ hashes, pin.hashes = some hashes → hashes.firstMismatch p bs = none := by
  obtain ⟨version, length, hashes⟩ := pin
  cases hashes with
  | none =>
    cases length with
    | none => simp [check]
    | some length => by_cases hlength : bs.length = length.toNat <;> simp [check, hlength]
  | some hashes =>
    cases hmismatch : hashes.firstMismatch p bs <;> cases length with
    | none => simp [check, hmismatch]
    | some length =>
      by_cases hlength : bs.length = length.toNat <;> simp [check, hmismatch, hlength]

theorem Pin.Matches.of_describes {p : Primitives} {pin : Pin} {version : UInt64} {bs : Bytes}
    (h : pin.Describes p version bs) : pin.Matches p version bs := by
  obtain ⟨hlength, hhashes⟩ := check_eq_ok_iff.1 h.bytes_ok
  exact ⟨h.version_eq, hlength, fun hashes heq => Hashes.firstMismatch_eq_none_iff.1
    (hhashes hashes heq)⟩

theorem Pin.Matches.describes {p : Primitives} {pin : Pin} {version : UInt64} {bs : Bytes}
    (h : pin.Matches p version bs) : pin.Describes p version bs :=
  ⟨h.version_eq, check_eq_ok_iff.2 ⟨h.length_eq, fun hashes heq =>
    Hashes.firstMismatch_eq_none_iff.2 (h.digests hashes heq)⟩⟩

namespace Trust

variable {p : Primitives} {t t' : Trust} {offer : Offer}

/-- Whether the snapshot, if one is held, pins all that is held of delegated roles. -/
def DelegatedPinned (p : Primitives) (t : Trust) : Prop :=
  ∀ snapshot, t.snapshot = some snapshot → ∀ role v, t.delegated.get? role = some v →
    ∃ pin, snapshot.payload.pin? role = some pin ∧ pin.Describes p v.version v.bytes

theorem DelegatedPinned.of_empty (h : t.delegated = .empty) : t.DelegatedPinned p := by
  intro snapshot _ role v hv
  rw [h] at hv
  cases hv

/-- With fewer things held, nothing new has to be pinned. -/
theorem DelegatedPinned.of_kept (h : t.DelegatedPinned p)
    (hsnapshot : ∀ snapshot, t'.snapshot = some snapshot → t.snapshot = some snapshot)
    (hdelegated : t'.delegated = t.delegated) : t'.DelegatedPinned p := by
  intro snapshot hheld role v hv
  rw [hdelegated] at hv
  exact h snapshot (hsnapshot snapshot hheld) role v hv

theorem delegatedPinned_of_attempt (h : t.DelegatedPinned p)
    (hattempt : t.attempt p offer = .ok t') : t'.DelegatedPinned p := by
  cases offer with
  | firstRoot bs =>
    obtain ⟨m, -, rfl⟩ := loadRoot_eq_ok_iff.1 hattempt
    exact h
  | root bs =>
    obtain ⟨held, m, -, rfl⟩ := updateRoot_eq_ok_iff.1 hattempt
    by_cases hkept : (t.forgetRotated held.payload m.payload).delegated = t.delegated
    · -- a rotation of the timestamp keys alone drops the snapshot and keeps the delegated roles
      refine h.of_kept (fun snapshot hsnapshot => ?_) hkept
      rw [snapshot_forgetRotated] at hsnapshot
      split at hsnapshot
      · exact hsnapshot
      · cases hsnapshot
    · refine .of_empty ?_
      rw [delegated_forgetRotated] at hkept ⊢
      split at hkept
      · exact absurd rfl hkept
      · rename_i hsigners
        exact if_neg hsigners
  | timestamp bs origin =>
    obtain ⟨root, m, -, rfl⟩ := updateTimestamp_eq_ok_iff.1 hattempt
    exact h
  | snapshot bs origin =>
    obtain ⟨root, timestamp, m, -, rfl⟩ := updateSnapshot_eq_ok_iff.1 hattempt
    -- whatever an older snapshot pinned goes with it
    exact .of_empty rfl
  | targets bs origin =>
    obtain ⟨root, snapshot, m, -, rfl⟩ := updateTargets_eq_ok_iff.1 hattempt
    exact .of_empty rfl
  | delegated bs role delegator origin =>
    obtain ⟨snapshot, m, hm, rfl⟩ := updateDelegated_eq_ok_iff.1 hattempt
    intro snapshot' hsnapshot other v hv
    rw [SortedMap.get?_insert] at hv
    split at hv
    · rename_i hrole
      cases hm.snapshot_held.symm.trans hsnapshot
      cases hv
      rw [← hrole]
      exact hm.pinned
    · exact h snapshot' hsnapshot other v hv
  | clock now =>
    cases hattempt
    exact h

end Trust

end SecureUpdate
