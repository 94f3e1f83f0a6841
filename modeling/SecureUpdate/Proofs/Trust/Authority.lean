import SecureUpdate.Proofs.Key.Tally
import SecureUpdate.Proofs.Trust.Run

/-!
The authority of the current root. Objects are checked against the root that is trusted when they
arrive, and roots rotate afterwards; a rotation forgets what the next root's signers did not sign.
Signers are compared as sets of keys with a threshold, so key ids may be renamed on the way. What is
left is vouched for by the current root's keys at its threshold.

Main statement: `run_vouched`, in every state that a run reaches, each held timestamp, snapshot and
top-level targets is vouched for by the current root.
-/

namespace SecureUpdate

variable {α : Type} {p : Primitives} {role : Role}

/-! ### Signers as sets of keys -/

theorem Root.contains_signers_iff {root : Root} {k : Key} :
    (root.signers role).keys.contains k = true ↔
      ∃ id ∈ (root.roles.of role).keyIds, root.keys.get? id = some k := by
  simp only [signers, SortedMap.contains_ofList, List.mem_map, List.mem_filterMap,
    Option.map_eq_some_iff]
  constructor
  · rintro ⟨_, ⟨id, hid, k', hk', rfl⟩, rfl⟩
    exact ⟨id, hid, hk'⟩
  · rintro ⟨id, hid, hk⟩
    exact ⟨(k, ()), ⟨id, hid, k, hk, rfl⟩, rfl⟩

/-- Keys that vouch under one root vouch under another one with the same signers. -/
theorem Signed.Vouched.of_signers_eq {m : Signed α} {previous next : Root}
    (hm : m.Vouched p (previous.roles.of role) previous.keys)
    (h : previous.signers role = next.signers role) :
    m.Vouched p (next.roles.of role) next.keys := by
  obtain ⟨signers, hnodup, hthreshold, hkeys⟩ := hm
  have hsame : (previous.roles.of role).threshold = (next.roles.of role).threshold :=
    congrArg Signers.threshold h
  refine ⟨signers, hnodup, hsame ▸ hthreshold, ?_⟩
  intro key hkey
  obtain ⟨hlength, ⟨id, hid, k, hk, hpublic⟩, hsignature⟩ := hkeys key hkey
  -- the id under which the next root lists the key need not be the previous one
  have hnext : (next.signers role).keys.contains k = true := by
    rw [← h]
    exact Root.contains_signers_iff.2 ⟨id, hid, hk⟩
  obtain ⟨id', hid', hk'⟩ := Root.contains_signers_iff.1 hnext
  exact ⟨hlength, ⟨id', hid', k, hk', hpublic⟩, hsignature⟩

namespace Trust

variable {t t' : Trust}

/-- Whether what is held for a role is vouched for by the keys that the current root lists for the
role, at the threshold it sets. -/
def VouchedBy (p : Primitives) (t : Trust) (role : Role) (held : Option (Verified α)) : Prop :=
  ∀ v, held = some v → ∃ root, t.root = some root ∧
    v.metadata.Vouched p (root.payload.roles.of role) root.payload.keys

/-- The current root vouches for all that is held below it. -/
structure Vouched (p : Primitives) (t : Trust) : Prop where
  timestamp : t.VouchedBy p .timestamp t.timestamp
  snapshot : t.VouchedBy p .snapshot t.snapshot
  targets : t.VouchedBy p .targets t.targets

/-- The ring of keys is that of the current root. -/
def RingCurrent (p : Primitives) (t : Trust) : Prop :=
  ∀ root, t.root = some root → t.rootKeys = .ofKeys p root.payload.keys

/-! ### One offer -/

/-- What is held under the same root stays vouched for. -/
theorem VouchedBy.of_root_eq {held : Option (Verified α)} (h : t.VouchedBy p role held)
    (hroot : t'.root = t.root) : t'.VouchedBy p role held := by
  rw [VouchedBy, hroot]
  exact h

/-- What the current root's keys signed is vouched for by them. -/
theorem vouchedBy_of_verifies {v : Verified α} {root : Verified Root} (hring : t.RingCurrent p)
    (hroot : t.root = some root)
    (h : v.metadata.verifies p (root.payload.roles.of role) t.rootKeys = true) :
    t.VouchedBy p role (some v) := by
  intro v' hv'
  cases hv'
  rw [hring root hroot] at h
  exact ⟨root, hroot, Signed.vouched_of_verifies h⟩

/-- Nothing but what was vouched for before a first root is held after it, and that is nothing. -/
theorem VouchedBy.of_unrooted {held : Option (Verified α)} (h : t.VouchedBy p role held)
    (hroot : t.root = none) : t'.VouchedBy p role held := by
  intro v hv
  obtain ⟨root, hroot', -⟩ := h v hv
  exact absurd (hroot.symm.trans hroot') nofun

/-- What survives a rotation is vouched for by the next root: its signers are the same. -/
theorem VouchedBy.of_rotation {held held' : Option (Verified α)} {previous next : Verified Root}
    (h : t.VouchedBy p role held) (hroot : t.root = some previous) (hroot' : t'.root = some next)
    (hkept : ∀ v, held' = some v →
      held = some v ∧ previous.payload.signers role = next.payload.signers role) :
    t'.VouchedBy p role held' := by
  intro v hv
  obtain ⟨hheld, hsigners⟩ := hkept v hv
  obtain ⟨root, hroot'', hvouched⟩ := h v hheld
  cases hroot.symm.trans hroot''
  exact ⟨next, hroot', hvouched.of_signers_eq hsigners⟩

theorem ringCurrent_of_attempt {offer : Offer} (h : t.RingCurrent p)
    (hattempt : t.attempt p offer = .ok t') : t'.RingCurrent p := by
  cases offer with
  | firstRoot bs =>
    obtain ⟨m, -, rfl⟩ := loadRoot_eq_ok_iff.1 hattempt
    rintro _ ⟨⟩
    rfl
  | root bs =>
    obtain ⟨held, m, -, rfl⟩ := updateRoot_eq_ok_iff.1 hattempt
    rintro _ ⟨⟩
    rfl
  | timestamp bs origin =>
    obtain ⟨root, m, -, rfl⟩ := updateTimestamp_eq_ok_iff.1 hattempt
    exact h
  | snapshot bs origin =>
    obtain ⟨root, timestamp, m, -, rfl⟩ := updateSnapshot_eq_ok_iff.1 hattempt
    exact h
  | targets bs origin =>
    obtain ⟨root, snapshot, m, -, rfl⟩ := updateTargets_eq_ok_iff.1 hattempt
    exact h
  | delegated bs role delegator origin =>
    obtain ⟨snapshot, m, -, rfl⟩ := updateDelegated_eq_ok_iff.1 hattempt
    exact h
  | clock now =>
    cases hattempt
    exact h

theorem vouched_of_attempt {offer : Offer} (hring : t.RingCurrent p) (h : t.Vouched p)
    (hattempt : t.attempt p offer = .ok t') : t'.Vouched p := by
  cases offer with
  | firstRoot bs =>
    obtain ⟨m, hm, rfl⟩ := loadRoot_eq_ok_iff.1 hattempt
    exact ⟨h.timestamp.of_unrooted hm.unrooted, h.snapshot.of_unrooted hm.unrooted,
      h.targets.of_unrooted hm.unrooted⟩
  | root bs =>
    obtain ⟨held, m, hm, rfl⟩ := updateRoot_eq_ok_iff.1 hattempt
    refine ⟨h.timestamp.of_rotation hm.root_held rfl ?_, h.snapshot.of_rotation hm.root_held rfl ?_,
      h.targets.of_rotation hm.root_held rfl ?_⟩
    · intro v hv
      rw [timestamp_forgetRotated] at hv
      split at hv
      · rename_i hsigners
        exact ⟨hv, hsigners⟩
      · cases hv
    · intro v hv
      rw [snapshot_forgetRotated] at hv
      split at hv
      · rename_i hsigners
        exact ⟨hv, hsigners.2⟩
      · cases hv
    · intro v hv
      rw [targets_forgetRotated] at hv
      split at hv
      · rename_i hsigners
        exact ⟨hv, hsigners.2⟩
      · cases hv
  | timestamp bs origin =>
    obtain ⟨root, m, hm, rfl⟩ := updateTimestamp_eq_ok_iff.1 hattempt
    exact ⟨(vouchedBy_of_verifies hring hm.root_held hm.signed).of_root_eq rfl,
      h.snapshot.of_root_eq rfl, h.targets.of_root_eq rfl⟩
  | snapshot bs origin =>
    obtain ⟨root, timestamp, m, hm, rfl⟩ := updateSnapshot_eq_ok_iff.1 hattempt
    exact ⟨h.timestamp.of_root_eq rfl,
      (vouchedBy_of_verifies hring hm.root_held hm.signed).of_root_eq rfl, h.targets.of_root_eq rfl⟩
  | targets bs origin =>
    obtain ⟨root, snapshot, m, hm, rfl⟩ := updateTargets_eq_ok_iff.1 hattempt
    exact ⟨h.timestamp.of_root_eq rfl, h.snapshot.of_root_eq rfl,
      (vouchedBy_of_verifies hring hm.root_held hm.signed).of_root_eq rfl⟩
  | delegated bs role delegator origin =>
    obtain ⟨snapshot, m, -, rfl⟩ := updateDelegated_eq_ok_iff.1 hattempt
    exact ⟨h.timestamp.of_root_eq rfl, h.snapshot.of_root_eq rfl, h.targets.of_root_eq rfl⟩
  | clock now =>
    cases hattempt
    exact ⟨h.timestamp.of_root_eq rfl, h.snapshot.of_root_eq rfl, h.targets.of_root_eq rfl⟩

/-! ### Whole runs -/

theorem ringCurrent_initial {now : Instant} : (initial now).RingCurrent p := by
  intro root h
  cases h

theorem vouched_initial {now : Instant} : (initial now).Vouched p := by
  refine ⟨?_, ?_, ?_⟩ <;>
  · intro v h
    cases h

/-- In every state that a run reaches, whatever was offered and however often the root rotated, the
current root vouches for all that is held below it. -/
theorem run_vouched (p : Primitives) (now : Instant) (offers : List Offer) :
    ((initial now).run p offers).Vouched p := by
  suffices h : ((initial now).run p offers).RingCurrent p ∧ ((initial now).run p offers).Vouched p
    from h.2
  refine run_induction (P := fun t => t.RingCurrent p ∧ t.Vouched p) ?_
    ⟨ringCurrent_initial, vouched_initial⟩
  rintro t offer - t' ⟨hring, hvouched⟩ hattempt
  exact ⟨ringCurrent_of_attempt hring hattempt, vouched_of_attempt hring hvouched hattempt⟩

end Trust

end SecureUpdate
