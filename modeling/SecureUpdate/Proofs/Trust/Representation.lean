import SecureUpdate.Proofs.Trust.Pinned

/-!
What is held fits together, in whatever state a run stops. A role is never held without the role
that it needs, the ring of keys is the held root's, and each object was read from the very bytes
that it is held with. The parts depend on each other less than one might think: a rotation of the
timestamp keys forgets the snapshot and keeps what the snapshot pinned, so targets and delegated
roles can be held with no snapshot, and pins bind delegated roles only while a snapshot is held.

Main statement: `run_represented`.
-/

namespace SecureUpdate.Trust

variable {p : Primitives} {t t' : Trust} {offer : Offer} {bs : Bytes}

/-! ### Read from the bytes it is held with -/

/-- Whether an object was read from the bytes that it is held with. -/
def ReadFrom {α : Type} [RolePayload α] (p : Primitives) (held : Option (Verified α)) : Prop :=
  ∀ v, held = some v → Signed.parseAs p α v.bytes = .ok v.metadata

theorem readFrom_none {α : Type} [RolePayload α] : ReadFrom (α := α) p none := nofun

theorem readFrom_some {α : Type} [RolePayload α] {m : Signed α}
    (h : Signed.parseAs p α bs = .ok m) : ReadFrom p (some ⟨m, bs⟩) := by
  rintro _ ⟨⟩
  exact h

theorem ReadFrom.of_ite {α : Type} [RolePayload α] {b : Prop} [Decidable b]
    {held : Option (Verified α)} (h : ReadFrom p held) : ReadFrom p (if b then held else none) := by
  split
  · exact h
  · exact readFrom_none

/-! ### What fits together -/

/-- What holds of everything that is held, whichever roles that are. -/
structure Represented (p : Primitives) (t : Trust) : Prop where
  rootKeys : t.rootKeys = match t.root with
    | some root => .ofKeys p root.payload.keys
    | none => .empty
  timestamp_rooted : t.timestamp.isSome → t.root.isSome
  snapshot_stamped : t.snapshot.isSome → t.timestamp.isSome
  targets_rooted : t.targets.isSome → t.root.isSome
  delegated_parented : ∀ role, (t.delegated.get? role).isSome → t.targets.isSome
  delegated_pinned : ∀ snapshot, t.snapshot = some snapshot →
    ∀ role v, t.delegated.get? role = some v →
      ∃ pin, snapshot.payload.pin? role = some pin ∧ pin.Matches p v.version v.bytes
  root_read : ReadFrom p t.root
  timestamp_read : ReadFrom p t.timestamp
  snapshot_read : ReadFrom p t.snapshot
  targets_read : ReadFrom p t.targets
  delegated_read : ∀ role, ReadFrom p (t.delegated.get? role)

theorem represented_initial {now : Instant} : (initial now).Represented p where
  rootKeys := rfl
  timestamp_rooted h := by cases h
  snapshot_stamped h := by cases h
  targets_rooted h := by cases h
  delegated_parented _ h := by cases h
  delegated_pinned _ h := by cases h
  root_read := readFrom_none
  timestamp_read := readFrom_none
  snapshot_read := readFrom_none
  targets_read := readFrom_none
  delegated_read _ := readFrom_none

/-- A delegator is held only beside the top-level targets, as one of them or as itself. -/
theorem Represented.targets_of_delegator (h : t.Represented p) {delegator : String}
    (hheld : (t.delegator? delegator).isSome) : t.targets.isSome := by
  unfold delegator? at hheld
  split at hheld
  · exact hheld
  · exact h.delegated_parented delegator hheld

/-- One accepted offer of whatever kind. -/
theorem represented_of_attempt (h : t.Represented p) (hattempt : t.attempt p offer = .ok t') :
    t'.Represented p := by
  have hpinned : t'.DelegatedPinned p := delegatedPinned_of_attempt
    (fun snapshot hsnapshot role v hv =>
      have ⟨pin, hpin, hmatches⟩ := h.delegated_pinned snapshot hsnapshot role v hv
      ⟨pin, hpin, hmatches.describes⟩) hattempt
  have hmatched : ∀ snapshot, t'.snapshot = some snapshot →
      ∀ role v, t'.delegated.get? role = some v →
        ∃ pin, snapshot.payload.pin? role = some pin ∧ pin.Matches p v.version v.bytes := by
    intro snapshot hsnapshot role v hv
    obtain ⟨pin, hpin, hdescribes⟩ := hpinned snapshot hsnapshot role v hv
    exact ⟨pin, hpin, .of_describes hdescribes⟩
  cases offer with
  | firstRoot bs =>
    obtain ⟨m, hm, rfl⟩ := loadRoot_eq_ok_iff.1 hattempt
    exact { h with
      rootKeys := rfl
      timestamp_rooted := fun _ => rfl
      targets_rooted := fun _ => rfl
      root_read := readFrom_some hm.read }
  | root bs =>
    obtain ⟨held, m, hm, rfl⟩ := updateRoot_eq_ok_iff.1 hattempt
    exact {
      rootKeys := rfl
      timestamp_rooted := fun _ => rfl
      -- what forgets the timestamp forgets the snapshot
      snapshot_stamped := by
        simp only [snapshot_forgetRotated, timestamp_forgetRotated]
        have := h.snapshot_stamped
        grind
      targets_rooted := fun _ => rfl
      -- what forgets the targets forgets the delegated roles
      delegated_parented := by
        simp only [targets_forgetRotated, delegated_forgetRotated]
        intro role
        split
        · exact h.delegated_parented role
        · intro hheld
          cases hheld
      delegated_pinned := hmatched
      root_read := readFrom_some hm.read
      timestamp_read := timestamp_forgetRotated (t := t) ▸ h.timestamp_read.of_ite
      snapshot_read := snapshot_forgetRotated (t := t) ▸ h.snapshot_read.of_ite
      targets_read := targets_forgetRotated (t := t) ▸ h.targets_read.of_ite
      delegated_read := fun role => by
        simp only [delegated_forgetRotated]
        split
        · exact h.delegated_read role
        · exact readFrom_none }
  | timestamp bs origin =>
    obtain ⟨root, m, hm, rfl⟩ := updateTimestamp_eq_ok_iff.1 hattempt
    exact { h with
      timestamp_rooted := fun _ => Option.isSome_of_eq_some hm.root_held
      snapshot_stamped := fun _ => rfl
      timestamp_read := readFrom_some hm.read }
  | snapshot bs origin =>
    obtain ⟨root, timestamp, m, hm, rfl⟩ := updateSnapshot_eq_ok_iff.1 hattempt
    exact { h with
      snapshot_stamped := fun _ => Option.isSome_of_eq_some hm.timestamp_held
      delegated_parented := fun _ hheld => by cases hheld
      delegated_pinned := hmatched
      snapshot_read := readFrom_some hm.read
      delegated_read := fun _ => readFrom_none }
  | targets bs origin =>
    obtain ⟨root, snapshot, m, hm, rfl⟩ := updateTargets_eq_ok_iff.1 hattempt
    exact { h with
      targets_rooted := fun _ => Option.isSome_of_eq_some hm.root_held
      delegated_parented := fun _ _ => rfl
      delegated_pinned := hmatched
      targets_read := readFrom_some hm.read
      delegated_read := fun _ => readFrom_none }
  | delegated bs role delegator origin =>
    obtain ⟨snapshot, m, hm, rfl⟩ := updateDelegated_eq_ok_iff.1 hattempt
    obtain ⟨delegation, keys, hdelegation, -⟩ := hm.authorized
    obtain ⟨parent, delegations, hparent, -⟩ := delegationOf_eq_ok_iff.1 hdelegation
    exact { h with
      delegated_parented := fun _ _ => h.targets_of_delegator (Option.isSome_of_eq_some hparent)
      delegated_pinned := hmatched
      delegated_read := fun other => by
        simp only [SortedMap.get?_insert]
        split
        · exact readFrom_some hm.read
        · exact h.delegated_read other }
  | clock now =>
    cases hattempt
    exact { h with }

/-! ### Whole runs -/

/-- Whatever is offered, from nothing trusted, in whatever order and however often the root rotates:
the ring of keys is exactly the held root's and empty without one; a timestamp is held only beside a
root, a snapshot beside a timestamp, targets beside a root, and delegated roles beside targets; a
held snapshot pins each held delegated role with its version, length and digests; and the bytes of
everything that is held read as just the metadata that is held. -/
theorem run_represented (p : Primitives) (now : Instant) (offers : List Offer) :
    ((initial now).run p offers).Represented p :=
  run_induction (fun _ _ _ _ h => represented_of_attempt h) represented_initial

end SecureUpdate.Trust
