import SecureUpdate.Proofs.Chain
import SecureUpdate.Trust.Acceptance

/-!
What acceptance says. Each way in which metadata becomes trusted is characterised once: a structure
lists everything that was checked, and an equivalence says that the step succeeds exactly when all
of it holds, and with which result. Later arguments take these structures apart and never look at
the checks again.

Main statements: `loadRoot_eq_ok_iff`, `updateRoot_eq_ok_iff`, `updateTimestamp_eq_ok_iff`,
`updateSnapshot_eq_ok_iff`, `updateTargets_eq_ok_iff`, `updateDelegated_eq_ok_iff`.
-/

namespace SecureUpdate

open Chain

/-- What a pin says of a version and of bytes. -/
structure Pin.Describes (p : Primitives) (pin : Pin) (version : UInt64) (bs : Bytes) : Prop where
  version_eq : version = pin.version
  bytes_ok : pin.check p bs = .ok ()

/-- The version at which pins list a file; a file that is not listed counts as version 0. -/
def Pin.listed (pins : Dict Pin) (file : String) : UInt64 :=
  ((pins.get? file).map (·.version)).getD 0

namespace Trust

variable {p : Primitives} {t t' : Trust} {bs : Bytes} {origin : Origin} {role : String} {u : Unit}

/-! ### The single checks -/

theorem notRolledBack_eq_ok_iff {trusted candidate : UInt64} :
    notRolledBack role trusted candidate = .ok u ↔ trusted ≤ candidate := by
  rw [notRolledBack]
  split <;> simp_all

theorem unexpired_eq_ok_iff {α : Type} [RolePayload α] {m : Signed α} :
    t.unexpired role m = .ok u ↔ m.isExpired t.now = false := by
  rw [unexpired]
  split <;> simp_all

theorem signedBy_eq_ok_iff {α : Type} {m : Signed α} {authority : Authority} {ring : KeyRing} :
    signedBy p m authority ring role = .ok u ↔ m.verifies p authority ring = true := by
  rw [signedBy, Signed.verifies]
  simp

theorem requireRoot_eq_ok_iff {root : Verified Root} :
    t.requireRoot role = .ok root ↔ t.root = some root := by
  rw [requireRoot]
  cases t.root <;> simp

theorem requireSnapshotPin_eq_ok_iff {m : Timestamp} {pin : Pin} :
    requireSnapshotPin m = .ok pin ↔ m.snapshotPin? = some pin := by
  rw [requireSnapshotPin]
  cases m.snapshotPin? <;> simp

theorem describes_iff {pin : Pin} {version : UInt64} :
    pin.Describes p version bs ↔ version = pin.version ∧ pin.check p bs = .ok () :=
  ⟨fun h => ⟨h.version_eq, h.bytes_ok⟩, fun h => ⟨h.1, h.2⟩⟩

instance {pin : Pin} {version : UInt64} : Decidable (pin.Describes p version bs) :=
  decidable_of_iff (version = pin.version ∧ (pin.check p bs).isOk = true) <| by
    rw [describes_iff, isOk_iff]

/-- The version is not below the trusted one, and a pin describes version and bytes. -/
theorem matchesPin_eq_ok_iff {version : UInt64} {trusted : Option UInt64} {pin : Option Pin} :
    matchesPin p role version bs trusted pin = .ok u ↔
      (∀ v, trusted = some v → v ≤ version) ∧ ∃ q, pin = some q ∧ q.Describes p version bs := by
  unfold matchesPin
  cases trusted <;> cases pin with
  | none => simp
  | some q =>
    by_cases hv : version = q.version <;> cases hq : q.check p bs <;>
      simp [notRolledBack_eq_ok_iff, describes_iff, hv, hq]

theorem keepsPins_eq_ok_iff {trusted candidate : Dict Pin} :
    keepsPins trusted candidate = .ok u ↔
      ∀ e ∈ trusted.entries, e.2.version ≤ Pin.listed candidate e.1 := by
  rw [keepsPins, forM_eq_ok_iff]
  simp only [notRolledBack_eq_ok_iff, Pin.listed]

/-! ### Root -/

/-- What has to hold of `m`, read from `bs`, for it to become the first trusted root. -/
structure FirstRoot (p : Primitives) (t : Trust) (bs : Bytes) (m : Signed Root) : Prop where
  unrooted : t.root = none
  read : Signed.parseAs p Root bs = .ok m
  signed : m.verifies p m.payload.roles.root (.ofKeys p m.payload.keys) = true

theorem loadRoot_eq_ok_iff : t.loadRoot p bs = .ok t' ↔ ∃ m, FirstRoot p t bs m ∧
    t' = { t with root := some ⟨m, bs⟩, rootKeys := .ofKeys p m.payload.keys } := by
  unfold loadRoot
  cases hroot : t.root with
  | some root =>
    refine ⟨fun h => by simp at h, ?_⟩
    rintro ⟨m, hm, _⟩
    exact absurd hm.unrooted (by simp [hroot])
  | none =>
    simp only [Option.isSome_none, Bool.false_eq_true, if_false, bind_eq_ok_iff, signedBy_eq_ok_iff,
      pure_eq_ok_iff]
    constructor
    · rintro ⟨m, hread, _, hsigned, rfl⟩
      exact ⟨m, ⟨hroot, hread, hsigned⟩, rfl⟩
    · rintro ⟨m, hm, rfl⟩
      exact ⟨m, hm.read, (), hm.signed, rfl⟩

/-- What has to hold of `m`, read from `bs`, for it to follow the trusted root `held`. -/
structure NextRoot (p : Primitives) (t : Trust) (bs : Bytes) (held : Verified Root)
    (m : Signed Root) : Prop where
  root_held : t.root = some held
  read : Signed.parseAs p Root bs = .ok m
  version_eq : m.version = held.version + 1
  signedByHeld : m.verifies p held.payload.roles.root t.rootKeys = true
  signed : m.verifies p m.payload.roles.root (.ofKeys p m.payload.keys) = true

theorem updateRoot_eq_ok_iff : t.updateRoot p bs = .ok t' ↔ ∃ held m, NextRoot p t bs held m ∧
    t' = { t.forgetRotated held.payload m.payload with
      root := some ⟨m, bs⟩, rootKeys := .ofKeys p m.payload.keys } := by
  unfold updateRoot
  simp only [bind_eq_ok_iff, requireRoot_eq_ok_iff, ite_bind_eq_ok_iff, throw_eq_ok_iff,
    signedBy_eq_ok_iff, pure_eq_ok_iff]
  constructor
  · rintro ⟨held, hheld, m, hread, hlt, hgt, _, hsigned, _, hself, rfl⟩
    have hversion : m.version = held.version + 1 := UInt64.le_antisymm
      (UInt64.not_lt.1 hgt) (UInt64.not_lt.1 hlt)
    exact ⟨held, m, ⟨hheld, hread, hversion, hsigned, hself⟩, rfl⟩
  · rintro ⟨held, m, hm, rfl⟩
    refine ⟨held, hm.root_held, m, hm.read, ?_, ?_, (), hm.signedByHeld, (), hm.signed, rfl⟩
    · rw [hm.version_eq]
      exact UInt64.lt_irrefl _
    · rw [hm.version_eq]
      exact UInt64.lt_irrefl _

/-! ### The roles under the root -/

/-- What has to hold of `m`, read from `bs`, for it to become the trusted timestamp. -/
structure NextTimestamp (p : Primitives) (t : Trust) (bs : Bytes) (origin : Origin)
    (root : Verified Root) (m : Signed Timestamp) : Prop where
  root_held : t.root = some root
  read : Signed.parseAs p Timestamp bs = .ok m
  version_le : ∀ held, t.timestamp = some held → held.version ≤ m.version
  pin_le : ∀ held, t.timestamp = some held → ∃ old new, held.payload.snapshotPin? = some old ∧
    m.payload.snapshotPin? = some new ∧ old.version ≤ new.version
  unexpired : origin = .remote → m.isExpired t.now = false
  signed : m.verifies p root.payload.roles.timestamp t.rootKeys = true

theorem updateTimestamp_eq_ok_iff : t.updateTimestamp p bs origin = .ok t' ↔
    ∃ root m, NextTimestamp p t bs origin root m ∧ t' = { t with timestamp := some ⟨m, bs⟩ } := by
  unfold updateTimestamp
  cases htimestamp : t.timestamp with
  | none =>
    simp only [bind_eq_ok_iff, requireRoot_eq_ok_iff, ite_bind_eq_ok_iff, unexpired_eq_ok_iff,
      signedBy_eq_ok_iff, pure_eq_ok_iff]
    constructor
    · rintro ⟨root, hroot, m, hread, hfresh, _, hsigned, rfl⟩
      exact ⟨root, m, ⟨hroot, hread, by simp [htimestamp], by simp [htimestamp], hfresh, hsigned⟩,
        rfl⟩
    · rintro ⟨root, m, hm, rfl⟩
      exact ⟨root, hm.root_held, m, hm.read, hm.unexpired, (), hm.signed, rfl⟩
  | some held =>
    simp only [bind_eq_ok_iff, requireRoot_eq_ok_iff, ite_bind_eq_ok_iff, unexpired_eq_ok_iff,
      notRolledBack_eq_ok_iff, requireSnapshotPin_eq_ok_iff, signedBy_eq_ok_iff, pure_eq_ok_iff]
    constructor
    · rintro ⟨root, hroot, m, hread, _, hversion, old, hold, new, hnew, _, hpin, hfresh, _, hsigned,
        rfl⟩
      refine ⟨root, m, ⟨hroot, hread, ?_, ?_, hfresh, hsigned⟩, rfl⟩
      · rintro _ h
        cases htimestamp.symm.trans h
        exact hversion
      · rintro _ h
        cases htimestamp.symm.trans h
        exact ⟨old, new, hold, hnew, hpin⟩
    · rintro ⟨root, m, hm, rfl⟩
      obtain ⟨old, new, hold, hnew, hpin⟩ := hm.pin_le held htimestamp
      exact ⟨root, hm.root_held, m, hm.read, (), hm.version_le held htimestamp, old, hold, new,
        hnew, (), hpin, hm.unexpired, (), hm.signed, rfl⟩

/-- What has to hold of `m`, read from `bs`, for it to become the trusted snapshot. -/
structure NextSnapshot (p : Primitives) (t : Trust) (bs : Bytes) (origin : Origin)
    (root : Verified Root) (timestamp : Verified Timestamp) (m : Signed Snapshot) : Prop where
  root_held : t.root = some root
  timestamp_held : t.timestamp = some timestamp
  read : Signed.parseAs p Snapshot bs = .ok m
  version_le : ∀ held, t.snapshot = some held → held.version ≤ m.version
  pinned : ∃ pin, timestamp.payload.snapshotPin? = some pin ∧ pin.Describes p m.version bs
  keeps : ∀ held, t.snapshot = some held →
    ∀ e ∈ held.payload.pins.entries, e.2.version ≤ Pin.listed m.payload.pins e.1
  unexpired : origin = .remote →
    timestamp.metadata.isExpired t.now = false ∧ m.isExpired t.now = false
  signed : m.verifies p root.payload.roles.snapshot t.rootKeys = true

theorem updateSnapshot_eq_ok_iff : t.updateSnapshot p bs origin = .ok t' ↔
    ∃ root timestamp m, NextSnapshot p t bs origin root timestamp m ∧
      t' = { t with snapshot := some ⟨m, bs⟩, delegated := .empty } := by
  unfold updateSnapshot
  cases htimestamp : t.timestamp with
  | none =>
    simp only [bind_eq_ok_iff, throw_eq_ok_iff, and_false, exists_false, false_iff]
    rintro ⟨root, timestamp, m, hm, _⟩
    exact absurd hm.timestamp_held (by simp [htimestamp])
  | some timestamp =>
    cases hsnapshot : t.snapshot with
    | none =>
      simp only [bind_eq_ok_iff, requireRoot_eq_ok_iff, requireSnapshotPin_eq_ok_iff,
        matchesPin_eq_ok_iff, ite_bind_bind_eq_ok_iff, unexpired_eq_ok_iff, signedBy_eq_ok_iff,
        pure_eq_ok_iff]
      constructor
      · rintro ⟨root, hroot, m, hread, pin, hpin, _, ⟨-, q, hq, hdesc⟩, hfresh, _, hsigned, rfl⟩
        cases hq
        exact ⟨root, timestamp, m, ⟨hroot, htimestamp, hread, by simp [hsnapshot],
          ⟨pin, hpin, hdesc⟩, by simp [hsnapshot], hfresh, hsigned⟩, rfl⟩
      · rintro ⟨root, timestamp', m, hm, rfl⟩
        cases htimestamp.symm.trans hm.timestamp_held
        obtain ⟨pin, hpin, hdesc⟩ := hm.pinned
        refine ⟨root, hm.root_held, m, hm.read, pin, hpin, (), ⟨?_, pin, rfl, hdesc⟩,
          hm.unexpired, (), hm.signed, rfl⟩
        rintro _ ⟨⟩
    | some held =>
      simp only [bind_eq_ok_iff, requireRoot_eq_ok_iff, requireSnapshotPin_eq_ok_iff,
        matchesPin_eq_ok_iff, keepsPins_eq_ok_iff, ite_bind_bind_eq_ok_iff, unexpired_eq_ok_iff,
        signedBy_eq_ok_iff, pure_eq_ok_iff]
      constructor
      · rintro ⟨root, hroot, m, hread, pin, hpin, _, ⟨hversion, q, hq, hdesc⟩, _, hkeeps, hfresh, _,
          hsigned, rfl⟩
        cases hq
        refine ⟨root, timestamp, m, ⟨hroot, htimestamp, hread, ?_, ⟨pin, hpin, hdesc⟩, ?_, hfresh,
          hsigned⟩, rfl⟩
        · rintro _ h
          cases hsnapshot.symm.trans h
          exact hversion _ rfl
        · rintro _ h
          cases hsnapshot.symm.trans h
          exact hkeeps
      · rintro ⟨root, timestamp', m, hm, rfl⟩
        cases htimestamp.symm.trans hm.timestamp_held
        obtain ⟨pin, hpin, hdesc⟩ := hm.pinned
        refine ⟨root, hm.root_held, m, hm.read, pin, hpin, (), ⟨?_, pin, rfl, hdesc⟩, (),
          hm.keeps held hsnapshot, hm.unexpired, (), hm.signed, rfl⟩
        rintro _ h
        cases h
        exact hm.version_le held hsnapshot

/-- What has to hold of `m`, read from `bs`, for it to become the trusted top-level targets. -/
structure NextTargets (p : Primitives) (t : Trust) (bs : Bytes) (origin : Origin)
    (root : Verified Root) (snapshot : Verified Snapshot) (m : Signed Targets) : Prop where
  root_held : t.root = some root
  snapshot_held : t.snapshot = some snapshot
  read : Signed.parseAs p Targets bs = .ok m
  version_le : ∀ held, t.targets = some held → held.version ≤ m.version
  pinned : ∃ pin, snapshot.payload.pin? Role.targets.name = some pin ∧ pin.Describes p m.version bs
  unexpired : origin = .remote →
    snapshot.metadata.isExpired t.now = false ∧ m.isExpired t.now = false
  signed : m.verifies p root.payload.roles.targets t.rootKeys = true

theorem updateTargets_eq_ok_iff : t.updateTargets p bs origin = .ok t' ↔
    ∃ root snapshot m, NextTargets p t bs origin root snapshot m ∧
      t' = { t with targets := some ⟨m, bs⟩, delegated := .empty } := by
  unfold updateTargets
  cases hsnapshot : t.snapshot with
  | none =>
    simp only [bind_eq_ok_iff, throw_eq_ok_iff, and_false, exists_false, false_iff]
    rintro ⟨root, snapshot, m, hm, _⟩
    exact absurd hm.snapshot_held (by simp [hsnapshot])
  | some snapshot =>
    simp only [bind_eq_ok_iff, requireRoot_eq_ok_iff, matchesPin_eq_ok_iff, Option.map_eq_some_iff,
      ite_bind_bind_eq_ok_iff, unexpired_eq_ok_iff, signedBy_eq_ok_iff, pure_eq_ok_iff]
    constructor
    · rintro ⟨root, hroot, m, hread, _, ⟨hversion, pin, hpin, hdesc⟩, hfresh, _, hsigned, rfl⟩
      exact ⟨root, snapshot, m, ⟨hroot, hsnapshot, hread, fun held h => hversion _ ⟨held, h, rfl⟩,
        ⟨pin, hpin, hdesc⟩, hfresh, hsigned⟩, rfl⟩
    · rintro ⟨root, snapshot', m, hm, rfl⟩
      cases hsnapshot.symm.trans hm.snapshot_held
      refine ⟨root, hm.root_held, m, hm.read, (), ⟨?_, hm.pinned⟩, hm.unexpired, (), hm.signed, rfl⟩
      rintro _ ⟨held, h, rfl⟩
      exact hm.version_le held h

theorem delegationOf_eq_ok_iff {delegator : String} {delegation : Delegation} {keys : Dict Key} :
    t.delegationOf role delegator = .ok (delegation, keys) ↔ ∃ parent delegations,
      t.delegator? delegator = some parent ∧ parent.payload.delegation? role = some delegation ∧
        parent.payload.delegations = some delegations ∧ delegations.keys = keys := by
  unfold delegationOf
  cases t.delegator? delegator with
  | none => simp
  | some parent =>
    cases hdelegation : parent.payload.delegation? role <;>
      cases hdelegations : parent.payload.delegations <;> simp [hdelegation, hdelegations]

/-- Whether, by the delegations of a trusted delegator, enough keys signed metadata of a role. -/
def Authorizes (p : Primitives) (t : Trust) (role delegator : String) (m : Signed Targets) : Prop :=
  ∃ delegation keys, t.delegationOf role delegator = .ok (delegation, keys) ∧
    m.verifies p delegation.authority (.ofKeys p keys) = true

/-- What has to hold of `m`, read from `bs`, for it to become the trusted metadata of a delegated
role. -/
structure NextDelegated (p : Primitives) (t : Trust) (bs : Bytes) (role delegator : String)
    (origin : Origin) (snapshot : Verified Snapshot) (m : Signed Targets) : Prop where
  snapshot_held : t.snapshot = some snapshot
  read : Signed.parseAs p Targets bs = .ok m
  version_le : ∀ held, t.delegated.get? role = some held → held.version ≤ m.version
  pinned : ∃ pin, snapshot.payload.pin? role = some pin ∧ pin.Describes p m.version bs
  unexpired : origin = .remote →
    snapshot.metadata.isExpired t.now = false ∧ m.isExpired t.now = false
  authorized : t.Authorizes p role delegator m

theorem updateDelegated_eq_ok_iff {delegator : String} :
    t.updateDelegated p bs role delegator origin = .ok t' ↔
      ∃ snapshot m, NextDelegated p t bs role delegator origin snapshot m ∧
        t' = { t with delegated := t.delegated.insert role ⟨m, bs⟩ } := by
  unfold updateDelegated
  cases hsnapshot : t.snapshot with
  | none =>
    simp only [throw_eq_ok_iff, false_iff]
    rintro ⟨snapshot, m, hm, _⟩
    exact absurd hm.snapshot_held (by simp [hsnapshot])
  | some snapshot =>
    simp only [bind_eq_ok_iff, matchesPin_eq_ok_iff, Option.map_eq_some_iff,
      ite_bind_bind_eq_ok_iff, unexpired_eq_ok_iff, signedBy_eq_ok_iff, pure_eq_ok_iff]
    constructor
    · rintro ⟨⟨delegation, keys⟩, hdelegation, m, hread, _, ⟨hversion, pin, hpin, hdesc⟩, hfresh, _,
        hsigned, rfl⟩
      exact ⟨snapshot, m, ⟨hsnapshot, hread, fun held h => hversion _ ⟨held, h, rfl⟩,
        ⟨pin, hpin, hdesc⟩, hfresh, ⟨delegation, keys, hdelegation, hsigned⟩⟩, rfl⟩
    · rintro ⟨snapshot', m, hm, rfl⟩
      cases hsnapshot.symm.trans hm.snapshot_held
      obtain ⟨delegation, keys, hdelegation, hsigned⟩ := hm.authorized
      refine ⟨(delegation, keys), hdelegation, m, hm.read, (), ⟨?_, hm.pinned⟩, hm.unexpired, (),
        hsigned, rfl⟩
      rintro _ ⟨held, h, rfl⟩
      exact hm.version_le held h

/-! ### The whole chain -/

/-- An object that is unexpired and exactly what a pin describes. -/
structure Current {α : Type} [RolePayload α] (p : Primitives) (t : Trust) (v : Verified α)
    (pin : Pin) : Prop where
  described : pin.Describes p v.version v.bytes
  unexpired : v.metadata.isExpired t.now = false

theorem isCurrent_iff {α : Type} [RolePayload α] {v : Verified α} {pin : Pin} :
    t.isCurrent p v pin = true ↔ Current p t v pin := by
  simp only [isCurrent, Bool.and_eq_true, beq_iff_eq, Bool.not_eq_true', isOk_iff]
  exact ⟨fun h => ⟨⟨h.1.1, h.1.2⟩, h.2⟩, fun h => ⟨⟨h.1.version_eq, h.1.bytes_ok⟩, h.2⟩⟩

theorem isSnapshotCurrent_iff : t.isSnapshotCurrent p = true ↔ ∃ timestamp snapshot pin,
    t.timestamp = some timestamp ∧ t.snapshot = some snapshot ∧
      timestamp.payload.snapshotPin? = some pin ∧ Current p t snapshot pin := by
  rw [isSnapshotCurrent]
  cases t.timestamp with
  | none => simp
  | some timestamp =>
    cases t.snapshot with
    | none => simp
    | some snapshot => cases hpin : timestamp.payload.snapshotPin? <;> simp [hpin, isCurrent_iff]

theorem isPinned_iff {held : Option (Verified Targets)} :
    t.isPinned p role held = true ↔ ∃ snapshot v pin, t.snapshot = some snapshot ∧ held = some v ∧
      snapshot.payload.pin? role = some pin ∧ Current p t v pin := by
  unfold isPinned
  cases t.snapshot with
  | none => simp
  | some snapshot =>
    cases held with
    | none => simp
    | some v => cases hpin : snapshot.payload.pin? role <;> simp [hpin, isCurrent_iff]

/-- A complete chain of top-level roles: all are held and unexpired, and each link is pinned. -/
structure Consistent (p : Primitives) (t : Trust) (root : Verified Root)
    (timestamp : Verified Timestamp) (snapshot : Verified Snapshot) (targets : Verified Targets) :
    Prop where
  root_held : t.root = some root
  timestamp_held : t.timestamp = some timestamp
  snapshot_held : t.snapshot = some snapshot
  targets_held : t.targets = some targets
  root_unexpired : root.metadata.isExpired t.now = false
  timestamp_unexpired : timestamp.metadata.isExpired t.now = false
  snapshot_current : ∃ pin, timestamp.payload.snapshotPin? = some pin ∧ Current p t snapshot pin
  targets_current : ∃ pin, snapshot.payload.pin? Role.targets.name = some pin ∧
    Current p t targets pin

theorem checkRootExpiry_eq_ok_iff : t.checkRootExpiry = .ok u ↔
    ∃ root, t.root = some root ∧ root.metadata.isExpired t.now = false := by
  simp only [checkRootExpiry, bind_eq_ok_iff, requireRoot_eq_ok_iff, unexpired_eq_ok_iff]

theorem presentAndUnexpired_eq_ok_iff {α : Type} [RolePayload α] {held : Option (Verified α)} :
    t.presentAndUnexpired role held = .ok u ↔
      ∃ v, held = some v ∧ v.metadata.isExpired t.now = false := by
  cases held <;> simp [presentAndUnexpired, unexpired_eq_ok_iff]

theorem checkConsistent_eq_ok_iff : t.checkConsistent p = .ok u ↔
    ∃ root timestamp snapshot targets, Consistent p t root timestamp snapshot targets := by
  unfold checkConsistent checkRootExpiry
  cases htimestamp : t.timestamp with
  | none =>
    simp only [bind_eq_ok_iff, throw_eq_ok_iff, and_false, exists_false, false_iff]
    rintro ⟨root, timestamp, snapshot, targets, h⟩
    exact absurd h.timestamp_held (by simp [htimestamp])
  | some timestamp =>
    simp only [bind_eq_ok_iff, requireRoot_eq_ok_iff, unexpired_eq_ok_iff,
      presentAndUnexpired_eq_ok_iff, ite_bind_eq_ok_iff, ite_throw_pure_eq_ok_iff, throw_eq_ok_iff,
      imp_false, Bool.not_eq_true', Bool.not_eq_false, isSnapshotCurrent_iff, isTargetsCurrent,
      isPinned_iff]
    constructor
    · rintro ⟨_, ⟨root, hroot, hrootFresh⟩, _, hfresh, _, -, _, -,
        ⟨timestamp', snapshot, pin, h, hsnapshot, hpin, hcurrent⟩,
        ⟨snapshot', targets, pin', h', htargets, hpin', hcurrent'⟩, _⟩
      cases htimestamp.symm.trans h
      cases hsnapshot.symm.trans h'
      exact ⟨root, timestamp, snapshot, targets, hroot, htimestamp, hsnapshot, htargets, hrootFresh,
        hfresh, ⟨pin, hpin, hcurrent⟩, ⟨pin', hpin', hcurrent'⟩⟩
    · rintro ⟨root, timestamp', snapshot, targets, h⟩
      cases htimestamp.symm.trans h.timestamp_held
      obtain ⟨pin, hpin, hcurrent⟩ := h.snapshot_current
      obtain ⟨pin', hpin', hcurrent'⟩ := h.targets_current
      exact ⟨(), ⟨root, h.root_held, h.root_unexpired⟩, (), h.timestamp_unexpired,
        (), ⟨snapshot, h.snapshot_held, hcurrent.unexpired⟩,
        (), ⟨targets, h.targets_held, hcurrent'.unexpired⟩,
        ⟨timestamp, snapshot, pin, htimestamp, h.snapshot_held, hpin, hcurrent⟩,
        ⟨snapshot, targets, pin', h.snapshot_held, h.targets_held, hpin', hcurrent'⟩, trivial⟩

end Trust

end SecureUpdate
