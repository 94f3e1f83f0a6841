import SecureUpdate.Proofs.Client.Refresh
import SecureUpdate.Proofs.Dict
import SecureUpdate.Proofs.Trust.Monotone

/-!
Floors under versions while the root stays the initial one. What is accepted for a role is not below
what is trusted for it, and whatever is trusted below the root is matched in the store by something
verified that is not below it either. So a floor under the stored timestamp is a floor under every
timestamp that a refresh accepts, warm or cold; a floor under what the stored snapshot lists is one
under what every accepted snapshot lists, if a cold refresh finds the stored snapshot to be the one
that the stored timestamp pins.

Main statements: `Steady.moves`, `Above.moves`, `snapshot_floored`.
-/

namespace SecureUpdate.Client

variable {ν κ : Type} {c : Client ν κ} {view : κ → String → Option Bytes} {t t' : Trust}
  {w w' : World ν κ} {s s' : Spot ν κ} {offer : Trust.Offer} {α : Type} [RolePayload α]

/-! ### What is not below what -/

/-- The version at which a snapshot lists the top-level targets. -/
def listedTargets (m : Signed Snapshot) : UInt64 :=
  Pin.listed m.payload.pins (Role.fileOf Role.targets.name)

/-- Whether a snapshot does not list the top-level targets below where another one does. -/
def ListLe (a b : Signed Snapshot) : Prop := listedTargets a ≤ listedTargets b

/-- A snapshot that keeps all pins lists the targets no lower. -/
theorem ListLe.of_keeps {a b : Signed Snapshot}
    (h : ∀ e ∈ a.payload.pins.entries, e.2.version ≤ Pin.listed b.payload.pins e.1) :
    ListLe a b := by
  unfold ListLe listedTargets
  cases hpin : a.payload.pins.get? (Role.fileOf Role.targets.name) with
  | none =>
    rw [Pin.listed, hpin]
    exact UInt64.zero_le
  | some pin =>
    have hle := h _ (SortedMap.mem_of_get? hpin)
    rw [Pin.listed, hpin]
    exact hle

/-! ### Roles that do not fall -/

/-- An acceptance changes its own role only, but for a rotation of the root. -/
theorem kept_of_attempt {p : Primitives} {role : Role} {bs : Bytes}
    (hnext : ∀ bs, offer ≠ .root bs) (hsubject : offer.subject = some (role, bs))
    (haccept : t.attempt p offer = .ok t') :
    (role ≠ .root → t'.root = t.root ∧ t'.rootKeys = t.rootKeys) ∧
      (role ≠ .timestamp → t'.timestamp = t.timestamp) ∧
      (role ≠ .snapshot → t'.snapshot = t.snapshot) := by
  cases offer with
  | firstRoot =>
    cases hsubject
    obtain ⟨m, -, rfl⟩ := Trust.loadRoot_eq_ok_iff.1 haccept
    exact ⟨fun h => absurd rfl h, fun _ => rfl, fun _ => rfl⟩
  | root bs => exact absurd rfl (hnext bs)
  | timestamp =>
    cases hsubject
    obtain ⟨root, m, -, rfl⟩ := Trust.updateTimestamp_eq_ok_iff.1 haccept
    exact ⟨fun _ => ⟨rfl, rfl⟩, fun h => absurd rfl h, fun _ => rfl⟩
  | snapshot =>
    cases hsubject
    obtain ⟨root, timestamp, m, -, rfl⟩ := Trust.updateSnapshot_eq_ok_iff.1 haccept
    exact ⟨fun _ => ⟨rfl, rfl⟩, fun _ => rfl, fun h => absurd rfl h⟩
  | targets =>
    cases hsubject
    obtain ⟨root, snapshot, m, -, rfl⟩ := Trust.updateTargets_eq_ok_iff.1 haccept
    exact ⟨fun _ => ⟨rfl, rfl⟩, fun _ => rfl, fun _ => rfl⟩
  | delegated => cases hsubject
  | clock => cases hsubject

/-- A role that never falls while the root stays: what is held for it, when metadata of it is not
below other metadata, and that what is accepted for it is authorized and not below what was held. -/
structure Rung (p : Primitives) (α : Type) [RolePayload α] where
  role : Role
  held : Trust → Option (Verified α)
  le : Signed α → Signed α → Prop
  le_refl (m : Signed α) : le m m
  le_trans {a b d : Signed α} : le a b → le b d → le a d
  below_root : role ≠ .root
  held_initial (now : Instant) : held (.initial now) = none
  held_clock (t : Trust) (now : Instant) : held { t with now } = held t
  /-- What becomes of an acceptance for the role. -/
  accepted {t t' : Trust} {offer : Trust.Offer} {bs : Bytes} :
    offer.subject = some (role, bs) → t.attempt p offer = .ok t' → ∃ root m, t.root = some root ∧
      Signed.parseAs p α bs = .ok m ∧
      m.verifies p (root.payload.roles.of role) t.rootKeys = true ∧
      held t' = some ⟨m, bs⟩ ∧ ∀ v, held t = some v → le v.metadata m
  /-- Any other acceptance leaves the role alone, but for a rotation of the root. -/
  kept {t t' : Trust} {offer : Trust.Offer} {other : Role} {bs : Bytes} :
    (∀ bs, offer ≠ .root bs) → offer.subject = some (other, bs) → other ≠ role →
      t.attempt p offer = .ok t' → held t' = held t

namespace Rung

variable {p : Primitives}

/-- The timestamp, by its version and by the version of the snapshot that it pins. -/
def timestamp : Rung p Timestamp where
  role := .timestamp
  held := (·.timestamp)
  le := StampLe
  le_refl := .refl
  le_trans := .trans
  below_root := by decide
  held_initial _ := rfl
  held_clock _ _ := rfl
  accepted {t t' offer bs} hsubject haccept := by
    cases offer with
    | timestamp =>
      cases hsubject
      obtain ⟨root, m, hm, rfl⟩ := Trust.updateTimestamp_eq_ok_iff.1 haccept
      exact ⟨root, m, hm.root_held, hm.read, hm.signed, rfl,
        fun v hv => Trust.stampLe_of_next hm hv⟩
    | _ => cases hsubject
  kept hnext hsubject hother haccept := (kept_of_attempt hnext hsubject haccept).2.1 hother

/-- The snapshot, by the version at which it lists the targets. -/
def snapshot : Rung p Snapshot where
  role := .snapshot
  held := (·.snapshot)
  le := ListLe
  le_refl _ := UInt64.le_refl _
  le_trans := UInt64.le_trans
  below_root := by decide
  held_initial _ := rfl
  held_clock _ _ := rfl
  accepted {t t' offer bs} hsubject haccept := by
    cases offer with
    | snapshot =>
      cases hsubject
      obtain ⟨root, timestamp, m, hm, rfl⟩ := Trust.updateSnapshot_eq_ok_iff.1 haccept
      exact ⟨root, m, hm.root_held, hm.read, hm.signed, rfl,
        fun v hv => ListLe.of_keeps (hm.keeps v hv)⟩
    | _ => cases hsubject
  kept hnext hsubject hother haccept := (kept_of_attempt hnext hsubject haccept).2.2 hother

end Rung

/-! ### The initial root and what it vouches for -/

/-- Whether the trusted root is the initial one. -/
def Rooted (c : Client ν κ) (t : Trust) : Prop :=
  ∃ root, Signed.parseAs c.primitives Root c.initialRoot = .ok root ∧
    t.root = some ⟨root, c.initialRoot⟩ ∧ t.rootKeys = .ofKeys c.primitives root.payload.keys

/-- Whether some bytes are metadata that the initial root authorizes for a role. -/
def Authentic (c : Client ν κ) (role : Role) (bs : Bytes) (m : Signed α) : Prop :=
  Signed.parseAs c.primitives α bs = .ok m ∧
    ∃ root, Signed.parseAs c.primitives Root c.initialRoot = .ok root ∧
      m.verifies c.primitives (root.payload.roles.of role)
        (.ofKeys c.primitives root.payload.keys) = true

/-- Under the initial root, what the trusted root authorizes is authentic. -/
theorem authentic_iff {role : Role} {bs : Bytes} {m : Signed α} {root : Verified Root}
    (hrooted : Rooted c t) (hroot : t.root = some root) :
    Authentic c role bs m ↔ Signed.parseAs c.primitives α bs = .ok m ∧
      m.verifies c.primitives (root.payload.roles.of role) t.rootKeys = true := by
  obtain ⟨initial, hparse, hheld, hkeys⟩ := hrooted
  cases hheld.symm.trans hroot
  rw [hkeys]
  constructor
  · rintro ⟨hread, initial', hparse', hverifies⟩
    cases hparse.symm.trans hparse'
    exact ⟨hread, hverifies⟩
  · rintro ⟨hread, hverifies⟩
    exact ⟨hread, initial, hparse, hverifies⟩

/-! ### What a refresh keeps -/

/-- Whether the store holds for a role authentic metadata that is not below `m`. -/
def Stored (c : Client ν κ) (view : κ → String → Option Bytes) (r : Rung c.primitives α)
    (m : Signed α) (w : World ν κ) : Prop :=
  ∃ bs stored, view w.cache r.role.name = some bs ∧ Authentic c r.role bs stored ∧ r.le m stored

/-- What holds throughout refreshes in which the root stays the initial one: the store holds no
other root, no other one is trusted, and what is trusted below the root is matched in the store. -/
structure Steady (c : Client ν κ) (view : κ → String → Option Bytes) (s : Spot ν κ) : Prop where
  root_stored : ∀ bs, view s.2.cache Role.root.name = some bs → bs = c.initialRoot
  rooted : s.1.root = none ∨ Rooted c s.1
  matched : ∀ {α : Type} [RolePayload α] (r : Rung c.primitives α) (v : Verified α),
    r.held s.1 = some v → Stored c view r v.metadata s.2

/-- A floor: what the store holds for a role is not below `m`, and neither is what is trusted for
it; there is such a thing once there is a root. -/
structure Above (c : Client ν κ) (view : κ → String → Option Bytes) (r : Rung c.primitives α)
    (m : Signed α) (s : Spot ν κ) : Prop where
  stored : Stored c view r m s.2
  trusted : s.1.root = none ∨ ∃ v, r.held s.1 = some v ∧ r.le m v.metadata

variable {r : Rung c.primitives α} {m : Signed α}

/-- What a role holds in the store depends on what the store holds for it only. -/
theorem Stored.of_view_eq (h : Stored c view r m w)
    (hview : view w'.cache r.role.name = view w.cache r.role.name) : Stored c view r m w' := by
  rwa [Stored, hview]

/-- Offers that leave the root the initial one. -/
def Staying (c : Client ν κ) : Trust.Offer → Prop
  | .firstRoot bs => bs = c.initialRoot
  | .root _ => False
  | _ => True

theorem Staying.ne_root (h : Staying c offer) (bs : Bytes) : offer ≠ .root bs := by
  rintro rfl
  exact h

/-- Offers from the mirrors below the root leave the root alone. -/
theorem staying_of_advancing (h : Advancing offer) : Staying c offer := by
  cases offer with
  | firstRoot => cases h
  | root => cases h
  | _ => exact trivial

/-- Only the initial root is accepted as a root. -/
theorem Staying.firstRoot {bs : Bytes} (h : Staying c offer)
    (hsubject : offer.subject = some (.root, bs)) :
    offer = .firstRoot bs ∧ bs = c.initialRoot := by
  cases offer with
  | firstRoot =>
    cases hsubject
    exact ⟨rfl, h⟩
  | root => exact absurd h id
  | _ => cases hsubject

/-- What is trusted under the initial root, once some root is trusted. -/
theorem Steady.rooted_of_held (h : Steady c view s) {root : Verified Root}
    (hroot : s.1.root = some root) : Rooted c s.1 := by
  rcases h.rooted with hnone | hrooted
  · cases hnone.symm.trans hroot
  · exact hrooted

section Acceptance

variable {role : Role} {bs : Bytes} (hsteady : Steady c view s)
  (hmove : Accepts c.primitives view offer role bs s s')
include hsteady hmove

/-- What is accepted for a role is matched in the store from then on. -/
theorem accepted_stored (hrole : role = r.role) : ∃ m, Authentic c r.role bs m ∧
    view s'.2.cache r.role.name = some bs ∧ r.held s'.1 = some ⟨m, bs⟩ ∧
      ∀ v, r.held s.1 = some v → r.le v.metadata m := by
  subst hrole
  obtain ⟨root, m, hroot, hread, hsigned, hheld, hle⟩ := r.accepted hmove.subject hmove.accepted
  exact ⟨m, (authentic_iff (hsteady.rooted_of_held hroot) hroot).2 ⟨hread, hsigned⟩,
    hmove.stored, hheld, hle⟩

theorem Steady.accept (hstaying : Staying c offer) : Steady c view s' := by
  have hkept := kept_of_attempt hstaying.ne_root hmove.subject hmove.accepted
  refine ⟨?_, ?_, ?_⟩
  · intro bs' hbs'
    by_cases hrole : role = .root
    · subst hrole
      cases hmove.stored.symm.trans hbs'
      exact (hstaying.firstRoot hmove.subject).2
    · rw [hmove.others .root hrole] at hbs'
      exact hsteady.root_stored bs' hbs'
  · by_cases hrole : role = .root
    · subst hrole
      obtain ⟨rfl, rfl⟩ := hstaying.firstRoot hmove.subject
      obtain ⟨m, hm, htrust⟩ := Trust.loadRoot_eq_ok_iff.1 hmove.accepted
      exact .inr ⟨m, hm.read, by rw [htrust], by rw [htrust]⟩
    · obtain ⟨hroot, hkeys⟩ := hkept.1 hrole
      rw [Rooted, hroot, hkeys]
      exact hsteady.rooted
  · intro α _ r v hv
    by_cases hrole : role = r.role
    · obtain ⟨m, hauthentic, hstored, hheld, -⟩ := accepted_stored (r := r) hsteady hmove hrole
      cases hheld.symm.trans hv
      exact ⟨bs, m, hstored, hauthentic, r.le_refl m⟩
    · rw [r.kept hstaying.ne_root hmove.subject hrole hmove.accepted] at hv
      exact (hsteady.matched r v hv).of_view_eq (hmove.others r.role hrole)

theorem Above.accept (hadvancing : Advancing offer) (h : Above c view r m s) :
    Above c view r m s' := by
  have hstaying : Staying c offer := staying_of_advancing hadvancing
  by_cases hrole : role = r.role
  · obtain ⟨m', hauthentic, hstored, hheld, hle⟩ := accepted_stored hsteady hmove hrole
    rcases h.trusted with hnone | ⟨v, hv, hle'⟩
    · subst hrole
      obtain ⟨root, _, hroot, _⟩ := r.accepted hmove.subject hmove.accepted
      cases hnone.symm.trans hroot
    · have hle : r.le m m' := r.le_trans hle' (hle v hv)
      exact ⟨⟨bs, m', hstored, hauthentic, hle⟩, .inr ⟨_, hheld, hle⟩⟩
  · have hroot : role ≠ .root := by
      rintro rfl
      obtain ⟨hfirst, -⟩ := hstaying.firstRoot hmove.subject
      rw [hfirst] at hadvancing
      exact hadvancing
    refine ⟨h.stored.of_view_eq (hmove.others r.role hrole), ?_⟩
    rw [((kept_of_attempt hstaying.ne_root hmove.subject hmove.accepted).1 hroot).1,
      r.kept hstaying.ne_root hmove.subject hrole hmove.accepted]
    exact h.trusted

end Acceptance

/-- Moves that leave the root the initial one keep all of it. -/
theorem Steady.moves {P : Trust.Offer → Prop} (hP : ∀ offer, P offer → Staying c offer)
    (h : Steady c view s) (hmoves : Moves c.primitives view P s s') : Steady c view s' := by
  refine hmoves.induction (I := Steady c view) ?_ h
  intro s s' h hmove
  rcases hmove.idle_or_accepts with ⟨htrust, hview⟩ | ⟨offer, role, bs, hoffer, haccepts⟩
  · refine ⟨?_, ?_, fun r v hv => ?_⟩
    · rw [hview]
      exact h.root_stored
    · rw [htrust]
      exact h.rooted
    · rw [htrust] at hv
      exact (h.matched r v hv).of_view_eq (congrFun hview _)
  · exact h.accept haccepts (hP offer hoffer)

/-- A floor lasts whatever the mirrors give. -/
theorem Above.moves (hsteady : Steady c view s) (h : Above c view r m s)
    (hmoves : Moves c.primitives view Advancing s s') : Above c view r m s' := by
  suffices hboth : Steady c view s' ∧ Above c view r m s' from hboth.2
  refine hmoves.induction (I := fun s => Steady c view s ∧ Above c view r m s) ?_ ⟨hsteady, h⟩
  rintro s s' ⟨hsteady, h⟩ hmove
  refine ⟨hsteady.moves (fun _ => staying_of_advancing) (.of_move hmove), ?_⟩
  rcases hmove.idle_or_accepts with ⟨htrust, hview⟩ | ⟨offer, role, bs, hoffer, haccepts⟩
  · refine ⟨h.stored.of_view_eq (congrFun hview _), ?_⟩
    rw [htrust]
    exact h.trusted
  · exact h.accept hsteady haccepts hoffer

/-! ### What a cold refresh finds in the store -/

/-- Whether the snapshot that a store holds is the one that the timestamp it holds pins. -/
def Linked (p : Primitives) (held : String → Option Bytes) : Prop :=
  ∀ bs ∈ held Role.timestamp.name, ∀ timestamp ∈ (Signed.parseAs p Timestamp bs).toOption,
    ∀ bs' ∈ held Role.snapshot.name, ∀ snapshot ∈ (Signed.parseAs p Snapshot bs').toOption,
      ∃ pin ∈ timestamp.payload.snapshotPin?, pin.Describes p snapshot.version bs'

instance {p : Primitives} {held : String → Option Bytes} : Decidable (Linked p held) := by
  unfold Linked
  infer_instance

/-- To tell whether a store that holds both is linked. -/
theorem linked_iff {p : Primitives} {held : String → Option Bytes} {bs bs' : Bytes}
    {timestamp : Signed Timestamp} {snapshot : Signed Snapshot}
    (hheld : held Role.timestamp.name = some bs)
    (hread : Signed.parseAs p Timestamp bs = .ok timestamp)
    (hheld' : held Role.snapshot.name = some bs')
    (hread' : Signed.parseAs p Snapshot bs' = .ok snapshot) : Linked p held ↔
      ∃ pin, timestamp.payload.snapshotPin? = some pin ∧ pin.Describes p snapshot.version bs' := by
  simp [Linked, hheld, hread, hheld', hread', Except.toOption]

theorem attempt_stored_timestamp {bs : Bytes} {m : Signed Timestamp} (hrooted : Rooted c t)
    (hnone : t.timestamp = none) (hm : Authentic c .timestamp bs m) :
    t.attempt c.primitives (.timestamp bs .cache) =
      .ok { t with timestamp := some ⟨m, bs⟩ } := by
  obtain ⟨root, -, hroot, -⟩ := id hrooted
  obtain ⟨hread, hsigned⟩ := (authentic_iff hrooted hroot).1 hm
  refine Trust.updateTimestamp_eq_ok_iff.2 ⟨_, m, ⟨hroot, hread, ?_, ?_, nofun, hsigned⟩, rfl⟩
  · intro held h
    cases hnone.symm.trans h
  · intro held h
    cases hnone.symm.trans h

theorem attempt_stored_snapshot {bs : Bytes} {m : Signed Snapshot} {timestamp : Verified Timestamp}
    {pin : Pin} (hrooted : Rooted c t) (htimestamp : t.timestamp = some timestamp)
    (hnone : t.snapshot = none) (hm : Authentic c .snapshot bs m)
    (hpin : timestamp.payload.snapshotPin? = some pin)
    (hdescribes : pin.Describes c.primitives m.version bs) :
    t.attempt c.primitives (.snapshot bs .cache) =
      .ok { t with snapshot := some ⟨m, bs⟩, delegated := .empty } := by
  obtain ⟨root, -, hroot, -⟩ := id hrooted
  obtain ⟨hread, hsigned⟩ := (authentic_iff hrooted hroot).1 hm
  refine Trust.updateSnapshot_eq_ok_iff.2 ⟨_, timestamp, m, ⟨hroot, htimestamp, hread, ?_,
    ⟨pin, hpin, hdescribes⟩, ?_, nofun, hsigned⟩, rfl⟩
  · intro held h
    cases hnone.symm.trans h
  · intro held h
    cases hnone.symm.trans h

/-- Without a root nothing that the store holds below the root is accepted. -/
theorem unrooted_floored (hroot : s.1.root = none) : (floored c view none s).1.root = none := by
  refine Trust.run_induction (P := fun t => t.root = none) ?_ hroot
  intro t offer hmem t' hroot haccept
  obtain ⟨role, bs, hrole, -, rfl⟩ := mem_floors hmem
  cases role with
  | root => exact absurd rfl hrole
  | timestamp =>
    obtain ⟨root, m, hm, -⟩ := Trust.updateTimestamp_eq_ok_iff.1 haccept
    cases hroot.symm.trans hm.root_held
  | snapshot =>
    obtain ⟨root, timestamp, m, hm, -⟩ := Trust.updateSnapshot_eq_ok_iff.1 haccept
    cases hroot.symm.trans hm.root_held
  | targets =>
    obtain ⟨root, snapshot, m, hm, -⟩ := Trust.updateTargets_eq_ok_iff.1 haccept
    cases hroot.symm.trans hm.root_held

/-- The stored snapshot and targets leave the trusted timestamp alone. -/
theorem timestamp_of_run {held : String → Option Bytes} :
    (t.run c.primitives (floor held .snapshot ++ floor held .targets)).timestamp = t.timestamp := by
  refine Trust.run_induction (P := fun t' => t'.timestamp = t.timestamp) ?_ rfl
  intro t₁ offer hmem t₂ h haccept
  rcases List.mem_append.1 hmem with hmem | hmem
  · obtain ⟨bs, -, rfl⟩ := mem_floor.1 hmem
    obtain ⟨root, timestamp, m, -, rfl⟩ := Trust.updateSnapshot_eq_ok_iff.1 haccept
    exact h
  · obtain ⟨bs, -, rfl⟩ := mem_floor.1 hmem
    obtain ⟨root, snapshot, m, -, rfl⟩ := Trust.updateTargets_eq_ok_iff.1 haccept
    exact h

/-- The stored targets leave the trusted snapshot alone. -/
theorem snapshot_of_run {held : String → Option Bytes} :
    (t.run c.primitives (floor held .targets)).snapshot = t.snapshot := by
  refine Trust.run_induction (P := fun t' => t'.snapshot = t.snapshot) ?_ rfl
  intro t₁ offer hmem t₂ h haccept
  obtain ⟨bs, -, rfl⟩ := mem_floor.1 hmem
  obtain ⟨root, snapshot, m, -, rfl⟩ := Trust.updateTargets_eq_ok_iff.1 haccept
  exact h

/-- To load the stored timestamp. -/
theorem run_floor_timestamp {held : String → Option Bytes} {bs : Bytes} {m : Signed Timestamp}
    (hheld : held Role.timestamp.name = some bs) (hrooted : Rooted c t)
    (hnone : t.timestamp = none) (hm : Authentic c .timestamp bs m) :
    t.run c.primitives (floor held .timestamp) = { t with timestamp := some ⟨m, bs⟩ } := by
  rw [floor, hheld]
  exact Trust.step_of_attempt (attempt_stored_timestamp hrooted hnone hm)

/-- After a cold refresh has loaded what the store holds, a floor under the stored timestamp is one
under the trusted timestamp. -/
theorem above_timestamp_floored {m : Signed Timestamp} (hsteady : Steady c view s)
    (hnone : s.1.timestamp = none) (hm : Stored c view .timestamp m s.2) :
    Above c view .timestamp m (floored c view none s) := by
  refine ⟨hm, ?_⟩
  rcases hsteady.rooted with hroot | hrooted
  · exact .inl (unrooted_floored hroot)
  · right
    obtain ⟨bs, stored, hheld, hauthentic, hle⟩ := hm
    refine ⟨⟨stored, bs⟩, ?_, hle⟩
    show (s.1.run c.primitives (floors (view s.2.cache))).timestamp = _
    rw [floors, List.append_assoc, Trust.run_append, timestamp_of_run,
      run_floor_timestamp hheld hrooted hnone hauthentic]

/-- A cold refresh accepts the stored snapshot if the stored timestamp pins it, and else none. -/
theorem snapshot_floored {bs bs' : Bytes} {timestamp : Signed Timestamp}
    {snapshot : Signed Snapshot} (hrooted : Rooted c s.1) (htimestamp : s.1.timestamp = none)
    (hsnapshot : s.1.snapshot = none) (hheld : view s.2.cache Role.timestamp.name = some bs)
    (hauthentic : Authentic c .timestamp bs timestamp)
    (hheld' : view s.2.cache Role.snapshot.name = some bs')
    (hauthentic' : Authentic c .snapshot bs' snapshot) :
    (floored c view none s).1.snapshot =
      if Linked c.primitives (view s.2.cache) then some ⟨snapshot, bs'⟩ else none := by
  let t₁ : Trust := { s.1 with timestamp := some ⟨timestamp, bs⟩ }
  have hlinked := linked_iff hheld hauthentic.1 hheld' hauthentic'.1
  have hfloored : (floored c view none s).1.snapshot =
      (t₁.step c.primitives (.snapshot bs' .cache)).snapshot := by
    show (s.1.run c.primitives (floors (view s.2.cache))).snapshot = _
    rw [floors, Trust.run_append, Trust.run_append, snapshot_of_run,
      run_floor_timestamp hheld hrooted htimestamp hauthentic, floor, hheld']
    rfl
  rw [hfloored]
  split
  · rename_i h
    obtain ⟨pin, hpin, hdescribes⟩ := hlinked.1 h
    have haccept := attempt_stored_snapshot (t := t₁) hrooted rfl hsnapshot hauthentic' hpin
      hdescribes
    rw [Trust.step_of_attempt haccept]
  · rename_i h
    cases haccept : t₁.attempt c.primitives (.snapshot bs' .cache) with
    | ok t₂ =>
      obtain ⟨root, held, m, hm, -⟩ := Trust.updateSnapshot_eq_ok_iff.1 haccept
      cases hm.timestamp_held
      cases hauthentic'.1.symm.trans hm.read
      exact absurd (hlinked.2 hm.pinned) h
    | error e =>
      rw [Trust.step, haccept]
      exact hsnapshot

/-- The same of a floor under what the stored snapshot lists, if the stored snapshot is the one that
the stored timestamp pins. -/
theorem above_snapshot_floored {m : Signed Snapshot} {stamp : Signed Timestamp}
    (hsteady : Steady c view s) (htimestamp : s.1.timestamp = none)
    (hsnapshot : s.1.snapshot = none) (hstamp : Stored c view .timestamp stamp s.2)
    (hm : Stored c view .snapshot m s.2) (hlinked : Linked c.primitives (view s.2.cache)) :
    Above c view .snapshot m (floored c view none s) := by
  refine ⟨hm, ?_⟩
  rcases hsteady.rooted with hroot | hrooted
  · exact .inl (unrooted_floored hroot)
  · right
    obtain ⟨bs, stored, hheld, hauthentic, -⟩ := hstamp
    obtain ⟨bs', stored', hheld', hauthentic', hle⟩ := hm
    refine ⟨⟨stored', bs'⟩, ?_, hle⟩
    exact (snapshot_floored hrooted htimestamp hsnapshot hheld hauthentic hheld' hauthentic').trans
      (if_pos hlinked)

end SecureUpdate.Client
