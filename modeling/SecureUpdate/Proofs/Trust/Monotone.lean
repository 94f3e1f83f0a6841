import SecureUpdate.Proofs.Metadata.Reading
import SecureUpdate.Proofs.Sample
import SecureUpdate.Proofs.Trust.Run

/-!
Versions do not fall while timestamp and snapshot keep their signers. The held timestamp and the
held snapshot are then replaced only by ones that are not below them, and are never forgotten. What
is held of targets roles may be forgotten on the way, when a snapshot or top-level targets are
accepted or the targets keys rotate, so their versions are carried by the pins of the held snapshot
instead: every version that was accepted is a floor there.

Main statements: `Floored.attempt`, `log_pairwise_notBelow`.
-/

namespace SecureUpdate

/-! ### What is not below what -/

/-- Whether neither the version of a timestamp nor the version of the snapshot that it pins is below
those of another one. -/
structure StampLe (a b : Signed Timestamp) : Prop where
  version_le : a.version ≤ b.version
  pin_le : ∀ old, a.payload.snapshotPin? = some old →
    ∃ new, b.payload.snapshotPin? = some new ∧ old.version ≤ new.version

theorem StampLe.refl (a : Signed Timestamp) : StampLe a a :=
  ⟨UInt64.le_refl _, fun old hold => ⟨old, hold, UInt64.le_refl _⟩⟩

theorem StampLe.trans {a b d : Signed Timestamp} (hab : StampLe a b) (hbd : StampLe b d) :
    StampLe a d := by
  refine ⟨UInt64.le_trans hab.version_le hbd.version_le, fun old hold => ?_⟩
  obtain ⟨middle, hmiddle, hle⟩ := hab.pin_le old hold
  obtain ⟨new, hnew, hle'⟩ := hbd.pin_le middle hmiddle
  exact ⟨new, hnew, UInt64.le_trans hle hle'⟩

/-- Whether the version of a snapshot is not below that of another one, and it lists every file that
the other one lists, at a version that is not below. -/
structure ListingLe (a b : Signed Snapshot) : Prop where
  version_le : a.version ≤ b.version
  pins_le : ∀ file old, a.payload.pins.get? file = some old →
    ∃ new, b.payload.pins.get? file = some new ∧ old.version ≤ new.version

theorem ListingLe.refl (a : Signed Snapshot) : ListingLe a a :=
  ⟨UInt64.le_refl _, fun _ old hold => ⟨old, hold, UInt64.le_refl _⟩⟩

theorem ListingLe.trans {a b d : Signed Snapshot} (hab : ListingLe a b) (hbd : ListingLe b d) :
    ListingLe a d := by
  refine ⟨UInt64.le_trans hab.version_le hbd.version_le, fun file old hold => ?_⟩
  obtain ⟨middle, hmiddle, hle⟩ := hab.pins_le file old hold
  obtain ⟨new, hnew, hle'⟩ := hbd.pins_le file middle hmiddle
  exact ⟨new, hnew, UInt64.le_trans hle hle'⟩

namespace Trust

variable {p : Primitives} {t t' : Trust} {bs : Bytes} {origin : Origin} {root : Verified Root}
  {offer : Offer} {offers : List Offer}

/-- A timestamp that is accepted on top of another one is not below it. -/
theorem stampLe_of_next {m : Signed Timestamp} {v : Verified Timestamp}
    (hm : NextTimestamp p t bs origin root m) (hv : t.timestamp = some v) :
    StampLe v.metadata m := by
  refine ⟨hm.version_le v hv, fun pin hpin => ?_⟩
  obtain ⟨old, new, hold, hnew, hle⟩ := hm.pin_le v hv
  cases hold.symm.trans hpin
  exact ⟨new, hnew, hle⟩

/-- Whether the held snapshot was read from bytes, so that nothing is listed at version 0. -/
def SnapshotRead (p : Primitives) (t : Trust) : Prop :=
  ∀ v, t.snapshot = some v → ∃ bs, Signed.parseAs p Snapshot bs = .ok v.metadata

/-- A snapshot that is accepted on top of another one is not below it. A file that it drops would
count as listed at version 0, below every version that is read. -/
theorem listingLe_of_next {timestamp : Verified Timestamp} {m : Signed Snapshot}
    {v : Verified Snapshot} (hread : t.SnapshotRead p)
    (hm : NextSnapshot p t bs origin root timestamp m) (hv : t.snapshot = some v) :
    ListingLe v.metadata m := by
  refine ⟨hm.version_le v hv, fun file old hold => ?_⟩
  have hle : old.version ≤ Pin.listed m.payload.pins file :=
    hm.keeps v hv (file, old) (SortedMap.mem_of_get? hold)
  cases hnew : m.payload.pins.get? file with
  | some new =>
    rw [Pin.listed, hnew] at hle
    exact ⟨new, rfl, hle⟩
  | none =>
    -- the file is dropped, so its old version was at most 0, which no reading lets pass
    rw [Pin.listed, hnew] at hle
    obtain ⟨bs, hbs⟩ := hread v hv
    exact absurd (UInt64.le_antisymm hle UInt64.zero_le) (Snapshot.listed_ne_zero hbs hold)

/-! ### What is accepted in a run -/

/-- Metadata that was accepted below the root; a targets role, top-level or delegated, goes by its
name. -/
inductive Entry where
  | timestamp (m : Signed Timestamp)
  | snapshot (m : Signed Snapshot)
  | targets (role : String) (m : Signed Targets)

/-- Whether what was accepted later is not below what was accepted earlier, for the same role. -/
def Entry.NotBelow : (earlier later : Entry) → Prop
  | .timestamp a, .timestamp b => StampLe a b
  | .snapshot a, .snapshot b => ListingLe a b
  | .targets role a, .targets role' b => role = role' → a.version ≤ b.version
  | _, _ => True

/-- What an offer adds to what was accepted below the root. -/
def entry? (p : Primitives) (t : Trust) (offer : Offer) : Option Entry :=
  match t.attempt p offer with
  | .error _ => none
  | .ok t' =>
    match offer with
    | .timestamp _ _ => t'.timestamp.map fun v => .timestamp v.metadata
    | .snapshot _ _ => t'.snapshot.map fun v => .snapshot v.metadata
    | .targets _ _ => t'.targets.map fun v => .targets Role.targets.name v.metadata
    | .delegated _ role _ _ => (t'.delegated.get? role).map fun v => .targets role v.metadata
    | _ => none

/-- All that is accepted below the root in a run, in order. -/
def log (p : Primitives) (t : Trust) : List Offer → List Entry
  | [] => []
  | offer :: offers => (t.entry? p offer).toList ++ log p (t.step p offer) offers

/-- Whether the root after an offer has the timestamp and snapshot signers of the root before. -/
def KeepsSigners (t t' : Trust) : Prop :=
  ∀ previous ∈ t.root, ∀ next ∈ t'.root,
    previous.payload.signers .timestamp = next.payload.signers .timestamp ∧
      previous.payload.signers .snapshot = next.payload.signers .snapshot

/-- Whether no root that is accepted in a run has other timestamp or snapshot signers than the one
before it. -/
def KeepsSignersThroughout (p : Primitives) (t : Trust) : List Offer → Prop
  | [] => True
  | offer :: offers => t.KeepsSigners (t.step p offer) ∧
      KeepsSignersThroughout p (t.step p offer) offers

instance : Decidable (t.KeepsSigners t') := by
  unfold KeepsSigners; infer_instance

instance decidableKeepsSignersThroughout (p : Primitives) :
    (t : Trust) → (offers : List Offer) → Decidable (t.KeepsSignersThroughout p offers)
  | _, [] => .isTrue trivial
  | t, offer :: offers =>
    have := decidableKeepsSignersThroughout p (t.step p offer) offers
    inferInstanceAs (Decidable (_ ∧ _))

/-! ### Floors -/

/-- Whether something that was accepted is a floor under what is held: targets roles under what the
held snapshot pins for them. -/
def Entry.Under (t : Trust) : Entry → Prop
  | .timestamp a => ∃ v, t.timestamp = some v ∧ StampLe a v.metadata
  | .snapshot a => ∃ v, t.snapshot = some v ∧ ListingLe a v.metadata
  | .targets role a => ∃ v pin, t.snapshot = some v ∧ v.payload.pin? role = some pin ∧
      a.version ≤ pin.version

/-- Whether neither the held timestamp nor the held snapshot falls or is forgotten. -/
structure Ascends (t t' : Trust) : Prop where
  timestamp : ∀ v, t.timestamp = some v →
    ∃ v', t'.timestamp = some v' ∧ StampLe v.metadata v'.metadata
  snapshot : ∀ v, t.snapshot = some v →
    ∃ v', t'.snapshot = some v' ∧ ListingLe v.metadata v'.metadata

theorem Ascends.of_eq (htimestamp : t'.timestamp = t.timestamp)
    (hsnapshot : t'.snapshot = t.snapshot) : t.Ascends t' :=
  ⟨fun v hv => ⟨v, htimestamp.trans hv, .refl _⟩, fun v hv => ⟨v, hsnapshot.trans hv, .refl _⟩⟩

/-- A floor stays one while timestamp and snapshot ascend. -/
theorem Entry.Under.of_ascends {e : Entry} (h : e.Under t) (hascends : t.Ascends t') :
    e.Under t' := by
  cases e with
  | timestamp a =>
    obtain ⟨v, hv, hle⟩ := h
    obtain ⟨v', hv', hle'⟩ := hascends.timestamp v hv
    exact ⟨v', hv', hle.trans hle'⟩
  | snapshot a =>
    obtain ⟨v, hv, hle⟩ := h
    obtain ⟨v', hv', hle'⟩ := hascends.snapshot v hv
    exact ⟨v', hv', hle.trans hle'⟩
  | targets role a =>
    obtain ⟨v, pin, hv, hpin, hle⟩ := h
    obtain ⟨v', hv', hle'⟩ := hascends.snapshot v hv
    obtain ⟨pin', hpin', hle''⟩ := hle'.pins_le _ pin hpin
    exact ⟨v', pin', hv', hpin', UInt64.le_trans hle hle''⟩

/-! ### One offer -/

theorem ascends_of_attempt (hread : t.SnapshotRead p) (hkeeps : t.KeepsSigners t')
    (hattempt : t.attempt p offer = .ok t') : t.Ascends t' := by
  cases offer with
  | firstRoot bs =>
    obtain ⟨m, -, rfl⟩ := loadRoot_eq_ok_iff.1 hattempt
    exact .of_eq rfl rfl
  | root bs =>
    obtain ⟨held, m, hm, rfl⟩ := updateRoot_eq_ok_iff.1 hattempt
    -- the targets keys may rotate here, which forgets neither timestamp nor snapshot
    obtain ⟨htimestamp, hsnapshot⟩ := hkeeps held hm.root_held _ rfl
    exact .of_eq (timestamp_forgetRotated.trans (if_pos htimestamp))
      (snapshot_forgetRotated.trans (if_pos ⟨htimestamp, hsnapshot⟩))
  | timestamp bs origin =>
    obtain ⟨root, m, hm, rfl⟩ := updateTimestamp_eq_ok_iff.1 hattempt
    exact ⟨fun v hv => ⟨_, rfl, stampLe_of_next hm hv⟩, fun v hv => ⟨v, hv, .refl _⟩⟩
  | snapshot bs origin =>
    obtain ⟨root, timestamp, m, hm, rfl⟩ := updateSnapshot_eq_ok_iff.1 hattempt
    exact ⟨fun v hv => ⟨v, hv, .refl _⟩, fun v hv => ⟨_, rfl, listingLe_of_next hread hm hv⟩⟩
  | targets bs origin =>
    obtain ⟨root, snapshot, m, -, rfl⟩ := updateTargets_eq_ok_iff.1 hattempt
    exact .of_eq rfl rfl
  | delegated bs role delegator origin =>
    obtain ⟨snapshot, m, -, rfl⟩ := updateDelegated_eq_ok_iff.1 hattempt
    exact .of_eq rfl rfl
  | clock now =>
    cases hattempt
    exact .of_eq rfl rfl

/-- A snapshot is held only once it was read. -/
theorem snapshotRead_of_attempt (h : t.SnapshotRead p) (hattempt : t.attempt p offer = .ok t') :
    t'.SnapshotRead p := by
  cases offer with
  | firstRoot bs =>
    obtain ⟨m, -, rfl⟩ := loadRoot_eq_ok_iff.1 hattempt
    exact h
  | root bs =>
    obtain ⟨held, m, -, rfl⟩ := updateRoot_eq_ok_iff.1 hattempt
    intro v hv
    rw [snapshot_forgetRotated] at hv
    split at hv
    · exact h v hv
    · cases hv
  | timestamp bs origin =>
    obtain ⟨root, m, -, rfl⟩ := updateTimestamp_eq_ok_iff.1 hattempt
    exact h
  | snapshot bs origin =>
    obtain ⟨root, timestamp, m, hm, rfl⟩ := updateSnapshot_eq_ok_iff.1 hattempt
    rintro _ ⟨⟩
    exact ⟨bs, hm.read⟩
  | targets bs origin =>
    obtain ⟨root, snapshot, m, -, rfl⟩ := updateTargets_eq_ok_iff.1 hattempt
    exact h
  | delegated bs role delegator origin =>
    obtain ⟨snapshot, m, -, rfl⟩ := updateDelegated_eq_ok_iff.1 hattempt
    exact h
  | clock now =>
    cases hattempt
    exact h

/-- Metadata of a targets role that is accepted has the version that the held snapshot pins, under
which every earlier version of the role lies. -/
theorem targets_admitted {snapshot : Verified Snapshot} {role : String} {m : Signed Targets}
    {pin : Pin} (hheld : t.snapshot = some snapshot) (hheld' : t'.snapshot = t.snapshot)
    (hpin : snapshot.payload.pin? role = some pin) (hversion : m.version = pin.version) :
    (Entry.targets role m).Under t' ∧ ∀ e : Entry, e.Under t → e.NotBelow (.targets role m) := by
  refine ⟨⟨snapshot, pin, hheld'.trans hheld, hpin, UInt64.le_of_eq hversion⟩, fun e he => ?_⟩
  cases e with
  | targets role' a =>
    rintro rfl
    obtain ⟨v, pin', hv, hpin', hle⟩ := he
    cases hheld.symm.trans hv
    cases hpin.symm.trans hpin'
    exact hversion ▸ hle
  | _ => exact trivial

/-- What is accepted is a floor from then on, and is not below any floor that there was. -/
theorem entry_admitted (hread : t.SnapshotRead p) {e : Entry} (h : t.entry? p offer = some e) :
    e.Under (t.step p offer) ∧ ∀ e' : Entry, e'.Under t → e'.NotBelow e := by
  unfold entry? at h
  unfold step
  cases hattempt : t.attempt p offer with
  | error _ =>
    rw [hattempt] at h
    cases h
  | ok t' =>
    simp only [hattempt] at h ⊢
    cases offer with
    | timestamp bs origin =>
      obtain ⟨root, m, hm, rfl⟩ := updateTimestamp_eq_ok_iff.1 hattempt
      cases h
      refine ⟨⟨_, rfl, .refl _⟩, fun e he => ?_⟩
      cases e with
      | timestamp a =>
        obtain ⟨v, hv, hle⟩ := he
        exact hle.trans (stampLe_of_next hm hv)
      | _ => exact trivial
    | snapshot bs origin =>
      obtain ⟨root, timestamp, m, hm, rfl⟩ := updateSnapshot_eq_ok_iff.1 hattempt
      cases h
      refine ⟨⟨_, rfl, .refl _⟩, fun e he => ?_⟩
      cases e with
      | snapshot a =>
        obtain ⟨v, hv, hle⟩ := he
        exact hle.trans (listingLe_of_next hread hm hv)
      | _ => exact trivial
    | targets bs origin =>
      obtain ⟨root, snapshot, m, hm, rfl⟩ := updateTargets_eq_ok_iff.1 hattempt
      cases h
      obtain ⟨pin, hpin, hdescribes⟩ := hm.pinned
      exact targets_admitted hm.snapshot_held rfl hpin hdescribes.version_eq
    | delegated bs role delegator origin =>
      obtain ⟨snapshot, m, hm, rfl⟩ := updateDelegated_eq_ok_iff.1 hattempt
      simp only [SortedMap.get?_insert, if_pos, Option.map_some, Option.some.injEq] at h
      subst h
      obtain ⟨pin, hpin, hdescribes⟩ := hm.pinned
      exact targets_admitted hm.snapshot_held rfl hpin hdescribes.version_eq
    | _ => cases h

/-! ### Whole runs -/

/-- What an offer does, accepted or refused. -/
theorem step_ascends (hread : t.SnapshotRead p) (hkeeps : t.KeepsSigners (t.step p offer)) :
    (t.step p offer).SnapshotRead p ∧ t.Ascends (t.step p offer) := by
  cases hattempt : t.attempt p offer with
  | ok t' =>
    rw [step_of_attempt hattempt] at hkeeps ⊢
    exact ⟨snapshotRead_of_attempt hread hattempt, ascends_of_attempt hread hkeeps hattempt⟩
  | error e =>
    have hstep : t.step p offer = t := by rw [step, hattempt]
    rw [hstep]
    exact ⟨hread, .of_eq rfl rfl⟩

/-- Nothing that is accepted in a run is below a floor that there was before. -/
theorem notBelow_of_under {e e' : Entry} (hread : t.SnapshotRead p)
    (hkeeps : t.KeepsSignersThroughout p offers) (he : e.Under t) (he' : e' ∈ t.log p offers) :
    e.NotBelow e' := by
  induction offers generalizing t with
  | nil => cases he'
  | cons offer offers ih =>
    obtain ⟨hread', hascends⟩ := step_ascends hread hkeeps.1
    rcases List.mem_append.1 he' with hhead | htail
    · exact (entry_admitted hread (Option.mem_toList.1 hhead)).2 e he
    · exact ih hread' hkeeps.2 (he.of_ascends hascends) htail

/-- In every run in which no accepted root changes the signers of timestamp or snapshot, whatever is
offered and wherever it comes from, nothing that is accepted is below anything that was accepted
before for the same role: timestamps in their versions and in the snapshot versions they pin,
snapshots in their versions, the files they list and the versions they list them at, targets of
every role in their versions. -/
theorem log_pairwise_notBelow (p : Primitives) (now : Instant) (offers : List Offer)
    (hkeeps : (initial now).KeepsSignersThroughout p offers) :
    ((initial now).log p offers).Pairwise Entry.NotBelow := by
  have hread : (initial now).SnapshotRead p := by
    rintro _ ⟨⟩
  -- from here on the run may start anywhere, as long as a held snapshot was read
  generalize initial now = t at hkeeps hread
  induction offers generalizing t with
  | nil => exact .nil
  | cons offer offers ih =>
    obtain ⟨hread', -⟩ := step_ascends hread hkeeps.1
    rw [log, List.pairwise_append]
    refine ⟨?_, ih _ hkeeps.2 hread', fun e he e' he' => ?_⟩
    · cases t.entry? p offer <;> simp
    · have hunder := (entry_admitted hread (Option.mem_toList.1 he)).1
      exact notBelow_of_under hread' hkeeps.2 hunder he'

namespace Rekeyed

/-- A second root, which trusts key 2 for targets from now on. -/
def nextRoot : Bytes :=
  publish ['1'] ("[\"root\",\"1\",false,2,\"2999-01-01T00:00:00Z\",\x7b" ++
    "\"1\":[\"ed25519\",\"ed25519\",[\"" ++ (Key.ofDigit '1').material ++ "\"]]," ++
    "\"2\":[\"ed25519\",\"ed25519\",[\"" ++ (Key.ofDigit '2').material ++ "\"]]\x7d," ++
    "[[[\"1\"],1],[[\"1\"],1],[[\"1\"],1],[[\"2\"],1]]]")

/-- Targets metadata that key 2 signed. -/
def targets (version : Nat) : Bytes :=
  publish ['2'] ("[\"targets\",\"1\"," ++ toString version ++ ",\"2999-01-01T00:00:00Z\"]")

/-- The second root withdraws the key that signed targets 5, which are forgotten then. Neither a
snapshot that lists targets 4 nor targets 4 are accepted afterwards. -/
def history : List Offer :=
  [.firstRoot Sample.root, .timestamp (Sample.timestamp 1 1) .remote,
    .snapshot (Sample.snapshot 1 5) .remote, .targets (Sample.targets 5) .remote, .root nextRoot,
    .timestamp (Sample.timestamp 2 2) .remote, .snapshot (Sample.snapshot 2 4) .remote,
    .targets (targets 4) .remote, .snapshot (Sample.snapshot 2 6) .remote,
    .targets (targets 6) .remote]

end Rekeyed

open Rekeyed in
/-- Six offers are accepted below the root, the first targets under another key than the last. -/
theorem log_pairwise_notBelow_rekeyed :
    (initial Sample.now).KeepsSignersThroughout .transparent history ∧
      ((initial Sample.now).log .transparent history).length = 6 ∧
        ((initial Sample.now).log .transparent history).Pairwise Entry.NotBelow := by
  have hrun : (initial Sample.now).KeepsSignersThroughout .transparent history ∧
      ((initial Sample.now).log .transparent history).length = 6 := by decide +kernel
  exact ⟨hrun.1, hrun.2, log_pairwise_notBelow .transparent Sample.now history hrun.1⟩

end Trust

end SecureUpdate
