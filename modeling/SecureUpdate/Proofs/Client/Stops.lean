import SecureUpdate.Proofs.Client.Company
import SecureUpdate.Proofs.Mirror.Order

/-!
Where a refresh stops. A refresh asks the mirrors for one role after another, for the root as often
as it is rotated. It stops at a role when every mirror fails there, and then its failure is what
those failures come to; the root is the exception, where the chain ends in silence if no mirror
could be reached. A refresh that fails with a rollback has stopped at a role in this way.

Main statements: `StopsAt.runRefresh`, `exists_stopsAt`.
-/

namespace SecureUpdate

variable {ν κ : Type}

namespace Client

/-! ### How far a refresh gets -/

/-- A refresh up to where it asks for the timestamp. -/
def untilTimestamp (c : Client ν κ) (now : Instant) (committed : Option Trust) : Task ν κ Working :=
  c.workingCopy now committed >>= fun k => c.updateRootChain k >>= fun k =>
    if k.cold then c.loadFloors k else pure k

/-- A refresh up to where it asks for the snapshot. -/
def untilSnapshot (c : Client ν κ) (now : Instant) (committed : Option Trust) : Task ν κ Working :=
  c.untilTimestamp now committed >>= c.updateTimestamp

/-- A refresh up to where it asks for the top-level targets. -/
def untilTargets (c : Client ν κ) (now : Instant) (committed : Option Trust) : Task ν κ Working :=
  c.untilSnapshot now committed >>= c.updateSnapshot

theorem runRefresh_eq_untilTargets (c : Client ν κ) (now : Instant) (committed : Option Trust) :
    c.runRefresh now committed = c.untilTargets now committed >>= fun k =>
      c.updateTargets k >>= fun k =>
        Task.ofExcept (k.trust.checkConsistent c.primitives) >>= fun _ => pure k := by
  simp only [runRefresh, untilTargets, untilSnapshot, untilTimestamp, Task.bind_assoc,
    Task.pure_bind, Task.ite_bind]

/-- What a refresh asks for, for which role and in which world, however it ends. -/
inductive Attempts (c : Client ν κ) (now : Instant) (s : Session ν κ) :
    Role → Inquiry → World ν κ → Prop
  | root {k₀ w₀ n k w} (hstart : c.workingCopy now s.committed s.world = (.ok k₀, w₀))
    (hrotates : Rotates c k₀ w₀ n k w) (hlimit : n < c.limits.maxRootRotations.toNat) :
    Attempts c now s .root (c.rootInquiry k.trust) w
  | timestamp {k w} (hbefore : c.untilTimestamp now s.committed s.world = (.ok k, w)) :
    Attempts c now s .timestamp (c.timestampInquiry k.trust) w
  | snapshot {k w timestamp pin} (hbefore : c.untilSnapshot now s.committed s.world = (.ok k, w))
    (hstale : ¬ k.trust.isSnapshotCurrent c.primitives = true)
    (htimestamp : k.trust.timestamp = some timestamp)
    (hpin : Trust.requireSnapshotPin timestamp.payload = .ok pin) :
    Attempts c now s .snapshot (c.snapshotInquiry k.trust pin) w
  | targets {k w snapshot pin} (hbefore : c.untilTargets now s.committed s.world = (.ok k, w))
    (hstale : ¬ k.trust.isTargetsCurrent c.primitives = true)
    (hsnapshot : k.trust.snapshot = some snapshot)
    (hpin : requireTargetsPin snapshot.payload Role.targets.name = .ok pin) :
    Attempts c now s .targets (c.targetsInquiry k.trust pin) w

/-- Whether every mirror fails on an inquiry, and with which failures. -/
def AllRefuse (c : Client ν κ) (q : Inquiry) (w : World ν κ)
    (own : List (String × TrustError)) : Prop :=
  ∃ replies z, MirrorList.AllFail c.limits.fetchTimeout c.fetcher (Verifier.ofAcceptance q.accept)
    (.metadata q.file) q.maxLength c.mirrors (w.net, q.trust) replies own z

/-- Whether a refresh stops at a role, with which failures of the mirrors. -/
structure StopsAt (c : Client ν κ) (now : Instant) (s : Session ν κ) (role : Role) (q : Inquiry)
    (w : World ν κ) (own : List (String × TrustError)) : Prop where
  attempts : c.Attempts now s role q w
  refused : c.AllRefuse q w own
  /-- Where no mirror could be reached for the next root, the chain of roots ends in silence. -/
  unsilent : role = .root → ∃ line ∈ own, line.2.isTransport = false

variable {c : Client ν κ} {now : Instant} {s : Session ν κ} {k k₀ k' : Working}
  {w w₀ w' : World ν κ} {q : Inquiry} {own : List (String × TrustError)} {e : TrustError}
  {role : Role} {committed : Option Trust}

/-! ### One retrieval -/

theorem eligible_metadata (list : MirrorList) (file : String) :
    list.eligible (.metadata file) = list.mirrors := List.filter_eq_self.2 fun _ _ => rfl

/-- A retrieval fails with what the failures of all mirrors come to. -/
theorem AllRefuse.fetchAccepted (h : c.AllRefuse q w own) : ∃ w',
    c.fetchAccepted q.file q.maxLength q.accept q.trust w =
      (.error (MirrorList.failure (.metadata q.file) own), w') := by
  obtain ⟨replies, z, hall⟩ := h
  rw [fetchAccepted_eq_tryEach, hall.tryEach]
  exact ⟨_, rfl⟩

theorem allRefuse_of_fetchAccepted (q : Inquiry)
    (h : c.fetchAccepted q.file q.maxLength q.accept q.trust w = (.error e, w')) :
    ∃ own, c.AllRefuse q w own ∧ e = MirrorList.failure (.metadata q.file) own := by
  unfold Client.fetchAccepted at h
  cases hfetch : c.mirrorList.fetchVerified c.fetcher (Verifier.ofAcceptance q.accept)
      (.metadata q.file) q.maxLength w.net q.trust with
  | mk r rest =>
    rw [hfetch] at h
    cases r with
    | ok bs => cases h
    | error _ =>
      cases h
      obtain ⟨replies, own, hall, rfl⟩ :=
        MirrorList.fetchVerified_error (a := (w.net, q.trust)) hfetch
      rw [eligible_metadata] at hall
      exact ⟨own, ⟨replies, rest, hall⟩, rfl⟩

/-! ### Rollbacks -/

/-- The failures of mirrors come to a rollback when there is one mirror, and its failure is one. -/
theorem isRollback_failure {resource : Resource} :
    Counters.isRollback (MirrorList.failure resource own) = true ↔
      ∃ line, own = [line] ∧ Counters.isRollback line.2 = true := by
  by_cases hone : own.length = 1
  · obtain ⟨line, rfl⟩ := List.length_eq_one_iff.1 hone
    simp [MirrorList.failure]
  · rw [MirrorList.failure_of_length_ne_one resource hone]
    constructor
    · intro hmany
      cases hmany
    · rintro ⟨line, rfl, -⟩
      exact absurd rfl hone

theorem isTransport_of_isRollback (h : Counters.isRollback e = true) : e.isTransport = false := by
  cases e with
  | rollbackAttack => rfl
  | _ => cases h

/-- A transfer that was cut off is no rollback, and neither is what it is replaced by. -/
theorem isRollback_explain (pin : Pin) (role : String) (e : TrustError) :
    Counters.isRollback (pin.explain role e) = Counters.isRollback e := by
  unfold Pin.explain
  cases pin.length with
  | none => rfl
  | some length =>
    cases e with
    | fetch resource source => cases source <;> rfl
    | _ => rfl

/-! ### Where a refresh stops it fails -/

/-- So many rotations are the first ones that following the chain of roots makes. -/
theorem Rotates.rotateRoots {n : Nat} (h : Rotates c k₀ w₀ n k w) (steps : Nat) :
    c.rotateRoots (n + steps) k₀ w₀ = c.rotateRoots steps k w := by
  induction h generalizing steps with
  | start => rw [Nat.zero_add]
  | rotate _ hretrieved hnoted ih =>
    rw [Nat.add_right_comm, Nat.add_assoc, ih, rotateRoots_of_ok hretrieved, Task.bind_of_ok hnoted]

/-- A retrieval of pinned metadata fails as the mirrors do, put differently. -/
theorem AllRefuse.fetchPinned {name : String} {pin : Pin} {cap : UInt64} {t : Trust}
    {accept : Bytes → Trust → Except TrustError Trust}
    (h : c.AllRefuse ⟨pinnedFile t name pin, pin.cap cap, accept, t⟩ w own) : ∃ e w',
      c.fetchPinned name pin cap accept t w = (.error e, w') ∧ Counters.isRollback e =
        Counters.isRollback (MirrorList.failure (.metadata (pinnedFile t name pin)) own) := by
  obtain ⟨w', hfetch⟩ := h.fetchAccepted
  refine ⟨_, w', ?_, isRollback_explain pin name _⟩
  unfold Client.fetchPinned Task.mapError
  rw [hfetch]

/-- A refresh that fails up to some role fails. -/
theorem runRefresh_of_untilTimestamp (h : c.untilTimestamp now committed w = (.error e, w')) :
    c.runRefresh now committed w = (.error e, w') := by
  rw [runRefresh_eq_untilTargets]
  exact Task.bind_of_error (Task.bind_of_error (Task.bind_of_error h))

theorem runRefresh_of_untilSnapshot (h : c.untilSnapshot now committed w = (.error e, w')) :
    c.runRefresh now committed w = (.error e, w') := by
  rw [runRefresh_eq_untilTargets]
  exact Task.bind_of_error (Task.bind_of_error h)

theorem runRefresh_of_untilTargets (h : c.untilTargets now committed w = (.error e, w')) :
    c.runRefresh now committed w = (.error e, w') := by
  rw [runRefresh_eq_untilTargets]
  exact Task.bind_of_error h

theorem pass_of_error {pinned : PinnedRole} {pin : Pin}
    (hstale : ¬ pinned.isCurrent k.trust = true) (hpin : pinned.pin k.trust = .ok pin)
    (h : c.fetchPinned pinned.role.name pin pinned.cap (pinned.accept c.primitives) k.trust w =
      (.error e, w')) : c.pass pinned k w = (.error e, w') := by
  rw [pass, if_neg hstale, hpin, Task.bind_of_ok Task.ofExcept_ok, Task.bind_of_error h]

/-- A refresh that stops at a role fails, and with a rollback when the failures of the mirrors come
to one. -/
theorem StopsAt.runRefresh (h : c.StopsAt now s role q w own) : ∃ e w',
    c.runRefresh now s.committed s.world = (.error e, w') ∧
      Counters.isRollback e = Counters.isRollback (MirrorList.failure (.metadata q.file) own) := by
  obtain ⟨hattempts, hrefused, hunsilent⟩ := h
  cases hattempts with
  | @root k₀ w₀ n k _ hstart hrotates hlimit =>
    obtain ⟨w', hfetch⟩ := hrefused.fetchAccepted
    have hloud : ¬ (MirrorList.failure (.metadata (c.rootInquiry k.trust).file) own).isTransport =
        true := by
      intro htransport
      obtain ⟨line, hline, hloud⟩ := hunsilent rfl
      cases hloud.symm.trans (MirrorList.isTransport_failure.1 htransport line hline)
    obtain ⟨steps, hsteps⟩ := Nat.exists_eq_add_of_lt hlimit
    have hrooted : c.rotateRoots c.limits.maxRootRotations.toNat k₀ w₀ =
        (.error (MirrorList.failure (.metadata (c.rootInquiry k.trust).file) own), w') := by
      rw [hsteps, Nat.add_assoc, hrotates.rotateRoots, rotateRoots_of_error hfetch, if_neg hloud]
    refine ⟨_, w', runRefresh_of_untilTimestamp ?_, rfl⟩
    exact (Task.bind_of_ok hstart).trans (Task.bind_of_error (Task.bind_of_error hrooted))
  | timestamp hbefore =>
    obtain ⟨w', hfetch⟩ := hrefused.fetchAccepted
    refine ⟨_, w', runRefresh_of_untilSnapshot ?_, rfl⟩
    exact (Task.bind_of_ok hbefore).trans (Task.bind_of_error hfetch)
  | snapshot hbefore hstale htimestamp hpin =>
    obtain ⟨e, w', hfetch, hrollback⟩ := AllRefuse.fetchPinned hrefused
    refine ⟨e, w', runRefresh_of_untilTargets ?_, hrollback⟩
    refine (Task.bind_of_ok hbefore).trans ?_
    rw [updateSnapshot_eq_pass]
    exact pass_of_error hstale (pinnedSnapshot_pin_eq_ok_iff.2 ⟨_, htimestamp, hpin⟩) hfetch
  | targets hbefore hstale hsnapshot hpin =>
    obtain ⟨e, w', hfetch, hrollback⟩ := AllRefuse.fetchPinned hrefused
    refine ⟨e, w', ?_, hrollback⟩
    rw [runRefresh_eq_untilTargets, Task.bind_of_ok hbefore, updateTargets_eq_pass]
    exact Task.bind_of_error
      (pass_of_error hstale (pinnedTargets_pin_eq_ok_iff.2 ⟨_, hsnapshot, hpin⟩) hfetch)

/-! ### A rollback comes from where a refresh stops -/

theorem persist_error {bs : Bytes} : c.persist role bs k w ≠ (.error e, w') := by
  intro h
  obtain ⟨failure, hsave⟩ := c.save_world role.name bs w
  rw [persist, Task.bind_of_ok hsave] at h
  cases h

theorem loadCached_error {name : String} : c.loadCached name w ≠ (.error e, w') := by
  intro h
  unfold loadCached at h
  split at h <;> cases h

theorem requireTargetsPin_disapproves {snapshot : Snapshot} {name : String} :
    Trust.Disapproves (requireTargetsPin snapshot name) := by
  unfold requireTargetsPin
  cases snapshot.pin? name with
  | some pin => exact .ok
  | none => exact .error ⟨rfl, rfl⟩

theorem pinnedSnapshot_disapproves {t : Trust} : Trust.Disapproves (c.pinnedSnapshot.pin t) := by
  simp only [pinnedSnapshot]
  cases t.timestamp with
  | none => exact .error ⟨rfl, rfl⟩
  | some timestamp => exact Trust.requireSnapshotPin_disapproves

theorem pinnedTargets_disapproves {t : Trust} : Trust.Disapproves (c.pinnedTargets.pin t) := by
  simp only [pinnedTargets]
  cases t.snapshot with
  | none => exact .error ⟨rfl, rfl⟩
  | some snapshot => exact requireTargetsPin_disapproves

theorem startFromInitial_error (h : c.startFromInitial now w = (.error e, w')) :
    Counters.isRollback e = false := by
  rcases Task.bind_eq_error_iff.1 h with hload | ⟨trust, w₁, -, hpersist⟩
  · exact (Trust.loadRoot_disapproves e (Task.ofExcept_eq_error_iff.1 hload).1).2
  · exact absurd hpersist persist_error

/-- A refresh that does not even start fails with the initial root. -/
theorem workingCopy_error (h : c.workingCopy now committed w = (.error e, w')) :
    Counters.isRollback e = false := by
  cases committed with
  | some trust => cases h
  | none =>
    rcases Task.bind_eq_error_iff.1 (h : c.startCold now w = (.error e, w')) with
      hload | ⟨held, w₁, -, hstart⟩
    · exact absurd hload loadCached_error
    · cases held with
      | none => exact startFromInitial_error hstart
      | some bs =>
        simp only at hstart
        cases hroot : (Trust.initial now).loadRoot c.primitives bs with
        | ok trust =>
          rw [hroot] at hstart
          cases hstart
        | error _ =>
          rw [hroot] at hstart
          exact startFromInitial_error hstart

theorem loadFloor_error {accept : Bytes → Trust → Except TrustError Trust} :
    c.loadFloor role accept k w ≠ (.error e, w') := by
  intro h
  rcases Task.bind_eq_error_iff.1 h with hload | ⟨held, w₁, -, hrest⟩
  · exact loadCached_error hload
  · cases held with
    | none => cases hrest
    | some bs =>
      simp only at hrest
      cases hoffer : accept bs k.trust with
      | ok trust =>
        rw [hoffer] at hrest
        cases hrest
      | error _ =>
        rw [hoffer] at hrest
        cases hrest

/-- What the cache holds cannot make a refresh fail. -/
theorem loadFloors_error : c.loadFloors k w ≠ (.error e, w') := by
  intro h
  rcases Task.bind_eq_error_iff.1 h with htimestamp | ⟨k₁, w₁, -, h⟩
  · exact loadFloor_error htimestamp
  · rcases Task.bind_eq_error_iff.1 h with hsnapshot | ⟨k₂, w₂, -, htargets⟩
    · exact loadFloor_error hsnapshot
    · exact loadFloor_error htargets

/-- Following the chain of roots fails only where the next root is refused. -/
theorem rotateRoots_error {n : Nat} (steps : Nat) (hrotates : Rotates c k₀ w₀ n k w)
    (h : c.rotateRoots steps k w = (.error e, w')) : ∃ n' k' w₁ w₂,
      Rotates c k₀ w₀ n' k' w₁ ∧ n' < n + steps ∧ e.isTransport = false ∧
        c.fetchAccepted (nextRootFile k'.trust) c.limits.rootSizeCap
          (fun bs t => t.updateRoot c.primitives bs) k'.trust w₁ = (.error e, w₂) := by
  induction steps generalizing n k w with
  | zero => cases h
  | succ steps ih =>
    cases hfetch : c.fetchAccepted (nextRootFile k.trust) c.limits.rootSizeCap
        (fun bs t => t.updateRoot c.primitives bs) k.trust w with
    | mk r w₁ =>
      cases r with
      | error e' =>
        rw [rotateRoots_of_error hfetch] at h
        split at h
        · cases h
        · rename_i hloud
          cases h
          exact ⟨n, k, w, _, hrotates, by omega, Bool.eq_false_iff.2 hloud, hfetch⟩
      | ok found =>
        obtain ⟨bs, trust⟩ := found
        rw [rotateRoots_of_ok hfetch] at h
        rcases Task.bind_eq_error_iff.1 h with hnote | ⟨k₁, w₂, hnote, hrest⟩
        · rw [noteRotation, Task.bind_of_ok (report_eq _ _),
            Task.bind_of_ok (report_eq _ _)] at hnote
          exact absurd hnote persist_error
        · obtain ⟨n', k', w₃, w₄, hrotates', hlimit, hrest⟩ :=
            ih (.rotate hrotates hfetch hnote) hrest
          exact ⟨n', k', w₃, w₄, hrotates', by omega, hrest⟩

/-- Where the failure of a retrieval is a rollback, the failure of some mirror was. -/
theorem exists_rollback {resource : Resource}
    (h : Counters.isRollback (MirrorList.failure resource own) = true) :
    ∃ line ∈ own, Counters.isRollback line.2 = true := by
  obtain ⟨line, rfl, hline⟩ := isRollback_failure.1 h
  exact ⟨line, List.mem_singleton_self line, hline⟩

/-- A pinned role that fails with a rollback is not current and has a pin, and every mirror fails on
its metadata. -/
theorem pass_rollback {pinned : PinnedRole} (hpinned : Trust.Disapproves (pinned.pin k.trust))
    (h : c.pass pinned k w = (.error e, w')) (he : Counters.isRollback e = true) :
    ∃ pin own, ¬ pinned.isCurrent k.trust = true ∧ pinned.pin k.trust = .ok pin ∧
      c.AllRefuse ⟨pinnedFile k.trust pinned.role.name pin, pin.cap pinned.cap,
        pinned.accept c.primitives, k.trust⟩ w own ∧
      ∃ line ∈ own, Counters.isRollback line.2 = true := by
  unfold pass at h
  split at h
  · cases h
  rename_i hstale
  rcases Task.bind_eq_error_iff.1 h with hunpinned | ⟨pin, w₁, hlisted, hretrieve⟩
  · cases he.symm.trans (hpinned e (Task.ofExcept_eq_error_iff.1 hunpinned).1).2
  obtain ⟨hpin, rfl⟩ := Task.ofExcept_eq_ok_iff.1 hlisted
  have hfetch := retrieve_error (fun _ => pin.version) hretrieve
  unfold fetchPinned Task.mapError at hfetch
  cases hrun : c.fetchAccepted (pinnedFile k.trust pinned.role.name pin) (pin.cap pinned.cap)
      (pinned.accept c.primitives) k.trust w with
  | mk r w₂ =>
    rw [hrun] at hfetch
    cases r with
    | ok found => cases hfetch
    | error _ =>
      cases hfetch
      rw [isRollback_explain] at he
      obtain ⟨own, hrefused, rfl⟩ := allRefuse_of_fetchAccepted ⟨pinnedFile k.trust
        pinned.role.name pin, pin.cap pinned.cap, pinned.accept c.primitives, k.trust⟩ hrun
      exact ⟨pin, own, hstale, hpin, hrefused, exists_rollback he⟩

section Stages

variable (he : Counters.isRollback e = true)
include he

theorem untilTimestamp_rollback (h : c.untilTimestamp now s.committed s.world = (.error e, w')) :
    ∃ q w own, c.StopsAt now s .root q w own ∧
      ∃ line ∈ own, Counters.isRollback line.2 = true := by
  rcases Task.bind_eq_error_iff.1 h with hstart | ⟨k₀, w₀, hstart, h⟩
  · cases he.symm.trans (workingCopy_error hstart)
  rcases Task.bind_eq_error_iff.1 h with hchain | ⟨k₁, w₁, -, hfloors⟩
  · rcases Task.bind_eq_error_iff.1 hchain with hrooted | ⟨k₁, w₁, -, hcheck⟩
    · obtain ⟨n, k, w, w₂, hrotates, hlimit, hloud, hfetch⟩ := rotateRoots_error _ .start hrooted
      obtain ⟨own, hrefused, rfl⟩ := allRefuse_of_fetchAccepted (c.rootInquiry k.trust) hfetch
      have hrollback := exists_rollback he
      refine ⟨_, w, own, ⟨.root hstart hrotates (by omega), hrefused, fun _ => ?_⟩, hrollback⟩
      obtain ⟨line, hline, hrolled⟩ := hrollback
      exact ⟨line, hline, isTransport_of_isRollback hrolled⟩
    · rcases Task.bind_eq_error_iff.1 hcheck with hexpired | ⟨_, w₂, -, hdone⟩
      · have hplain := Trust.checkRootExpiry_disapproves e (Task.ofExcept_eq_error_iff.1 hexpired).1
        cases he.symm.trans hplain.2
      · cases hdone
  · split at hfloors
    · exact absurd hfloors loadFloors_error
    · cases hfloors

theorem untilSnapshot_rollback (h : c.untilSnapshot now s.committed s.world = (.error e, w')) :
    ∃ role q w own, c.StopsAt now s role q w own ∧
      ∃ line ∈ own, Counters.isRollback line.2 = true := by
  rcases Task.bind_eq_error_iff.1 h with hbefore | ⟨k, w, hbefore, hstage⟩
  · exact ⟨_, untilTimestamp_rollback he hbefore⟩
  · have hfetch := retrieve_error (fun t => (t.timestamp.map Verified.version).getD 0) hstage
    obtain ⟨own, hrefused, rfl⟩ := allRefuse_of_fetchAccepted (c.timestampInquiry k.trust) hfetch
    exact ⟨_, _, w, own, ⟨.timestamp hbefore, hrefused, nofun⟩, exists_rollback he⟩

theorem untilTargets_rollback (h : c.untilTargets now s.committed s.world = (.error e, w')) :
    ∃ role q w own, c.StopsAt now s role q w own ∧
      ∃ line ∈ own, Counters.isRollback line.2 = true := by
  rcases Task.bind_eq_error_iff.1 h with hbefore | ⟨k, w, hbefore, hstage⟩
  · exact untilSnapshot_rollback he hbefore
  rw [updateSnapshot_eq_pass] at hstage
  obtain ⟨pin, own, hstale, hpin, hrefused, hrollback⟩ :=
    pass_rollback pinnedSnapshot_disapproves hstage he
  obtain ⟨timestamp, htimestamp, hpin⟩ := pinnedSnapshot_pin_eq_ok_iff.1 hpin
  refine ⟨_, _, w, own, ⟨.snapshot hbefore hstale htimestamp hpin, hrefused, fun hroot => ?_⟩,
    hrollback⟩
  exact absurd hroot c.pinnedSnapshot.below_root

/-- A refresh that fails with a rollback has stopped at a role where a mirror failed with one. -/
theorem exists_stopsAt (h : c.runRefresh now s.committed s.world = (.error e, w')) :
    ∃ role q w own, c.StopsAt now s role q w own ∧
      ∃ line ∈ own, Counters.isRollback line.2 = true := by
  rw [runRefresh_eq_untilTargets] at h
  rcases Task.bind_eq_error_iff.1 h with hbefore | ⟨k, w, hbefore, h⟩
  · exact untilTargets_rollback he hbefore
  rcases Task.bind_eq_error_iff.1 h with hstage | ⟨k₁, w₁, -, hcheck⟩
  · rw [updateTargets_eq_pass] at hstage
    obtain ⟨pin, own, hstale, hpin, hrefused, hrollback⟩ :=
      pass_rollback pinnedTargets_disapproves hstage he
    obtain ⟨snapshot, hsnapshot, hpin⟩ := pinnedTargets_pin_eq_ok_iff.1 hpin
    refine ⟨_, _, w, own, ⟨.targets hbefore hstale hsnapshot hpin, hrefused, fun hroot => ?_⟩,
      hrollback⟩
    exact absurd hroot c.pinnedTargets.below_root
  · rcases Task.bind_eq_error_iff.1 hcheck with hinconsistent | ⟨_, w₂, -, hdone⟩
    · have hplain := Trust.checkConsistent_disapproves e
        (Task.ofExcept_eq_error_iff.1 hinconsistent).1
      cases he.symm.trans hplain.2
    · cases hdone

end Stages

end Client

end SecureUpdate
