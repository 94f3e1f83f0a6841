import SecureUpdate.Proofs.Client.Bookkeeping
import SecureUpdate.Proofs.Client.Stops

/-!
The last check of a refresh has nothing left to find. Each stage either skips a role, because what
is held for it is current, or accepts what the mirrors send, which then is; all stages judge by the
same time, and none undoes what an earlier one established. So when every stage succeeds, the chain
is complete, unexpired and pinned link by link. Nor does a stage fail for want of a pin in what is
held: whatever is held was read, and what is read has the pins that its role must have.

Main statement: `refresh_consistent`.
-/

namespace SecureUpdate

open Chain

variable {ν κ : Type}

/-- A check at the end of a step is idle where the step never yields what it refuses. -/
theorem Task.bind_check_of_meets {α : Type} {P : TrustError → Prop} {a : Task ν κ α}
    {check : α → Except TrustError Unit} (h : a.Meets P fun x => check x = .ok ()) :
    (a >>= fun x => Task.ofExcept (check x) >>= fun _ => pure x) = a := by
  funext w
  cases ha : a w with
  | mk r w' =>
    cases r with
    | error e => rw [Task.bind_of_error ha]
    | ok x =>
      have hx := (h w).2 x (by rw [ha])
      rw [Task.bind_of_ok ha, hx, Task.bind_of_ok Task.ofExcept_ok]
      rfl

theorem Task.exists_world {α : Type} {a : Task ν κ α} {w : World ν κ} {r : Except TrustError α}
    (h : (a w).1 = r) : ∃ w', a w = (r, w') :=
  ⟨(a w).2, Prod.ext h rfl⟩

/-- What is of trust itself blames itself. -/
theorem Chain.FailsWith.onlyBlames {α : Type} {P : TrustError → Prop} {x : Except TrustError α}
    (h : FailsWith P x) (htrust : Trust.Judges x) : FailsWith (TrustError.OnlyBlames P) x :=
  fun e he => .of_ofTrust (htrust e he) (h e he)

namespace Trust

variable {p : Primitives} {t t' : Trust} {bs : Bytes} {origin : Origin} {role : Role}

/-! ### What the stages establish -/

theorem SameRoot.of_below (hrole : role ≠ .root)
    (h : t.attempt p (.below role bs origin) = .ok t') : SameRoot t t' := by
  cases role with
  | root => exact absurd rfl hrole
  | timestamp => exact .of_timestamp h
  | snapshot => exact .of_snapshot h
  | targets => exact .of_targets h

theorem SameRoot.checkRootExpiry (h : SameRoot t t') (hroot : t.checkRootExpiry = .ok ()) :
    t'.checkRootExpiry = .ok () := by
  rw [checkRootExpiry_eq_ok_iff, h.root, h.now]
  exact checkRootExpiry_eq_ok_iff.1 hroot

/-- An unexpired root, and an unexpired timestamp under it. -/
structure Timed (t : Trust) : Prop where
  root : t.checkRootExpiry = .ok ()
  timestamp : ∃ v, t.timestamp = some v ∧ v.metadata.isExpired t.now = false

/-- A snapshot beside them that is the one the timestamp pins, and unexpired. -/
structure Listed (p : Primitives) (t : Trust) : Prop where
  timed : t.Timed
  snapshot : t.isSnapshotCurrent p = true

/-- What comes from the mirrors is unexpired when it is accepted. -/
theorem timed_of_updateTimestamp (hroot : t.checkRootExpiry = .ok ())
    (h : t.updateTimestamp p bs .remote = .ok t') : t'.Timed := by
  refine ⟨(SameRoot.of_timestamp h).checkRootExpiry hroot, ?_⟩
  obtain ⟨root, m, hm, rfl⟩ := updateTimestamp_eq_ok_iff.1 h
  exact ⟨_, rfl, hm.unexpired rfl⟩

/-- A snapshot from the mirrors is current once it is accepted, and leaves the timestamp alone. -/
theorem Timed.updateSnapshot (ht : t.Timed) (h : t.updateSnapshot p bs .remote = .ok t') :
    t'.Listed p := by
  have hroot := (SameRoot.of_snapshot h).checkRootExpiry ht.root
  obtain ⟨root, timestamp, m, hm, rfl⟩ := updateSnapshot_eq_ok_iff.1 h
  obtain ⟨pin, hpin, hdescribes⟩ := hm.pinned
  exact ⟨⟨hroot, ht.timestamp⟩, isSnapshotCurrent_iff.2 ⟨timestamp, ⟨m, bs⟩, pin,
    hm.timestamp_held, rfl, hpin, hdescribes, (hm.unexpired rfl).2⟩⟩

/-- So are targets, and they leave timestamp and snapshot alone. -/
theorem Listed.updateTargets (ht : t.Listed p) (h : t.updateTargets p bs .remote = .ok t') :
    t'.Listed p ∧ t'.isTargetsCurrent p = true := by
  have hroot := (SameRoot.of_targets h).checkRootExpiry ht.timed.root
  obtain ⟨root, snapshot, m, hm, rfl⟩ := updateTargets_eq_ok_iff.1 h
  obtain ⟨pin, hpin, hdescribes⟩ := hm.pinned
  exact ⟨⟨⟨hroot, ht.timed.timestamp⟩, ht.snapshot⟩, isPinned_iff.2 ⟨snapshot, ⟨m, bs⟩, pin,
    hm.snapshot_held, rfl, hpin, hdescribes, (hm.unexpired rfl).2⟩⟩

/-- All links together are the whole chain. -/
theorem Listed.checkConsistent (ht : t.Listed p) (htargets : t.isTargetsCurrent p = true) :
    t.checkConsistent p = .ok () := by
  obtain ⟨root, hroot, hfresh⟩ := checkRootExpiry_eq_ok_iff.1 ht.timed.root
  obtain ⟨timestamp, htimestamp, hstamped⟩ := ht.timed.timestamp
  obtain ⟨timestamp', snapshot, pin, htimestamp', hsnapshot, hpin, hcurrent⟩ :=
    isSnapshotCurrent_iff.1 ht.snapshot
  obtain ⟨snapshot', targets, pin', hsnapshot', htargets, hpin', hcurrent'⟩ :=
    isPinned_iff.1 htargets
  cases htimestamp.symm.trans htimestamp'
  cases hsnapshot.symm.trans hsnapshot'
  exact checkConsistent_eq_ok_iff.2 ⟨root, timestamp, snapshot, targets, hroot, htimestamp,
    hsnapshot, htargets, hfresh, hstamped, ⟨pin, hpin, hcurrent⟩, ⟨pin', hpin', hcurrent'⟩⟩

/-! ### The pins of what is held -/

/-- A held timestamp was read, so it pins a snapshot. -/
theorem Represented.exists_snapshotPin (h : t.Represented p) {held : Verified Timestamp}
    (hheld : t.timestamp = some held) : ∃ pin, requireSnapshotPin held.payload = .ok pin := by
  obtain ⟨pin, hpin⟩ :=
    Option.isSome_iff_exists.1 (Timestamp.snapshotPin?_isSome (h.timestamp_read held hheld))
  exact ⟨pin, requireSnapshotPin_eq_ok_iff.2 hpin⟩

/-- A held snapshot was read, so it lists the top-level targets. -/
theorem Represented.exists_targetsPin (h : t.Represented p) {held : Verified Snapshot}
    (hheld : t.snapshot = some held) :
    ∃ pin, Client.requireTargetsPin held.payload Role.targets.name = .ok pin := by
  obtain ⟨pin, hpin⟩ :=
    Option.isSome_iff_exists.1 (Snapshot.pin?_targets_isSome (h.snapshot_read held hheld))
  have hlisted : held.payload.pin? Role.targets.name = some pin := hpin
  exact ⟨pin, by rw [Client.requireTargetsPin, hlisted]⟩

end Trust

namespace Client

open Trust

variable {c : Client ν κ} {P : TrustError → Prop} {I J : Trust → Prop} {k : Working}

/-! ### What each stage blames, and what it leaves -/

theorem persist_meets {role : Role} {bs : Bytes} :
    Task.Meets P (fun k' => k'.trust = k.trust) (c.persist role bs k) :=
  save_meets.bind fun _ _ => .pure rfl

/-- To load does not fail. -/
theorem loadCached_meets {role : String} :
    Task.Meets P (fun _ => True) (c.loadCached role) := by
  intro w
  unfold loadCached
  split <;> exact ⟨.ok, fun _ _ => trivial⟩

/-- To report and save what was retrieved does not fail. -/
theorem retrieve_meets (role : Role) (version : Trust → UInt64) {fetch : Task ν κ (Bytes × Trust)}
    (hfetch : fetch.Meets P fun found => J found.2) :
    Task.Meets P (fun k' => J k'.trust) (fetch >>= fun found =>
      c.noteAccepted role (version found.2) found.1 { k with trust := found.2 }) := by
  refine hfetch.bind fun found hfound => Task.Meets.report.bind fun _ _ => ?_
  refine persist_meets.mono fun k' hk' => ?_
  rw [hk']
  exact hfound

section Start

variable {now : Instant} (hfirst : ∀ bs t, (initial now).loadRoot c.primitives bs = .ok t → I t)
include hfirst

theorem startFromInitial_meets
    (hrefusal : FailsWith P ((initial now).loadRoot c.primitives c.initialRoot)) :
    Task.Meets (TrustError.OnlyBlames P) (fun k => I k.trust) (c.startFromInitial now) := by
  refine Task.Meets.bind (.ofExcept (hrefusal.onlyBlames loadRoot_disapproves.judges)
    fun t ht => hfirst c.initialRoot t ht) fun t ht => ?_
  refine persist_meets.mono fun k hk => ?_
  rw [hk]
  exact ht

theorem workingCopy_meets {committed : Option Trust}
    (hresumed : ∀ t, committed = some t → I { t with now })
    (hrefusal : FailsWith P ((initial now).loadRoot c.primitives c.initialRoot)) :
    Task.Meets (TrustError.OnlyBlames P) (fun k => I k.trust) (c.workingCopy now committed) := by
  cases committed with
  | some t => exact .pure (hresumed t rfl)
  | none =>
    refine loadCached_meets.bind fun held _ => ?_
    cases held with
    | none => exact startFromInitial_meets hfirst hrefusal
    | some bs =>
      simp only
      split
      · rename_i t ht
        exact .pure (hfirst bs t ht)
      · exact startFromInitial_meets hfirst hrefusal

end Start

theorem rotateRoots_meets (hnext : ∀ t bs t', I t → t.updateRoot c.primitives bs = .ok t' → I t')
    (hrefusal : ∀ t, I t → ∀ bs, c.fetcher.Delivers bs → FailsWith P (t.updateRoot c.primitives bs))
    (steps : Nat) (h : I k.trust) :
    Task.Meets (TrustError.OnlyBlames P) (fun k => I k.trust) (c.rotateRoots steps k) := by
  induction steps generalizing k with
  | zero => exact .pure h
  | succ steps ih =>
    intro w
    have hfetch : Task.Meets (TrustError.OnlyBlames P)
        (fun found => k.trust.updateRoot c.primitives found.1 = .ok found.2)
        (c.fetchAccepted (nextRootFile k.trust) c.limits.rootSizeCap
          (fun bs t => t.updateRoot c.primitives bs) k.trust) :=
      fetchAccepted_meets (fun bs => attempt_error (.root bs)) (hrefusal k.trust h)
    obtain ⟨hfails, hok⟩ := hfetch w
    cases hrun : c.fetchAccepted (nextRootFile k.trust) c.limits.rootSizeCap
        (fun bs t => t.updateRoot c.primitives bs) k.trust w with
    | mk r w₁ =>
      rw [hrun] at hfails hok
      cases r with
      | error e =>
        rw [rotateRoots_of_error hrun]
        split
        · refine ⟨.ok, ?_⟩
          rintro _ ⟨⟩
          exact h
        · exact ⟨.error (hfails e rfl), fun _ h => by cases h⟩
      | ok found =>
        rw [rotateRoots_of_ok hrun]
        have hfound : I found.2 := hnext k.trust found.1 found.2 h (hok found rfl)
        refine Task.Meets.bind (Q := fun k' => k'.trust = found.2) ?_ (fun k' hk' => ?_) w₁
        · exact Task.Meets.report.bind fun _ _ => Task.Meets.report.bind fun _ _ => persist_meets
        · exact ih (hk' ▸ hfound)

theorem loadFloor_meets {role : Role} {accept : Bytes → Trust → Except TrustError Trust}
    (haccept : ∀ bs t, accept bs k.trust = .ok t → I t) (h : I k.trust) :
    Task.Meets P (fun k => I k.trust) (c.loadFloor role accept k) := by
  refine loadCached_meets.bind fun held _ => ?_
  cases held with
  | none => exact .pure h
  | some bs =>
    simp only
    split
    · rename_i t ht
      exact .pure (haccept bs t ht)
    · exact .pure h

/-- What the cache holds makes no refresh fail. -/
theorem loadFloors_meets (hkeeps : ∀ role ≠ Role.root, ∀ bs t t', I t →
      t.attempt c.primitives (.below role bs .cache) = .ok t' → I t') (h : I k.trust) :
    Task.Meets P (fun k => I k.trust) (c.loadFloors k) := by
  refine (loadFloor_meets (hkeeps .timestamp (by decide) · k.trust · h) h).bind fun k h => ?_
  refine (loadFloor_meets (hkeeps .snapshot (by decide) · k.trust · h) h).bind fun k h => ?_
  exact loadFloor_meets (hkeeps .targets (by decide) · k.trust · h) h

theorem updateTimestamp_meets
    (hrefusal : ∀ bs, c.fetcher.Delivers bs →
      FailsWith P (k.trust.updateTimestamp c.primitives bs .remote))
    (haccept : ∀ bs t, k.trust.updateTimestamp c.primitives bs .remote = .ok t → J t) :
    Task.Meets (TrustError.OnlyBlames P) (fun k => J k.trust) (c.updateTimestamp k) :=
  retrieve_meets .timestamp (fun t => (t.timestamp.map (·.version)).getD 0)
    ((fetchAccepted_meets (fun bs => attempt_error (.timestamp bs .remote)) hrefusal).mono
      fun found hfound => haccept found.1 found.2 hfound)

theorem pass_meets {pinned : PinnedRole}
    (hcurrent : pinned.isCurrent k.trust = true → J k.trust)
    (hpin : FailsWith (TrustError.OnlyBlames P) (pinned.pin k.trust))
    (hrefusal : ∀ bs, c.fetcher.Delivers bs →
      FailsWith P (k.trust.attempt c.primitives (.below pinned.role bs .remote)))
    (hlong : ∀ received length, P (.pinMismatch pinned.role.name (.overlong received length)))
    (haccept : ∀ bs t, k.trust.attempt c.primitives (.below pinned.role bs .remote) = .ok t → J t) :
    Task.Meets (TrustError.OnlyBlames P) (fun k => J k.trust) (c.pass pinned k) := by
  unfold pass
  split
  · rename_i h
    exact .pure (hcurrent h)
  · refine Task.Meets.bind (.ofExcept hpin fun _ _ => trivial) fun pin (_ : True) => ?_
    refine retrieve_meets pinned.role (fun _ => pin.version) (Task.Meets.mono
      (fetchPinned_meets (fun bs => attempt_error _) hrefusal hlong) fun found hfound => ?_)
    exact haccept found.1 found.2 hfound

/-! ### Every stage succeeds -/

/-- Whether whatever a refresh has come to by some step has a property, if the step does not fail.
-/
abbrev Establishes (Q : Trust → Prop) (a : Task ν κ Working) : Prop :=
  Task.Meets (TrustError.OnlyBlames fun _ => True) (fun k => Q k.trust) a

/-- A refresh up to where it checks the whole chain. -/
def untilCheck (c : Client ν κ) (now : Instant) (committed : Option Trust) : Task ν κ Working :=
  c.untilTargets now committed >>= c.updateTargets

section Established

variable (c : Client ν κ) (now : Instant) (committed : Option Trust)

theorem updateRootChain_establishes (k : Working) :
    Establishes (fun t => t.checkRootExpiry = .ok ()) (c.updateRootChain k) := by
  refine (rotateRoots_meets (fun _ _ _ _ _ => trivial) (fun _ _ _ _ _ _ => trivial) _
    trivial).bind fun k _ => ?_
  exact Task.Meets.bind (.ofExcept (fun _ _ _ _ _ => trivial) fun _ h => h) fun _ h => .pure h

theorem untilTimestamp_establishes :
    Establishes (fun t => t.checkRootExpiry = .ok ()) (c.untilTimestamp now committed) := by
  refine (workingCopy_meets (I := fun _ => True) (fun _ _ _ => trivial) (fun _ _ => trivial)
    fun _ _ => trivial).bind fun k _ => ?_
  refine (c.updateRootChain_establishes k).bind fun k hk => .ite ?_ (.pure hk)
  -- what the cache holds leaves the root alone
  exact loadFloors_meets (I := fun t => t.checkRootExpiry = .ok ()) (fun role hrole bs t t' ht
    haccept => (SameRoot.of_below hrole haccept).checkRootExpiry ht) hk

theorem untilSnapshot_establishes : Establishes Timed (c.untilSnapshot now committed) :=
  (c.untilTimestamp_establishes now committed).bind fun _ hk =>
    updateTimestamp_meets (fun _ _ _ _ => trivial) fun _ _ => timed_of_updateTimestamp hk

/-- A snapshot that is skipped is current, and one that is accepted is, too. -/
theorem untilTargets_establishes :
    Establishes (Listed c.primitives) (c.untilTargets now committed) := by
  refine (c.untilSnapshot_establishes now committed).bind fun k hk => ?_
  rw [updateSnapshot_eq_pass]
  exact pass_meets (fun hcurrent => ⟨hk, hcurrent⟩) (fun _ _ _ _ _ => trivial)
    (fun _ _ _ _ => trivial) (fun _ _ => trivial) fun _ _ haccept => hk.updateSnapshot haccept

/-- Whatever is committed and whatever the store and the mirrors hold: once every stage has
succeeded, the whole chain passes its check. -/
theorem untilCheck_establishes :
    Establishes (fun t => t.checkConsistent c.primitives = .ok ())
      (c.untilCheck now committed) := by
  refine (c.untilTargets_establishes now committed).bind fun k hk => ?_
  rw [updateTargets_eq_pass]
  refine pass_meets (J := fun t => t.checkConsistent c.primitives = .ok ()) hk.checkConsistent
    (fun _ _ _ _ _ => trivial) (fun _ _ _ _ => trivial) (fun _ _ => trivial) fun _ _ haccept => ?_
  obtain ⟨hlisted, htargets⟩ := hk.updateTargets haccept
  exact hlisted.checkConsistent htargets

/-- The check at the end of a refresh is idle. -/
theorem runRefresh_eq_untilCheck : c.runRefresh now committed = c.untilCheck now committed := by
  rw [runRefresh_eq_untilTargets, ← Task.bind_assoc]
  exact Task.bind_check_of_meets (c.untilCheck_establishes now committed)

end Established

/-! ### Some stage fails -/

/-- Whether a refresh may blame something: never that the snapshot does not list the top-level
targets, and that a timestamp pins no snapshot only where bytes say so that the client was shipped
with or that the network delivered. -/
def MayBlame (c : Client ν κ) (e : TrustError) : Prop :=
  e ≠ .pinMismatch Role.targets.name .unlistedBySnapshot ∧
    (e = .malformedMetadata Role.timestamp.name
        (.missingReference (Role.fileOf Role.snapshot.name)) →
      ∃ bs, (bs = c.initialRoot ∨ c.fetcher.Delivers bs) ∧ Signed.parse c.primitives bs = .error e)

theorem ofComparing_mayBlame : OfComparing c.MayBlame where
  rolledBack _ _ _ := ⟨nofun, nofun⟩
  skipped _ _ _ := ⟨nofun, nofun⟩
  unpinned _ _ hreason := by
    refine ⟨?_, nofun⟩
    rintro ⟨⟩
    exact hreason rfl
  expired _ _ := ⟨nofun, nofun⟩
  unsigned _ _ _ := ⟨nofun, nofun⟩

theorem ofEarly_mayBlame : OfEarly c.MayBlame := fun _ _ => ⟨nofun, nofun⟩

theorem overlong_mayBlame {name : String} (received length : Nat) :
    c.MayBlame (.pinMismatch name (.overlong received length)) :=
  ofComparing_mayBlame.unpinned _ _ nofun

/-- To read what was shipped or delivered may be blamed. -/
theorem parseAs_mayBlame {α : Type} [RolePayload α] {bs : Bytes}
    (hbs : bs = c.initialRoot ∨ c.fetcher.Delivers bs) :
    FailsWith c.MayBlame (Signed.parseAs c.primitives α bs) := by
  refine FailsWith.bind (fun e h => ⟨?_, fun _ => ⟨bs, hbs, h⟩⟩) fun m =>
    Signed.narrow_error.mono ?_
  · obtain ⟨role, reason, rfl, -⟩ := Signed.parse_error e h
    nofun
  · rintro _ ⟨role, expected, found, rfl⟩
    exact ⟨nofun, nofun⟩

section Held

variable {t : Trust} {bs : Bytes} {origin : Origin} {role : Role}
  (h : t.Represented c.primitives)
include h

/-- The pin of a held timestamp is never missing. -/
theorem requireSnapshotPin_fails {P : TrustError → Prop} (held : Verified Timestamp)
    (hheld : t.timestamp = some held) : FailsWith P (requireSnapshotPin held.payload) := by
  obtain ⟨pin, hpin⟩ := h.exists_snapshotPin hheld
  rw [hpin]
  exact .ok

theorem below_mayBlame (hrole : role ≠ .root) (hbs : c.fetcher.Delivers bs) :
    FailsWith c.MayBlame (t.attempt c.primitives (.below role bs origin)) := by
  have hread {α : Type} [RolePayload α] : FailsWith c.MayBlame (Signed.parseAs c.primitives α bs) :=
    parseAs_mayBlame (.inr hbs)
  cases role with
  | root => exact absurd rfl hrole
  | timestamp =>
    refine updateTimestamp_refusal ofComparing_mayBlame ofEarly_mayBlame hread
      (requireSnapshotPin_fails h) fun m hm => ?_
    -- a timestamp that could be read pins a snapshot
    obtain ⟨pin, hpin⟩ := Option.isSome_iff_exists.1 (Timestamp.snapshotPin?_isSome hm)
    rw [requireSnapshotPin_eq_ok_iff.2 hpin]
    exact .ok
  | snapshot =>
    exact updateSnapshot_refusal ofComparing_mayBlame ofEarly_mayBlame hread
      (requireSnapshotPin_fails h)
  | targets => exact updateTargets_refusal ofComparing_mayBlame ofEarly_mayBlame hread

theorem pinnedSnapshot_pin_mayBlame :
    FailsWith (TrustError.OnlyBlames c.MayBlame) (c.pinnedSnapshot.pin t) := by
  simp only [pinnedSnapshot]
  cases htimestamp : t.timestamp with
  | none => exact .error (.of_ofTrust rfl (ofEarly_mayBlame _ _))
  | some held => exact requireSnapshotPin_fails h held htimestamp

theorem pinnedTargets_pin_mayBlame :
    FailsWith (TrustError.OnlyBlames c.MayBlame) (c.pinnedTargets.pin t) := by
  simp only [pinnedTargets]
  cases hsnapshot : t.snapshot with
  | none => exact .error (.of_ofTrust rfl (ofEarly_mayBlame _ _))
  | some held =>
    obtain ⟨pin, hpin⟩ := h.exists_targetsPin hsnapshot
    simp only [hpin]
    exact .ok

end Held

theorem checkRootExpiry_mayBlame {t : Trust} : FailsWith c.MayBlame t.checkRootExpiry :=
  (requireRoot_error fun _ => ofEarly_mayBlame _ _).bind fun _ =>
    unexpired_error (ofComparing_mayBlame.expired _)

/-- Whether a step of a refresh blames nothing that it may not, and leaves what fits together. -/
abbrev Fits (c : Client ν κ) (a : Task ν κ Working) : Prop :=
  Task.Meets (TrustError.OnlyBlames c.MayBlame) (fun k => k.trust.Represented c.primitives) a

theorem workingCopy_fits {now : Instant} {committed : Option Trust}
    (h : ∀ t, committed = some t → t.Represented c.primitives) :
    c.Fits (c.workingCopy now committed) := by
  refine workingCopy_meets (fun bs t ht => ?_) (fun t ht => ?_) ?_
  · have hfirst : (initial now).attempt c.primitives (.firstRoot bs) = .ok t := ht
    exact represented_of_attempt represented_initial hfirst
  · exact represented_of_attempt (h t ht) (rfl : t.attempt c.primitives (.clock now) = _)
  · exact loadRoot_refusal ofComparing_mayBlame ofEarly_mayBlame (parseAs_mayBlame (.inl rfl))

section Stages

variable (hk : k.trust.Represented c.primitives)
include hk

theorem updateRootChain_fits : c.Fits (c.updateRootChain k) := by
  refine Task.Meets.bind (rotateRoots_meets (fun t bs t' ht haccept => ?_)
    (fun t _ bs hbs => ?_) _ hk) fun k hk => ?_
  · have hattempt : t.attempt c.primitives (.root bs) = .ok t' := haccept
    exact represented_of_attempt ht hattempt
  · exact updateRoot_refusal ofComparing_mayBlame ofEarly_mayBlame (parseAs_mayBlame (.inr hbs))
  · refine Task.Meets.bind (.ofExcept ?_ fun _ _ => trivial) fun _ (_ : True) => .pure hk
    exact checkRootExpiry_mayBlame.onlyBlames checkRootExpiry_disapproves.judges

theorem loadFloors_fits : c.Fits (c.loadFloors k) :=
  loadFloors_meets (fun _ _ _ _ _ ht haccept => represented_of_attempt ht haccept) hk

theorem updateTimestamp_fits : c.Fits (c.updateTimestamp k) := by
  refine updateTimestamp_meets (fun bs hbs => ?_) fun bs t haccept => ?_
  · have hrefusal : FailsWith c.MayBlame
        (k.trust.attempt c.primitives (.below .timestamp bs .remote)) :=
      below_mayBlame hk nofun hbs
    exact hrefusal
  · have hattempt : k.trust.attempt c.primitives (.timestamp bs .remote) = .ok t := haccept
    exact represented_of_attempt hk hattempt

theorem pass_fits {pinned : PinnedRole}
    (hpin : FailsWith (TrustError.OnlyBlames c.MayBlame) (pinned.pin k.trust)) :
    c.Fits (c.pass pinned k) :=
  pass_meets (fun _ => hk) hpin (fun _ => below_mayBlame hk pinned.below_root) overlong_mayBlame
    fun _ _ => represented_of_attempt hk

end Stages

/-- A refresh that starts from what fits together ends with what fits together, and blames nothing
that it may not. -/
theorem runRefresh_fits {now : Instant} {committed : Option Trust}
    (h : ∀ t, committed = some t → t.Represented c.primitives) :
    c.Fits (c.runRefresh now committed) := by
  rw [runRefresh_eq_untilCheck]
  unfold untilCheck untilTargets untilSnapshot untilTimestamp
  rw [updateSnapshot_eq_pass, updateTargets_eq_pass]
  have hfloored : c.Fits (c.workingCopy now committed >>= fun k => c.updateRootChain k >>= fun k =>
      if k.cold then c.loadFloors k else pure k) :=
    (workingCopy_fits h).bind fun _ hk => (updateRootChain_fits hk).bind fun _ hk =>
      .ite (loadFloors_fits hk) (.pure hk)
  have hstamped := hfloored.bind fun _ hk => updateTimestamp_fits hk
  have hlisted := hstamped.bind fun _ hk => pass_fits hk (pinnedSnapshot_pin_mayBlame hk)
  exact hlisted.bind fun _ hk => pass_fits hk (pinnedTargets_pin_mayBlame hk)

/-- Whatever is committed and whatever the store and the mirrors hold, a refresh whose stages all
succeed has brought about a chain that passes its check, so the check changes nothing. And in a
refresh that starts from nothing, or from what earlier calls committed, the pins that are looked up
are there at every moment: a held timestamp pins a snapshot, and a held snapshot lists the top-level
targets. So the refresh never fails for want of the one, and for want of the other only where bytes
that it was given lack it. -/
theorem refresh_consistent (c : Client ν κ) :
    (∀ now committed,
      (∀ w k w', c.untilCheck now committed w = (.ok k, w') →
        k.trust.checkConsistent c.primitives = .ok ()) ∧
      c.runRefresh now committed = c.untilCheck now committed) ∧
    ∀ w calls now, let s := c.callAll ⟨none, w⟩ calls
      (∀ t, Leads c.primitives (start now s.committed).trust t →
        (∀ held, t.timestamp = some held → ∃ pin, requireSnapshotPin held.payload = .ok pin) ∧
        ∀ held, t.snapshot = some held →
          ∃ pin, requireTargetsPin held.payload Role.targets.name = .ok pin) ∧
      ∀ e w', c.runRefresh now s.committed s.world = (.error e, w') →
        ∀ cause, e.Mentions cause →
          cause ≠ .pinMismatch Role.targets.name .unlistedBySnapshot ∧
          (cause = .malformedMetadata Role.timestamp.name
              (.missingReference (Role.fileOf Role.snapshot.name)) →
            ∃ bs, (bs = c.initialRoot ∨ c.fetcher.Delivers bs) ∧
              Signed.parse c.primitives bs = .error cause) := by
  refine ⟨fun now committed => ⟨fun w k w' hk => ?_, c.runRefresh_eq_untilCheck now committed⟩, ?_⟩
  · exact (c.untilCheck_establishes now committed w).2 k (by rw [hk])
  intro w calls now s
  have hcommitted : ∀ t, s.committed = some t → t.Represented c.primitives :=
    fun t => c.represented_of_callAll w calls
  have hstart : (start now s.committed).trust.Represented c.primitives := by
    cases hs : s.committed with
    | none => exact represented_initial
    | some t =>
      exact represented_of_attempt (hcommitted t hs)
        (rfl : t.attempt c.primitives (.clock now) = _)
  refine ⟨fun t hleads => ?_, fun e w' hrun cause hcause => ?_⟩
  · have ht : t.Represented c.primitives := hstart.of_leads hleads
    exact ⟨fun _ => ht.exists_snapshotPin, fun _ => ht.exists_targetsPin⟩
  · have hblames : e.OnlyBlames c.MayBlame :=
      (runRefresh_fits hcommitted s.world).1 e (congrArg Prod.fst hrun)
    cases htrust : cause.ofTrust with
    | true => exact hblames cause hcause htrust
    | false =>
      -- what is no failure of trust is neither of the two
      refine ⟨?_, ?_⟩ <;>
      · rintro rfl
        cases htrust

namespace Unpinning

/-- A mirror that has the whole small repository. -/
def whole : World (List Reply) (Dict Bytes) :=
  Sample.world [Sample.missing, .body (Sample.timestamp 1 1), .body (Sample.snapshot 1 1),
    .body (Sample.targets 1)]

/-- A mirror that has a timestamp which pins nothing. -/
def bare : World (List Reply) (Dict Bytes) :=
  Sample.world [Sample.missing,
    .body (publish ['1'] "[\"timestamp\",\"1\",1,\"2999-01-01T00:00:00Z\",\x7b\x7d]")]

/-- Whether a refresh has failed for want of the pin of a snapshot. -/
def unpinned : Except TrustError Working → Bool
  | .error (.malformedMetadata role reason) => decide (role = Role.timestamp.name ∧
      reason = .missingReference (Role.fileOf Role.snapshot.name))
  | _ => false

theorem eq_of_unpinned {r : Except TrustError Working} (h : unpinned r = true) :
    r = .error (.malformedMetadata Role.timestamp.name
      (.missingReference (Role.fileOf Role.snapshot.name))) := by
  unfold unpinned at h
  split at h
  · obtain ⟨rfl, rfl⟩ := of_decide_eq_true h
    rfl
  · cases h

end Unpinning

open Unpinning in
/-- From the one mirror all stages of a refresh succeed. From the other one the refresh fails for
want of a pin, in bytes that the mirror delivered. -/
theorem refresh_consistent_unpinning :
    (∃ k w', (scripted Sample.root).untilCheck Sample.now none whole = (.ok k, w') ∧
      k.trust.checkConsistent .transparent = .ok ()) ∧
    ∃ e w', (scripted Sample.root).runRefresh Sample.now none bare = (.error e, w') ∧
      ∃ bs, (bs = Sample.root ∨ (scripted Sample.root).fetcher.Delivers bs) ∧
        Signed.parse .transparent bs = .error e := by
  obtain ⟨hconsistent, hpinned⟩ := refresh_consistent (scripted Sample.root)
  have hruns : ((scripted Sample.root).untilCheck Sample.now none whole).1.isOk = true ∧
      unpinned ((scripted Sample.root).runRefresh Sample.now none bare).1 = true := by
    decide +kernel
  constructor
  · obtain ⟨k, hk⟩ := exists_of_isOk hruns.1
    obtain ⟨w', hrun⟩ := Task.exists_world hk
    exact ⟨k, w', hrun, (hconsistent Sample.now none).1 whole k w' hrun⟩
  · obtain ⟨w', hrun⟩ := Task.exists_world (eq_of_unpinned hruns.2)
    exact ⟨_, w', hrun, ((hpinned bare [] Sample.now).2 _ w' hrun _ .itself).2 rfl⟩

end Client

end SecureUpdate
