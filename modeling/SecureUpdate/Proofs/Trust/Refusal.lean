import SecureUpdate.Proofs.Chain
import SecureUpdate.Proofs.Failure
import SecureUpdate.Proofs.Metadata.Reading
import SecureUpdate.Proofs.Trust.Run
import SecureUpdate.Telemetry

/-!
Why an offer is refused. Besides what reading it gives, a refusal comes of comparing what was read
with what is trusted: a property of all such comparisons is one of every refusal, where it is one of
what is read and of what is missing. Whatever is offered, and on top of whatever is trusted, a
refusal is a failure of trust: acceptance moves no bytes and keeps none. Only the comparison of
versions makes it a rollback.

Main statements: `updateTimestamp_refusal`, `updateSnapshot_refusal`, `updateTargets_refusal`,
`updateDelegated_refusal`, `attempt_error`.
-/

namespace SecureUpdate

open Chain

/-- Bytes differ from a pin in their length or in a digest. -/
theorem Pin.check_error {p : Primitives} {pin : Pin} {bs : Bytes} :
    FailsWith (fun reason => reason ≠ .unlistedBySnapshot) (pin.check p bs) := by
  obtain ⟨version, length, hashes⟩ := pin
  have hdigests : FailsWith (fun reason => reason ≠ .unlistedBySnapshot)
      (Pin.check p ⟨version, none, hashes⟩ bs) := by
    cases hashes with
    | none => exact .ok
    | some hashes =>
      cases hmismatch : hashes.firstMismatch p bs with
      | none => simpa [check, hmismatch] using .ok
      | some algorithm => simpa [check, hmismatch] using .error nofun
  cases length with
  | none => exact hdigests
  | some length => exact .ite (.error nofun) hdigests

namespace Trust

/-- Whether a failure is one of trust. -/
abbrev Judges {α : Type} (x : Except TrustError α) : Prop :=
  FailsWith (fun e => e.ofTrust = true) x

/-- Whether a failure is one of trust, but no rollback. -/
abbrev Disapproves {α : Type} (x : Except TrustError α) : Prop :=
  FailsWith (fun e => e.ofTrust = true ∧ Counters.isRollback e = false) x

theorem Disapproves.judges {α : Type} {x : Except TrustError α} (h : Disapproves x) : Judges x :=
  h.mono fun _ he => he.1

/-- Whether a property is one of all that comes of comparing what was read: with the version that is
trusted, with a pin, with the time, and with the keys that may sign. -/
structure OfComparing (P : TrustError → Prop) : Prop where
  rolledBack : ∀ role trusted candidate, P (.rollbackAttack role trusted candidate)
  skipped : ∀ role expected actual, P (.badVersionNumber role expected actual)
  unpinned : ∀ role reason, reason ≠ .unlistedBySnapshot → P (.pinMismatch role reason)
  expired : ∀ role expires, P (.expiredMetadata role expires)
  unsigned : ∀ role valid threshold, P (.unsignedMetadata role valid threshold)

/-- Whether a property is one of every role that is offered before those it rests on. -/
def OfEarly (P : TrustError → Prop) : Prop := ∀ role stage, P (.invalidTransition role stage)

variable {p : Primitives} {t : Trust} {bs : Bytes} {origin : Origin} {role delegator : String}
  {P : TrustError → Prop}

/-! ### The single checks -/

theorem unexpired_error {α : Type} [RolePayload α] {m : Signed α}
    (h : ∀ expires, P (.expiredMetadata role expires)) : FailsWith P (t.unexpired role m) :=
  .ite (.error (h _)) .ok

theorem signedBy_error {α : Type} {m : Signed α} {authority : Authority} {ring : KeyRing}
    (h : ∀ valid threshold, P (.unsignedMetadata role valid threshold)) :
    FailsWith P (signedBy p m authority ring role) :=
  .ite .ok (.error (h _ _))

theorem requireRoot_error (h : t.root = none → P (t.tooEarly role)) :
    FailsWith P (t.requireRoot role) := by
  unfold requireRoot
  cases hroot : t.root with
  | some root => exact .ok
  | none => exact .error (h hroot)

theorem unexpired_disapproves {α : Type} [RolePayload α] {m : Signed α} :
    Disapproves (t.unexpired role m) := unexpired_error fun _ => ⟨rfl, rfl⟩

theorem signedBy_disapproves {α : Type} {m : Signed α} {authority : Authority} {ring : KeyRing} :
    Disapproves (signedBy p m authority ring role) := signedBy_error fun _ _ => ⟨rfl, rfl⟩

theorem requireRoot_disapproves : Disapproves (t.requireRoot role) :=
  requireRoot_error fun _ => ⟨rfl, rfl⟩

theorem parseAs_disapproves {α : Type} [RolePayload α] : Disapproves (Signed.parseAs p α bs) := by
  refine Signed.parseAs_error.mono ?_
  rintro _ ⟨role, reason, rfl, -⟩
  exact ⟨rfl, rfl⟩

theorem requireSnapshotPin_disapproves {m : Timestamp} : Disapproves (requireSnapshotPin m) := by
  unfold requireSnapshotPin
  cases m.snapshotPin? with
  | some pin => exact .ok
  | none => exact .error ⟨rfl, rfl⟩

theorem delegationOf_disapproves : Disapproves (t.delegationOf role delegator) := by
  unfold delegationOf
  cases t.delegator? delegator with
  | none => exact .error ⟨rfl, rfl⟩
  | some parent =>
    simp only
    split
    · exact .ok
    · exact .error ⟨rfl, rfl⟩

section Comparing

variable (hP : OfComparing P)
include hP

theorem notRolledBack_error {trusted candidate : UInt64} :
    FailsWith P (notRolledBack role trusted candidate) := .ite (.error (hP.rolledBack _ _ _)) .ok

theorem matchesPin_error {version : UInt64} {trusted : Option UInt64} {pin : Option Pin} :
    FailsWith P (matchesPin p role version bs trusted pin) := by
  have hpinned : FailsWith P (matchesPin p role version bs none pin) := by
    unfold matchesPin
    cases pin with
    | none => exact .error (hP.unpinned _ _ nofun)
    | some pin =>
      refine .ite (.error (hP.unpinned _ _ nofun)) ?_
      cases hcheck : pin.check p bs with
      | ok _ => exact .ok
      | error reason => exact .error (hP.unpinned _ _ (Pin.check_error reason hcheck))
  cases trusted with
  | none => exact hpinned
  | some trusted => exact (notRolledBack_error hP).bind fun _ => hpinned

theorem keepsPins_error {trusted candidate : Dict Pin} :
    FailsWith P (keepsPins trusted candidate) := by
  unfold keepsPins
  induction trusted.entries with
  | nil => exact .ok
  | cons e entries ih => exact (notRolledBack_error hP).bind fun _ => ih

/-- The checks that end the acceptance of a pinned role: its own expiry and that of the role that
pins it, if it comes from the mirrors, and its signatures. -/
theorem ending_error {α β γ : Type} [RolePayload α] [RolePayload β] {role' : String}
    {m : Signed α} {m' : Signed β} {authority : Authority} {ring : KeyRing} {x : γ} :
    FailsWith P (if origin = .remote then
      t.unexpired role m >>= fun _ => t.unexpired role' m' >>= fun _ =>
        signedBy p m' authority ring role' >>= fun _ => .ok x
      else signedBy p m' authority ring role' >>= fun _ => .ok x) := by
  have hsigned : FailsWith P (signedBy p m' authority ring role' >>= fun _ => .ok x) :=
    (signedBy_error (hP.unsigned role')).bind fun _ => .ok
  exact .ite ((unexpired_error (hP.expired role)).bind fun _ =>
    (unexpired_error (hP.expired role')).bind fun _ => hsigned) hsigned

/-! ### Each kind of offer -/

theorem loadRoot_refusal (hearly : OfEarly P) (hread : FailsWith P (Signed.parseAs p Root bs)) :
    FailsWith P (t.loadRoot p bs) :=
  .ite (.error (hearly _ _)) <|
    hread.bind fun _ => (signedBy_error (hP.unsigned _)).bind fun _ => .ok

theorem updateRoot_refusal (hearly : OfEarly P) (hread : FailsWith P (Signed.parseAs p Root bs)) :
    FailsWith P (t.updateRoot p bs) :=
  (requireRoot_error fun _ => hearly _ _).bind fun _ => hread.bind fun _ =>
    .ite (.error (hP.rolledBack _ _ _)) <| .ite (.error (hP.skipped _ _ _)) <|
      (signedBy_error (hP.unsigned _)).bind fun _ =>
        (signedBy_error (hP.unsigned _)).bind fun _ => .ok

theorem updateTimestamp_refusal (hearly : OfEarly P)
    (hread : FailsWith P (Signed.parseAs p Timestamp bs))
    (hheld : ∀ held, t.timestamp = some held → FailsWith P (requireSnapshotPin held.payload))
    (hoffered : ∀ m, Signed.parseAs p Timestamp bs = .ok m →
      FailsWith P (requireSnapshotPin m.payload)) :
    FailsWith P (t.updateTimestamp p bs origin) := by
  have hending {x : Trust} {m : Signed Timestamp} {authority : Authority} :
      FailsWith P (if origin = .remote then t.unexpired Role.timestamp.name m >>= fun _ =>
          signedBy p m authority t.rootKeys Role.timestamp.name >>= fun _ => .ok x
        else signedBy p m authority t.rootKeys Role.timestamp.name >>= fun _ => .ok x) :=
    .ite_bind (unexpired_error (hP.expired _)) ((signedBy_error (hP.unsigned _)).bind fun _ => .ok)
  unfold updateTimestamp
  refine (requireRoot_error fun _ => hearly _ _).bind fun root => hread.bind_of_ok fun m hm => ?_
  cases htimestamp : t.timestamp with
  | none => exact hending
  | some held =>
    refine (notRolledBack_error hP).bind fun _ => ?_
    refine (hheld held htimestamp).bind fun old => (hoffered m hm).bind fun new => ?_
    exact (notRolledBack_error hP).bind fun _ => hending

theorem updateSnapshot_refusal (hearly : OfEarly P)
    (hread : FailsWith P (Signed.parseAs p Snapshot bs))
    (hheld : ∀ held, t.timestamp = some held → FailsWith P (requireSnapshotPin held.payload)) :
    FailsWith P (t.updateSnapshot p bs origin) := by
  unfold updateSnapshot
  refine (requireRoot_error fun _ => hearly _ _).bind fun root => ?_
  cases htimestamp : t.timestamp with
  | none => exact .error (hearly _ _)
  | some timestamp =>
    refine hread.bind fun m => (hheld timestamp htimestamp).bind fun pin => ?_
    refine (matchesPin_error hP).bind fun _ => ?_
    cases t.snapshot with
    | none => exact ending_error hP
    | some held => exact (keepsPins_error hP).bind fun _ => ending_error hP

theorem updateTargets_refusal (hearly : OfEarly P)
    (hread : FailsWith P (Signed.parseAs p Targets bs)) :
    FailsWith P (t.updateTargets p bs origin) := by
  unfold updateTargets
  refine (requireRoot_error fun _ => hearly _ _).bind fun root => ?_
  cases t.snapshot with
  | none => exact .error (hearly _ _)
  | some snapshot =>
    exact hread.bind fun m => (matchesPin_error hP).bind fun _ => ending_error hP

theorem updateDelegated_refusal (hearly : t.snapshot = none → P (t.tooEarly role))
    (hread : FailsWith P (Signed.parseAs p Targets bs))
    (hdelegation : FailsWith P (t.delegationOf role delegator)) :
    FailsWith P (t.updateDelegated p bs role delegator origin) := by
  unfold updateDelegated
  cases hsnapshot : t.snapshot with
  | none => exact .error (hearly hsnapshot)
  | some snapshot =>
    refine hdelegation.bind fun delegation => ?_
    exact hread.bind fun m => (matchesPin_error hP).bind fun _ => ending_error hP

end Comparing

/-! ### Failures of trust -/

theorem loadRoot_disapproves : Disapproves (t.loadRoot p bs) :=
  .ite (.error ⟨rfl, rfl⟩) <|
    parseAs_disapproves.bind fun _ => signedBy_disapproves.bind fun _ => .ok

/-- What comes of comparing is a failure of trust. -/
theorem ofComparing_ofTrust : OfComparing fun e => e.ofTrust = true where
  rolledBack _ _ _ := rfl
  skipped _ _ _ := rfl
  unpinned _ _ _ := rfl
  expired _ _ := rfl
  unsigned _ _ _ := rfl

/-- A refusal is a failure of trust. -/
theorem attempt_error (offer : Offer) : Judges (t.attempt p offer) := by
  have hearly : OfEarly fun e => e.ofTrust = true := fun _ _ => rfl
  have hpin (m : Timestamp) := (requireSnapshotPin_disapproves (m := m)).judges
  cases offer with
  | firstRoot bs => exact loadRoot_disapproves.judges
  | root bs => exact updateRoot_refusal ofComparing_ofTrust hearly parseAs_disapproves.judges
  | timestamp bs origin =>
    exact updateTimestamp_refusal ofComparing_ofTrust hearly parseAs_disapproves.judges
      (fun _ _ => hpin _) fun _ _ => hpin _
  | snapshot bs origin =>
    exact updateSnapshot_refusal ofComparing_ofTrust hearly parseAs_disapproves.judges
      fun _ _ => hpin _
  | targets bs origin =>
    exact updateTargets_refusal ofComparing_ofTrust hearly parseAs_disapproves.judges
  | delegated bs role delegator origin =>
    exact updateDelegated_refusal ofComparing_ofTrust (fun _ => rfl) parseAs_disapproves.judges
      delegationOf_disapproves.judges
  | clock now => exact .ok

/-- A root that is refused is not a failure of transport. -/
theorem updateRoot_error : ∀ e, t.updateRoot p bs = .error e → e.isTransport = false :=
  fun e h => TrustError.isTransport_of_ofTrust (attempt_error (.root bs) e h)

/-! ### The whole chain -/

theorem checkRootExpiry_disapproves : Disapproves t.checkRootExpiry :=
  requireRoot_disapproves.bind fun _ => unexpired_disapproves

theorem presentAndUnexpired_disapproves {α : Type} [RolePayload α] {held : Option (Verified α)} :
    Disapproves (t.presentAndUnexpired role held) := by
  cases held with
  | none => exact .error ⟨rfl, rfl⟩
  | some v => exact unexpired_disapproves

theorem checkConsistent_disapproves : Disapproves (t.checkConsistent p) := by
  unfold checkConsistent
  refine checkRootExpiry_disapproves.bind fun _ => ?_
  cases t.timestamp with
  | none => exact .error ⟨rfl, rfl⟩
  | some timestamp =>
    refine unexpired_disapproves.bind fun _ => presentAndUnexpired_disapproves.bind fun _ => ?_
    refine presentAndUnexpired_disapproves.bind fun _ => ?_
    exact .ite (.error ⟨rfl, rfl⟩) (.ite (.error ⟨rfl, rfl⟩) .ok)

end Trust

end SecureUpdate
