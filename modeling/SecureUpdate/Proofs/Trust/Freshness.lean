import SecureUpdate.Proofs.Sample
import SecureUpdate.Proofs.Trust.Run

/-!
What it matters where a candidate comes from. Both origins go through the same checks in the same
order, but only a remote candidate, and the role that pins it, must be unexpired. So an offer from
the cache is refused for every reason a remote one is refused for, except that one.

Main statement: `attempt_remote_of_cache`.
-/

namespace SecureUpdate.Trust

open Chain

variable {p : Primitives} {t t' : Trust} {bs : Bytes} {role delegator : String}

/-! ### Checks that are made or not -/

section Stricter

variable {α β : Type} {x y : Except TrustError α}

/-- Of two runs, one goes as the other, unless it ends at something that is expired. -/
def Stricter (x y : Except TrustError α) : Prop :=
  x = y ∨ ∃ role expires, x = .error (.expiredMetadata role expires)

theorem Stricter.refl : Stricter x x := .inl rfl

/-- A check that both runs make. -/
theorem Stricter.bind {f g : α → Except TrustError β} (h : ∀ a, Stricter (f a) (g a)) :
    Stricter (x >>= f) (x >>= g) := by
  cases x with
  | ok a => exact h a
  | error e => exact .refl

/-- A check for expiry that one run makes. -/
theorem Stricter.unexpired [RolePayload β] {m : Signed β} (h : Stricter x y) :
    Stricter (t.unexpired role m >>= fun _ => x) y := by
  rw [Trust.unexpired]
  split
  · exact .inr ⟨role, m.expires, rfl⟩
  · exact h

end Stricter

theorem updateTimestamp_stricter :
    Stricter (t.updateTimestamp p bs .remote) (t.updateTimestamp p bs .cache) := by
  unfold updateTimestamp
  refine .bind fun root => .bind fun m => ?_
  cases t.timestamp with
  | none => exact .unexpired .refl
  | some held =>
    exact .bind fun _ => .bind fun old => .bind fun new => .bind fun _ => .unexpired .refl

theorem updateSnapshot_stricter :
    Stricter (t.updateSnapshot p bs .remote) (t.updateSnapshot p bs .cache) := by
  unfold updateSnapshot
  refine .bind fun root => ?_
  cases t.timestamp with
  | none => exact .refl
  | some timestamp =>
    refine .bind fun m => .bind fun pin => .bind fun _ => ?_
    cases t.snapshot with
    | none => exact .unexpired (.unexpired .refl)
    | some held => exact .bind fun _ => .unexpired (.unexpired .refl)

theorem updateTargets_stricter :
    Stricter (t.updateTargets p bs .remote) (t.updateTargets p bs .cache) := by
  unfold updateTargets
  refine .bind fun root => ?_
  cases t.snapshot with
  | none => exact .refl
  | some snapshot => exact .bind fun m => .bind fun _ => .unexpired (.unexpired .refl)

theorem updateDelegated_stricter : Stricter (t.updateDelegated p bs role delegator .remote)
    (t.updateDelegated p bs role delegator .cache) := by
  unfold updateDelegated
  cases t.snapshot with
  | none => exact .refl
  | some snapshot =>
    exact .bind fun delegation => .bind fun m => .bind fun _ => .unexpired (.unexpired .refl)

/-! ### What is expired -/

section Expired

variable (p t) (α : Type) [RolePayload α]

/-- Whether what is held of a role is expired. -/
def HoldsExpired {α : Type} [RolePayload α] (held : Option (Verified α)) : Prop :=
  ∃ v, held = some v ∧ v.metadata.isExpired t.now = true

/-- Whether a candidate is expired. -/
def OffersExpired (bs : Bytes) : Prop :=
  ∃ m, Signed.parseAs p α bs = .ok m ∧ m.isExpired t.now = true

/-- Whether the candidate of an offer, or the role that pins it, is expired. No role pins a
timestamp, and a root is not offered with an origin. -/
def Outdated : Offer → Prop
  | .timestamp bs _ => t.OffersExpired p Timestamp bs
  | .snapshot bs _ => t.HoldsExpired t.timestamp ∨ t.OffersExpired p Snapshot bs
  | .targets bs _ | .delegated bs .. => t.HoldsExpired t.snapshot ∨ t.OffersExpired p Targets bs
  | .firstRoot _ | .root _ | .clock _ => False

end Expired

theorem not_offersExpired_iff {α : Type} [RolePayload α] {m : Signed α}
    (hread : Signed.parseAs p α bs = .ok m) :
    ¬ t.OffersExpired p α bs ↔ m.isExpired t.now = false := by
  simp [OffersExpired, hread]

/-- A candidate and what pins it are unexpired when neither counts as expired. -/
theorem both_unexpired_iff {α β : Type} [RolePayload α] [RolePayload β] {held : Option (Verified β)}
    {v : Verified β} {m : Signed α} (hheld : held = some v)
    (hread : Signed.parseAs p α bs = .ok m) :
    v.metadata.isExpired t.now = false ∧ m.isExpired t.now = false ↔
      ¬ (t.HoldsExpired held ∨ t.OffersExpired p α bs) := by
  rw [not_or, not_offersExpired_iff hread]
  simp [HoldsExpired, hheld]

/-- The same offer with another origin. -/
def Offer.withOrigin (origin : Origin) : Offer → Offer
  | .timestamp bs _ => .timestamp bs origin
  | .snapshot bs _ => .snapshot bs origin
  | .targets bs _ => .targets bs origin
  | .delegated bs role delegator _ => .delegated bs role delegator origin
  | offer => offer

/-- A remote offer is refused for what the same offer from the cache is refused for, or because
something is expired. -/
theorem attempt_stricter (offer : Offer) : Stricter (t.attempt p (offer.withOrigin .remote))
    (t.attempt p (offer.withOrigin .cache)) := by
  cases offer with
  | firstRoot bs => exact .refl
  | root bs => exact .refl
  | timestamp bs => exact updateTimestamp_stricter
  | snapshot bs => exact updateSnapshot_stricter
  | targets bs => exact updateTargets_stricter
  | delegated bs role delegator => exact updateDelegated_stricter
  | clock now => exact .refl

theorem updateTimestamp_remote_eq_ok_iff : t.updateTimestamp p bs .remote = .ok t' ↔
    t.updateTimestamp p bs .cache = .ok t' ∧ ¬ t.OffersExpired p Timestamp bs := by
  simp only [updateTimestamp_eq_ok_iff]
  constructor
  · rintro ⟨root, m, h, rfl⟩
    exact ⟨⟨root, m, { h with unexpired := fun h => absurd h (by decide) }, rfl⟩,
      (not_offersExpired_iff h.read).2 (h.unexpired rfl)⟩
  · rintro ⟨⟨root, m, h, rfl⟩, hfresh⟩
    exact ⟨root, m, { h with unexpired := fun _ => (not_offersExpired_iff h.read).1 hfresh }, rfl⟩

theorem updateSnapshot_remote_eq_ok_iff : t.updateSnapshot p bs .remote = .ok t' ↔
    t.updateSnapshot p bs .cache = .ok t' ∧
      ¬ (t.HoldsExpired t.timestamp ∨ t.OffersExpired p Snapshot bs) := by
  simp only [updateSnapshot_eq_ok_iff]
  constructor
  · rintro ⟨root, timestamp, m, h, rfl⟩
    exact ⟨⟨root, timestamp, m, { h with unexpired := fun h => absurd h (by decide) }, rfl⟩,
      (both_unexpired_iff h.timestamp_held h.read).1 (h.unexpired rfl)⟩
  · rintro ⟨⟨root, timestamp, m, h, rfl⟩, hfresh⟩
    have hunexpired := (both_unexpired_iff h.timestamp_held h.read).2 hfresh
    exact ⟨root, timestamp, m, { h with unexpired := fun _ => hunexpired }, rfl⟩

theorem updateTargets_remote_eq_ok_iff : t.updateTargets p bs .remote = .ok t' ↔
    t.updateTargets p bs .cache = .ok t' ∧
      ¬ (t.HoldsExpired t.snapshot ∨ t.OffersExpired p Targets bs) := by
  simp only [updateTargets_eq_ok_iff]
  constructor
  · rintro ⟨root, snapshot, m, h, rfl⟩
    exact ⟨⟨root, snapshot, m, { h with unexpired := fun h => absurd h (by decide) }, rfl⟩,
      (both_unexpired_iff h.snapshot_held h.read).1 (h.unexpired rfl)⟩
  · rintro ⟨⟨root, snapshot, m, h, rfl⟩, hfresh⟩
    have hunexpired := (both_unexpired_iff h.snapshot_held h.read).2 hfresh
    exact ⟨root, snapshot, m, { h with unexpired := fun _ => hunexpired }, rfl⟩

theorem updateDelegated_remote_eq_ok_iff : t.updateDelegated p bs role delegator .remote = .ok t' ↔
    t.updateDelegated p bs role delegator .cache = .ok t' ∧
      ¬ (t.HoldsExpired t.snapshot ∨ t.OffersExpired p Targets bs) := by
  simp only [updateDelegated_eq_ok_iff]
  constructor
  · rintro ⟨snapshot, m, h, rfl⟩
    exact ⟨⟨snapshot, m, { h with unexpired := fun h => absurd h (by decide) }, rfl⟩,
      (both_unexpired_iff h.snapshot_held h.read).1 (h.unexpired rfl)⟩
  · rintro ⟨⟨snapshot, m, h, rfl⟩, hfresh⟩
    have hunexpired := (both_unexpired_iff h.snapshot_held h.read).2 hfresh
    exact ⟨snapshot, m, { h with unexpired := fun _ => hunexpired }, rfl⟩

/-- A remote offer is accepted when the same offer from the cache is, with the same result, and
nothing that matters is expired. -/
theorem attempt_remote_eq_ok_iff {offer : Offer} :
    t.attempt p (offer.withOrigin .remote) = .ok t' ↔
      t.attempt p (offer.withOrigin .cache) = .ok t' ∧ ¬ t.Outdated p offer := by
  cases offer with
  | firstRoot bs => exact ⟨fun h => ⟨h, not_false⟩, And.left⟩
  | root bs => exact ⟨fun h => ⟨h, not_false⟩, And.left⟩
  | timestamp bs => exact updateTimestamp_remote_eq_ok_iff
  | snapshot bs => exact updateSnapshot_remote_eq_ok_iff
  | targets bs => exact updateTargets_remote_eq_ok_iff
  | delegated bs role delegator => exact updateDelegated_remote_eq_ok_iff
  | clock now => exact ⟨fun h => ⟨h, not_false⟩, And.left⟩

/-- **The cache only relaxes expiry.** An offer that is accepted from a remote is accepted from the
cache, with the same result. One that is accepted from the cache is accepted from a remote, with the
same result, or is refused there as expired; and it is refused there exactly when its candidate, or
the role that pins it, is expired. -/
theorem attempt_remote_of_cache (p : Primitives) (t t' : Trust) (offer : Offer) :
    (t.attempt p (offer.withOrigin .remote) = .ok t' →
      t.attempt p (offer.withOrigin .cache) = .ok t') ∧
    (t.attempt p (offer.withOrigin .cache) = .ok t' →
      (t.attempt p (offer.withOrigin .remote) = .ok t' ∨
        ∃ role expires, t.attempt p (offer.withOrigin .remote) =
          .error (.expiredMetadata role expires)) ∧
      ((∃ role expires, t.attempt p (offer.withOrigin .remote) =
        .error (.expiredMetadata role expires)) ↔ t.Outdated p offer)) := by
  refine ⟨fun h => (attempt_remote_eq_ok_iff.1 h).1, fun hcache => ?_⟩
  have hremote : t.attempt p (offer.withOrigin .remote) = .ok t' ∨
      ∃ role expires, t.attempt p (offer.withOrigin .remote) =
        .error (.expiredMetadata role expires) := by
    have hstricter := attempt_stricter (p := p) (t := t) offer
    rwa [Stricter, hcache] at hstricter
  refine ⟨hremote, ?_, fun houtdated => ?_⟩
  · rintro ⟨role, expires, h⟩
    refine Classical.byContradiction fun hfresh => ?_
    cases h.symm.trans (attempt_remote_eq_ok_iff.2 ⟨hcache, hfresh⟩)
  · exact hremote.resolve_left fun h => (attempt_remote_eq_ok_iff.1 h).2 houtdated

namespace Lapsed

/-- A root and a timestamp of the small repository. -/
def fresh : Trust :=
  (initial Sample.now).run .transparent
    [.firstRoot Sample.root, .timestamp (Sample.timestamp 1 1) .remote]

/-- The same, after the timestamp expired in the year 2999. -/
def lapsed : Trust := { fresh with now := ⟨33000000000, 0, by decide⟩ }

/-- A snapshot, which expires with the timestamp. -/
def offered : Offer := .snapshot (Sample.snapshot 1 5) .remote

end Lapsed

open Lapsed in
/-- In time the snapshot is accepted from either origin, and later from the cache alone. -/
theorem attempt_remote_of_cache_lapsed :
    (∃ t', fresh.attempt .transparent (offered.withOrigin .remote) = .ok t' ∧
      fresh.attempt .transparent (offered.withOrigin .cache) = .ok t') ∧
    (∃ t', lapsed.attempt .transparent (offered.withOrigin .cache) = .ok t' ∧
      ∃ role expires, lapsed.attempt .transparent (offered.withOrigin .remote) =
        .error (.expiredMetadata role expires)) := by
  obtain ⟨t₁, h₁⟩ := exists_of_isOk (x := fresh.attempt .transparent (offered.withOrigin .remote))
    (by decide +kernel)
  obtain ⟨t₂, h₂⟩ := exists_of_isOk (x := lapsed.attempt .transparent (offered.withOrigin .cache))
    (by decide +kernel)
  have hrefused : (lapsed.attempt .transparent (offered.withOrigin .remote)).isOk = false := by
    decide +kernel
  obtain ⟨hremote, -⟩ := (attempt_remote_of_cache .transparent lapsed t₂ offered).2 h₂
  refine ⟨⟨t₁, h₁, (attempt_remote_of_cache .transparent fresh t₁ offered).1 h₁⟩,
    ⟨t₂, h₂, hremote.resolve_left fun h => ?_⟩⟩
  rw [h] at hrefused
  cases hrefused

end SecureUpdate.Trust
