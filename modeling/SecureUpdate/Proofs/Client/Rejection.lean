import SecureUpdate.Proofs.Client.Retrieval
import SecureUpdate.Proofs.Trust.InPlace

/-!
What a rejection leaves behind. An operation that fails on what is trusted has changed nothing. A
retrieval that runs one on the body of each mirror, always on the same object, therefore leaves no
trace of the bodies that were refused. A refresh that fails commits nothing, unless all that failed
was to save what it committed.

Main statement: `rejection_leaves_trust`.
-/

namespace SecureUpdate

variable {ν κ σ : Type}

namespace Trust

variable {p : Primitives} {t t' : Trust} {offer : Offer}

/-- As the check of a body, an operation in place is acceptance. -/
theorem InPlace.attempt_eq_ofAcceptance (p : Primitives) (offer : Bytes → Offer) :
    (fun bs => InPlace.attempt p (offer bs)) =
      Verifier.ofAcceptance fun bs t => t.attempt p (offer bs) := by
  funext bs t
  refine (attempt_performs p t (offer bs)).trans ?_
  rw [Verifier.ofAcceptance]
  cases t.attempt p (offer bs) <;> rfl

theorem InPlace.attempt_eq_ok_iff :
    InPlace.attempt p offer t = (.ok (), t') ↔ t.attempt p offer = .ok t' := by
  rw [show InPlace.attempt p offer t = _ from attempt_performs p t offer]
  cases t.attempt p offer with
  | ok t₁ =>
    constructor
    · rintro ⟨⟩
      rfl
    · rintro ⟨⟩
      rfl
  | error e =>
    constructor
    · rintro ⟨⟩
    · rintro ⟨⟩

/-- An operation that fails leaves every part of what is trusted as it was. -/
theorem InPlace.attempt_error {e : TrustError} (h : InPlace.attempt p offer t = (.error e, t')) :
    t' = t := by
  rw [show InPlace.attempt p offer t = _ from attempt_performs p t offer] at h
  split at h
  · cases h
  · cases h
    rfl

end Trust

/-! ### Failover -/

/-- A retrieval gives bytes that were accepted on top of what was trusted before it, or leaves that
alone. -/
theorem MirrorList.fetchVerified_ofAcceptance {τ : Type} {list : MirrorList} {fetcher : Fetcher ν}
    {accept : Bytes → τ → Except TrustError τ} {resource : Resource} {maxLength : UInt64}
    {net net' : ν} {t t' : τ} {r : Except TrustError Bytes}
    (h : list.fetchVerified fetcher (Verifier.ofAcceptance accept) resource maxLength net t =
      (r, net', t')) :
    (∃ bs, r = .ok bs ∧ accept bs t = .ok t') ∨ ∃ e, r = .error e ∧ t' = t := by
  unfold fetchVerified at h
  dsimp only at h
  split at h
  · rename_i hms
    cases h
    rcases tryEach_ofAcceptance hms with ⟨bs, hbs, haccept⟩ | ⟨es, hes, -⟩
    · cases hbs
      exact .inl ⟨_, rfl, haccept⟩
    · cases hes
  · rename_i hms
    cases h
    rcases tryEach_ofAcceptance hms with ⟨bs, hbs, -⟩ | ⟨es, -, rfl⟩
    · cases hbs
    · exact .inr ⟨_, rfl, rfl⟩

/-! ### Refreshes -/

namespace Client

variable {c : Client ν κ} {now : Instant} {s : Session ν κ} {e : TrustError}

/-- Whether a refresh verified the whole chain and committed it, and all it has to report is a
failure to save. -/
def CommitsUnsaved (c : Client ν κ) (now : Instant) (s : Session ν κ) (e : TrustError) : Prop :=
  ∃ k w source, c.runRefresh now s.committed s.world = (.ok k, w) ∧
    k.saveError = some source ∧ e = .store source ∧
    (c.refresh now s).2.committed = some k.trust

theorem refresh_error (h : (c.refresh now s).1 = .error e) :
    (c.refresh now s).2.committed = s.committed ∨ c.CommitsUnsaved now s e := by
  unfold CommitsUnsaved
  unfold refresh at h ⊢
  cases hrun : c.runRefresh now s.committed s.world with
  | mk r w =>
    rw [hrun] at h
    cases r with
    | error e' => exact .inl rfl
    | ok k =>
      cases hsaved : k.saveError with
      | none =>
        simp only [hsaved] at h
        cases h
      | some source =>
        simp only [hsaved, Except.error.injEq] at h
        exact .inr ⟨k, w, source, rfl, hsaved, h.symm, rfl⟩

end Client

open Trust in
/-- **A rejection leaves trust as it was.** An operation that fails on what is trusted changes no
part of it. A retrieval that runs an operation on the bodies of any mirrors leaves what was trusted
alone if it fails, and has otherwise applied the operation once, to the bytes that it gives. A
refresh that fails leaves what is committed as it was, unless it verified and committed the whole
chain and reports that it could not save it. -/
theorem rejection_leaves_trust (p : Primitives) :
    (∀ (offer : Offer) (t t' : Trust) (e : TrustError),
      InPlace.attempt p offer t = (.error e, t') → t' = t) ∧
    (∀ (ν : Type) (list : MirrorList) (fetcher : Fetcher ν) (offer : Bytes → Offer)
      (resource : Resource) (maxLength : UInt64) (net net' : ν) (t t' : Trust)
      (r : Except TrustError Bytes),
      list.fetchVerified fetcher (fun bs => InPlace.attempt p (offer bs)) resource maxLength net t =
        (r, net', t') →
      (∃ e, r = .error e ∧ t' = t) ∨
        ∃ bs, r = .ok bs ∧ InPlace.attempt p (offer bs) t = (.ok (), t')) ∧
    (∀ (ν κ : Type) (c : Client ν κ) (now : Instant) (s : Session ν κ) (e : TrustError),
      (c.refresh now s).1 = .error e →
      (c.refresh now s).2.committed = s.committed ∨ c.CommitsUnsaved now s e) := by
  refine ⟨fun offer t t' e => InPlace.attempt_error, ?_, fun ν κ c now s e => c.refresh_error⟩
  intro ν list fetcher offer resource maxLength net net' t t' r h
  rw [InPlace.attempt_eq_ofAcceptance] at h
  rcases MirrorList.fetchVerified_ofAcceptance h with ⟨bs, hr, haccept⟩ | ⟨e, hr, ht⟩
  · exact .inr ⟨bs, hr, InPlace.attempt_eq_ok_iff.2 haccept⟩
  · exact .inl ⟨e, hr, ht⟩

namespace Rejected

open Sample

/-- The root of the small repository is trusted. -/
def rooted : Trust := (Trust.initial now).step .transparent (.firstRoot root)

/-- Two mirrors, asked for the timestamp. -/
def mirrors : MirrorList := ⟨[.ofUrl "https://a.example", .ofUrl "https://b.example"], 0⟩

/-- The first mirror replies with a snapshot, the second one with a timestamp. -/
def replies : List Reply := [.body (snapshot 1 1), .body (timestamp 1 1)]

/-- A client whose local store cannot be written. -/
def client : Client (List Reply) (Dict Bytes) :=
  { Client.scripted root with
    store := { LocalStore.plain with save := fun _ _ m => (.error (.io "read-only"), m) } }

/-- Nothing is committed, and the small repository is at hand. -/
def session : Session (List Reply) (Dict Bytes) :=
  ⟨none, world [missing, .body (timestamp 1 1), .body (snapshot 1 1), .body (targets 1)]⟩

end Rejected

open Rejected Sample Trust in
/-- A snapshot is refused while there is no timestamp, and leaves no trace when the timestamp comes
from the next mirror. A refresh that cannot save fails, but what it verified is committed. -/
theorem rejection_leaves_trust_sample :
    (InPlace.attempt .transparent (.snapshot (snapshot 1 1) .remote) rooted).2 = rooted ∧
    (∃ net t, mirrors.fetchVerified (client.fetcher)
        (fun bs => InPlace.attempt .transparent (.timestamp bs .remote))
        (.metadata "timestamp.json") 1000 replies rooted = (.ok (timestamp 1 1), net, t) ∧
      InPlace.attempt .transparent (.timestamp (timestamp 1 1) .remote) rooted = (.ok (), t)) ∧
    ∃ e, client.CommitsUnsaved now session e := by
  obtain ⟨hattempt, hfetch, hrefresh⟩ := rejection_leaves_trust .transparent
  refine ⟨?_, ?_, ?_⟩
  · have hrefused :
        (InPlace.attempt .transparent (.snapshot (snapshot 1 1) .remote) rooted).1.isOk =
          false := by
      decide +kernel
    cases h : InPlace.attempt .transparent (.snapshot (snapshot 1 1) .remote) rooted with
    | mk r t =>
      rw [h] at hrefused
      cases r with
      | ok _ => cases hrefused
      | error e => exact hattempt _ _ _ _ h
  · have hfound : (mirrors.fetchVerified client.fetcher
        (fun bs => InPlace.attempt .transparent (.timestamp bs .remote))
        (.metadata "timestamp.json") 1000 replies rooted).1.toOption = some (timestamp 1 1) := by
      decide +kernel
    cases h : mirrors.fetchVerified client.fetcher
        (fun bs => InPlace.attempt .transparent (.timestamp bs .remote))
        (.metadata "timestamp.json") 1000 replies rooted with
    | mk r rest =>
      obtain ⟨net, t⟩ := rest
      rw [h] at hfound
      rcases hfetch _ _ _ (fun bs => .timestamp bs .remote) _ _ _ _ _ _ _ h with
        ⟨e, rfl, -⟩ | ⟨bs, rfl, ht⟩
      · cases hfound
      · cases hfound
        exact ⟨net, t, rfl, ht⟩
  · have hfailed : (client.refresh now session).1.isOk = false ∧
        (client.refresh now session).2.committed.isSome = true := by decide +kernel
    cases hrun : (client.refresh now session).1 with
    | ok _ =>
      rw [hrun] at hfailed
      cases hfailed.1
    | error e =>
      refine ⟨e, (hrefresh _ _ client now session e hrun).resolve_left fun h => ?_⟩
      rw [h] at hfailed
      cases hfailed.2

open Rejected Sample in
/-- A refresh that cannot save fails, and yet what is committed afterwards is not what was. -/
theorem refresh_commits_unsaved :
    (client.refresh now session).1.isOk = false ∧ session.committed.isSome = false ∧
      (client.refresh now session).2.committed.isSome = true := by
  decide +kernel

end SecureUpdate
