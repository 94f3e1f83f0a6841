import SecureUpdate.Proofs.Client.Agreement
import SecureUpdate.Proofs.Client.Passage
import SecureUpdate.Proofs.Trust.Representation

/-!
Where what a client trusts comes from. Each object that is held was read from the very bytes that it
is held with, the root satisfies its own root role, and the ring of keys is the root's. What a
client commits is also a complete chain with a timestamp that the root of the chain authorizes. Of
snapshot and targets the same is not known: they may have been accepted under an earlier root.

Main statements: `sourced_of_attempt`, `restorable_refreshAll`.
-/

namespace SecureUpdate

namespace Trust

variable {p : Primitives} {t t' : Trust} {offer : Offer} {role : Role} {bs : Bytes}

/-- What is trusted where only metadata of top-level roles was accepted. -/
structure Sourced (p : Primitives) (t : Trust) : Prop where
  root : ReadFrom p t.root
  root_signed : ∀ v, t.root = some v →
    v.metadata.verifies p v.payload.roles.root (.ofKeys p v.payload.keys) = true
  rootKeys : ∀ v, t.root = some v → t.rootKeys = .ofKeys p v.payload.keys
  timestamp : ReadFrom p t.timestamp
  snapshot : ReadFrom p t.snapshot
  targets : ReadFrom p t.targets
  delegated : t.delegated = .empty

theorem sourced_initial {now : Instant} : Sourced p (initial now) where
  root := readFrom_none
  root_signed := by rintro _ ⟨⟩
  rootKeys := by rintro _ ⟨⟩
  timestamp := readFrom_none
  snapshot := readFrom_none
  targets := readFrom_none
  delegated := rfl

theorem Sourced.at_time (h : Sourced p t) (now : Instant) : Sourced p { t with now } :=
  ⟨h.root, h.root_signed, h.rootKeys, h.timestamp, h.snapshot, h.targets, h.delegated⟩

/-- Each acceptance of metadata of a top-level role keeps it. -/
theorem sourced_of_attempt (h : Sourced p t) (hsubject : offer.subject = some (role, bs))
    (haccept : t.attempt p offer = .ok t') : Sourced p t' := by
  cases offer with
  | firstRoot bs =>
    obtain ⟨m, hm, rfl⟩ := loadRoot_eq_ok_iff.1 haccept
    exact { h with
      root := readFrom_some hm.read
      root_signed := by rintro _ ⟨⟩; exact hm.signed
      rootKeys := by rintro _ ⟨⟩; rfl }
  | root bs =>
    obtain ⟨held, m, hm, rfl⟩ := updateRoot_eq_ok_iff.1 haccept
    exact {
      root := readFrom_some hm.read
      root_signed := by rintro _ ⟨⟩; exact hm.signed
      rootKeys := by rintro _ ⟨⟩; rfl
      timestamp := timestamp_forgetRotated (t := t) ▸ h.timestamp.of_ite
      snapshot := snapshot_forgetRotated (t := t) ▸ h.snapshot.of_ite
      targets := targets_forgetRotated (t := t) ▸ h.targets.of_ite
      delegated := delegated_forgetRotated.trans <| by
        rw [h.delegated]
        exact ite_self _ }
  | timestamp bs origin =>
    obtain ⟨root, m, hm, rfl⟩ := updateTimestamp_eq_ok_iff.1 haccept
    exact { h with timestamp := readFrom_some hm.read }
  | snapshot bs origin =>
    obtain ⟨root, timestamp, m, hm, rfl⟩ := updateSnapshot_eq_ok_iff.1 haccept
    exact { h with snapshot := readFrom_some hm.read, delegated := rfl }
  | targets bs origin =>
    obtain ⟨root, snapshot, m, hm, rfl⟩ := updateTargets_eq_ok_iff.1 haccept
    exact { h with targets := readFrom_some hm.read, delegated := rfl }
  | delegated => cases hsubject
  | clock => cases hsubject

/-- What a client commits: a complete chain, whose timestamp the root of the chain authorizes. -/
structure Restorable (p : Primitives) (t : Trust) : Prop where
  sourced : Sourced p t
  consistent : t.checkConsistent p = .ok ()
  timestamp_signed : ∀ root, t.root = some root → ∀ v, t.timestamp = some v →
    v.metadata.verifies p root.payload.roles.timestamp t.rootKeys = true

end Trust

namespace Client

variable {ν κ : Type} {c : Client ν κ} {view : κ → String → Option Bytes}

theorem sourced_moves {P : Trust.Offer → Prop} {s s' : Spot ν κ}
    (hmoves : Moves c.primitives view P s s') (h : s.1.Sourced c.primitives) :
    s'.1.Sourced c.primitives := by
  refine hmoves.induction (I := fun s => s.1.Sourced c.primitives) (fun s s' h hmove => ?_) h
  rcases hmove.idle_or_accepts with ⟨htrust, -⟩ | ⟨offer, role, bs, -, haccepts⟩
  · rwa [htrust]
  · exact Trust.sourced_of_attempt h haccepts.subject haccepts.accepted

section Committed

variable (hstore : c.store.Reliable view)
include hstore

/-- A refresh that starts from what was read leaves what was read. -/
theorem restorable_refresh {now : Instant} {s : Session ν κ} {t : Trust}
    (h : ∀ t, s.committed = some t → t.Restorable c.primitives)
    (ht : (c.refresh now s).2.committed = some t) : t.Restorable c.primitives := by
  obtain ⟨rooted, stamped, ended, hcourse, -, -, hend⟩ := refresh_course hstore now s
  rcases hend with ⟨e, -, hcommitted⟩ | ⟨hok, hcommitted, k, hk⟩
  · exact h t (hcommitted.symm.trans ht)
  · cases hcommitted.symm.trans ht
    have hstart : (start now s.committed).trust.Sourced c.primitives := by
      cases hs : s.committed with
      | none => exact Trust.sourced_initial
      | some t₀ => exact (h t₀ hs).sourced.at_time now
    have hsourced : ended.1.Sourced c.primitives := sourced_moves hcourse.moves hstart
    refine ⟨hsourced, hk.consistent, fun root hroot v hv => ?_⟩
    -- the timestamp that is held in the end was accepted under the root that is held in the end
    obtain ⟨_, _, floored, _, _, ended', hpassage, hcommitted', -⟩ := passage_of_refresh_ok hok
    have htrust : ended.1 = ended'.1.trust := Option.some.inj (hcommitted.symm.trans hcommitted')
    rw [htrust] at hroot hv ⊢
    obtain ⟨-, -, hsame⟩ := hpassage.sameRoot
    obtain ⟨bs, root', m, w, -, hm, htimestamp, -⟩ := hpassage.timestamp_ok
    cases hv.symm.trans htimestamp
    cases hm.root_held.symm.trans (hsame.root.symm.trans hroot)
    rw [hsame.rootKeys]
    exact hm.signed

/-- So is whatever refreshes commit from a start with nothing committed. -/
theorem restorable_refreshAll (w : World ν κ) (nows : List Instant) {t : Trust}
    (ht : (c.refreshAll ⟨none, w⟩ nows).committed = some t) : t.Restorable c.primitives := by
  induction nows using List.reverseRecOn generalizing t with
  | nil => cases ht
  | append_singleton nows now ih =>
    rw [refreshAll_append_singleton] at ht
    exact restorable_refresh hstore (fun _ => ih) ht

end Committed

end Client

end SecureUpdate
