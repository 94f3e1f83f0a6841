import SecureUpdate.Proofs.Client.Namesakes
import SecureUpdate.Proofs.Client.Offers
import SecureUpdate.Proofs.Trust.Pinned

/-!
What is committed belongs together. A refresh commits only a chain that is complete, unexpired and
pinned link by link, and look-ups add to it nothing but metadata of delegated roles that the held
snapshot pins.

Main statements: `calls_coherent`, `callAll_reached`.
-/

namespace SecureUpdate

namespace Trust

variable {p : Primitives} {t t' : Trust} {offer : Offer}

/-! ### Coherent trust -/

/-- What is held for the top-level roles is complete, unexpired at the time against which expiry is
judged, and pinned link by link; and the snapshot pins all that is held of delegated roles. -/
structure Coherent (p : Primitives) (t : Trust) (root : Verified Root)
    (timestamp : Verified Timestamp) (snapshot : Verified Snapshot) (targets : Verified Targets) :
    Prop where
  root_held : t.root = some root
  timestamp_held : t.timestamp = some timestamp
  snapshot_held : t.snapshot = some snapshot
  targets_held : t.targets = some targets
  root_unexpired : root.metadata.isExpired t.now = false
  timestamp_unexpired : timestamp.metadata.isExpired t.now = false
  snapshot_unexpired : snapshot.metadata.isExpired t.now = false
  targets_unexpired : targets.metadata.isExpired t.now = false
  snapshot_pinned : ∃ pin, timestamp.payload.snapshotPin? = some pin ∧
    pin.Matches p snapshot.version snapshot.bytes
  targets_pinned : ∃ pin, snapshot.payload.pin? Role.targets.name = some pin ∧
    pin.Matches p targets.version targets.bytes
  delegated_pinned : ∀ role v, t.delegated.get? role = some v →
    ∃ pin, snapshot.payload.pin? role = some pin ∧ pin.Matches p v.version v.bytes

/-- Whether what is held passes the checks of a whole chain, and the snapshot pins the rest. -/
structure Sound (p : Primitives) (t : Trust) : Prop where
  chain : ∃ root timestamp snapshot targets, Consistent p t root timestamp snapshot targets
  delegated : t.DelegatedPinned p

theorem Sound.coherent (h : t.Sound p) :
    ∃ root timestamp snapshot targets, Coherent p t root timestamp snapshot targets := by
  obtain ⟨root, timestamp, snapshot, targets, hchain⟩ := h.chain
  obtain ⟨pin, hpin, hsnapshot⟩ := hchain.snapshot_current
  obtain ⟨pin', hpin', htargets⟩ := hchain.targets_current
  refine ⟨root, timestamp, snapshot, targets, {
    root_held := hchain.root_held
    timestamp_held := hchain.timestamp_held
    snapshot_held := hchain.snapshot_held
    targets_held := hchain.targets_held
    root_unexpired := hchain.root_unexpired
    timestamp_unexpired := hchain.timestamp_unexpired
    snapshot_unexpired := hsnapshot.unexpired
    targets_unexpired := htargets.unexpired
    snapshot_pinned := ⟨pin, hpin, .of_describes hsnapshot.described⟩
    targets_pinned := ⟨pin', hpin', .of_describes htargets.described⟩
    delegated_pinned := fun role v hv => ?_ }⟩
  obtain ⟨pin, hpin, hdescribes⟩ := h.delegated snapshot hchain.snapshot_held role v hv
  exact ⟨pin, hpin, .of_describes hdescribes⟩

/-- Metadata of delegated roles that is accepted leaves the chain alone. -/
theorem Sound.delegate (h : t.Sound p) (hoffer : Client.Delegating offer)
    (hattempt : t.attempt p offer = .ok t') : t'.Sound p := by
  refine ⟨?_, delegatedPinned_of_attempt h.delegated hattempt⟩
  cases offer with
  | delegated bs role delegator origin =>
    obtain ⟨snapshot', m, -, rfl⟩ := updateDelegated_eq_ok_iff.1 hattempt
    obtain ⟨root, timestamp, snapshot, targets, hchain⟩ := h.chain
    obtain ⟨pin, hpin, hsnapshot⟩ := hchain.snapshot_current
    obtain ⟨pin', hpin', htargets⟩ := hchain.targets_current
    exact ⟨root, timestamp, snapshot, targets, hchain.root_held, hchain.timestamp_held,
      hchain.snapshot_held, hchain.targets_held, hchain.root_unexpired, hchain.timestamp_unexpired,
      ⟨pin, hpin, hsnapshot.described, hsnapshot.unexpired⟩,
      ⟨pin', hpin', htargets.described, htargets.unexpired⟩⟩
  | _ => cases hoffer

end Trust

namespace Client

open Trust

variable {ν κ : Type} {c : Client ν κ} {s : Session ν κ}

/-! ### What is committed -/

/-- Whether what is committed, if anything is, is sound. -/
def SoundlyCommitted (c : Client ν κ) (s : Session ν κ) : Prop :=
  ∀ t, s.committed = some t → t.Sound c.primitives

theorem delegatedPinned_start (h : c.SoundlyCommitted s) (now : Instant) :
    (start now s.committed).trust.DelegatedPinned c.primitives := by
  cases hcommitted : s.committed with
  | none => exact .of_empty rfl
  | some t => exact (h t hcommitted).delegated

theorem SoundlyCommitted.refresh (h : c.SoundlyCommitted s) (now : Instant) :
    c.SoundlyCommitted (c.refresh now s).2 := by
  intro t ht
  rcases c.refresh_leads now s with hsame | ⟨t', ht', hleads, hcheck⟩
  · exact h t (hsame.symm.trans ht)
  · cases ht'.symm.trans ht
    -- the check at the end says nothing of delegated roles: those stay pinned on the whole way
    refine ⟨checkConsistent_eq_ok_iff.1 hcheck, ?_⟩
    exact hleads.induction (fun _ _ _ => delegatedPinned_of_attempt) (delegatedPinned_start h now)

theorem SoundlyCommitted.lookup (h : c.SoundlyCommitted s) (path : String) :
    c.SoundlyCommitted (c.lookupCommitted path s).2 := by
  intro t ht
  unfold lookupCommitted at ht
  split at ht
  · exact h t ht
  · rename_i held hheld
    have hlookup : (c.lookup path held s.world).2.1 = t := Option.some.inj ht
    obtain ⟨offers, hoffers, hrun⟩ := c.lookup_run path held s.world
    rw [← hlookup, hrun]
    exact run_induction (fun t offer hmem t' ht => ht.delegate (hoffers offer hmem))
      (h held hheld)

/-! ### Runs of calls -/

/-- Something that is asked of a client, or that happens to its world. -/
inductive Call (ν κ : Type) where
  | refresh (now : Instant)
  | info (now : Instant) (path : String)
  /-- The mirrors and the local store hold something else from now on. -/
  | turn (w : World ν κ)

/-- What is committed, and the world, once something has happened. -/
def call (c : Client ν κ) (s : Session ν κ) : Call ν κ → Session ν κ
  | .refresh now => (c.refresh now s).2
  | .info now path => (c.targetInfo now path s).2
  | .turn world => { s with world }

/-- What is committed, and the world, once some things have happened. -/
def callAll (c : Client ν κ) (s : Session ν κ) (calls : List (Call ν κ)) : Session ν κ :=
  calls.foldl c.call s

/-- What refreshes and look-ups keep, whatever becomes of the world in between, holds after any
calls. -/
theorem callAll_induction {J : Session ν κ → Prop} (hrefresh : ∀ now s, J s → J (c.refresh now s).2)
    (hlookup : ∀ path s, J s → J (c.lookupCommitted path s).2)
    (hturn : ∀ w s, J s → J { s with world := w }) (calls : List (Call ν κ)) (h : J s) :
    J (c.callAll s calls) := by
  have hinfo : ∀ now path s, J s → J (c.targetInfo now path s).2 := by
    intro now path s h
    unfold Client.targetInfo
    split
    · exact hlookup path s h
    · have hrefreshed := hrefresh now s h
      split
      · rename_i hdone
        rwa [hdone] at hrefreshed
      · rename_i hdone
        rw [hdone] at hrefreshed
        exact hlookup path _ hrefreshed
  induction calls generalizing s with
  | nil => exact h
  | cons e calls ih =>
    refine ih ?_
    cases e with
    | refresh now => exact hrefresh now s h
    | info now path => exact hinfo now path s h
    | turn w => exact hturn w s h

theorem SoundlyCommitted.callAll (h : c.SoundlyCommitted s) (calls : List (Call ν κ)) :
    c.SoundlyCommitted (c.callAll s calls) :=
  callAll_induction (fun now _ h => h.refresh now) (fun path _ h => h.lookup path)
    (fun _ _ h => h) calls h

/-- Offers lead from nothing trusted to whatever is committed. -/
theorem callAll_reached (c : Client ν κ) (w : World ν κ) (calls : List (Call ν κ)) {t : Trust}
    (h : (c.callAll ⟨none, w⟩ calls).committed = some t) :
    ∃ now, Leads c.primitives (initial now) t := by
  refine callAll_induction (c := c)
    (J := fun s => ∀ t, s.committed = some t → ∃ now, Leads c.primitives (initial now) t)
    ?_ ?_ (fun _ _ h => h) calls (by rintro t ⟨⟩) t h
  · intro now s hs t ht
    rcases c.refresh_leads now s with hsame | ⟨t', ht', hleads, -⟩
    · exact hs t (hsame.symm.trans ht)
    cases ht'.symm.trans ht
    cases hcommitted : s.committed with
    | none =>
      rw [hcommitted] at hleads
      exact ⟨now, hleads⟩
    | some t₀ =>
      rw [hcommitted] at hleads
      obtain ⟨now₀, hreached⟩ := hs t₀ hcommitted
      exact ⟨now₀, (hreached.trans (leads_of_attempt (.clock now) rfl)).trans hleads⟩
  · intro path s hs t ht
    unfold lookupCommitted at ht
    split at ht
    · exact hs t ht
    · rename_i held hheld
      have hlookup : (c.lookup path held s.world).2.1 = t := Option.some.inj ht
      obtain ⟨offers, -, hrun⟩ := c.lookup_run path held s.world
      obtain ⟨now, hreached⟩ := hs held hheld
      exact ⟨now, hreached.trans ⟨offers, hrun.symm.trans hlookup⟩⟩

/-- Whatever is committed after any refreshes and look-ups, each of which may fail at any step and
report what it likes, with mirrors and a store that give anything and may fail: it is complete and
unexpired, and every link of it is exactly what pins describe. -/
theorem calls_coherent (c : Client ν κ) (w : World ν κ) (calls : List (Call ν κ)) {t : Trust}
    (h : (c.callAll ⟨none, w⟩ calls).committed = some t) :
    ∃ root timestamp snapshot targets,
      Coherent c.primitives t root timestamp snapshot targets := by
  have hstart : c.SoundlyCommitted ⟨none, w⟩ := by
    rintro t ⟨⟩
  exact (hstart.callAll calls t h).coherent

open Namesake in
/-- After a refresh and a look-up that fetches metadata of a delegated role. -/
theorem calls_coherent_delegated : ∃ t,
    ((scripted Sample.root).callAll ⟨none, Sample.world replies⟩
      [.refresh Sample.now, .info Sample.now "p"]).committed = some t ∧
      (t.delegated.get? "timestamp").isSome = true ∧
        ∃ root timestamp snapshot targets,
          Coherent .transparent t root timestamp snapshot targets := by
  obtain ⟨-, -, -, -, t, w, hinfo, -, hheld⟩ := session_lookup
  have hcommitted : ((scripted Sample.root).callAll ⟨none, Sample.world replies⟩
      [.refresh Sample.now, .info Sample.now "p"]).committed = some t := by
    rw [callAll, List.foldl_cons, List.foldl_cons, List.foldl_nil, call, call, ← session, hinfo]
  exact ⟨t, hcommitted, hheld, calls_coherent (scripted Sample.root) _ _ hcommitted⟩

end Client

end SecureUpdate
