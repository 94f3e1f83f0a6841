import SecureUpdate.Proofs.Client.Causes
import SecureUpdate.Proofs.Client.Coherence
import SecureUpdate.Proofs.Client.Currency
import SecureUpdate.Proofs.Delegation.Bounds
import SecureUpdate.Proofs.Trust.Representation

/-!
A look-up does not trip over its own bookkeeping. The search works on copies of the metadata that it
is given, and what is pending names a delegator; to accept metadata, the delegator and its
delegation are looked up again by name in what is trusted, which the search itself changes. They are
still there, and they are the same ones: no name is delegated to twice by one role, the search asks
for no role twice, and metadata that is accepted for one role replaces that of no other.

Main statement: `targetInfo_unstuck`.
-/

namespace SecureUpdate

open Chain

/-- Whether a failure says that a role was offered before those it rests on, or that the role it was
offered under does not delegate it. -/
def TrustError.OfBookkeeping : TrustError → Prop
  | invalidTransition _ _ => True
  | malformedMetadata _ (.notDelegatedBy _) => True
  | _ => False

theorem TrustError.OfBookkeeping.ofTrust {e : TrustError} (h : e.OfBookkeeping) :
    e.ofTrust = true := by
  cases e with
  | fetch | noWorkingMirror | store | io => cases h
  | _ => rfl

namespace Trust

variable {p : Primitives} {t t' : Trust} {path role delegator : String} {bs : Bytes}
  {origin : Origin} {next : Search.Pending}

theorem Represented.of_leads (h : t.Represented p) (hleads : Leads p t t') : t'.Represented p :=
  hleads.induction (fun _ _ _ => represented_of_attempt) h

/-! ### What is pending -/

/-- Whether what is trusted still backs a delegation that is pending: its delegator is held, what is
found there by the name of the role is this very delegation, and it covers the path. -/
structure Backs (p : Primitives) (path : String) (t : Trust) (next : Search.Pending) : Prop where
  found : ∃ parent delegations, t.delegator? next.delegator = some parent ∧
    parent.payload.delegations = some delegations ∧ next.delegation ∈ delegations.roles ∧
      t.delegationOf next.delegation.name next.delegator = .ok (next.delegation, delegations.keys)
  covers : next.delegation.paths.covers p path = true

/-- What was read delegates to each name once, so its delegations are found by their names. -/
theorem backs_of_delegates {parent : Verified Targets} (hread : ReadFrom p (some parent))
    (hheld : t.delegator? next.delegator = some parent)
    (hdelegates : Search.Delegates p path parent.payload next.delegation) :
    t.Backs p path next := by
  obtain ⟨hcovers, before, after, hsplit, -⟩ := hdelegates
  have hmem : next.delegation ∈ parent.payload.delegated := by
    rw [hsplit]
    exact List.mem_append_right _ List.mem_cons_self
  have hnodup : (parent.payload.delegated.map (·.name)).Nodup :=
    Targets.nodup_delegated (hread parent rfl)
  have hnamed := Targets.delegation?_of_mem hnodup hmem
  cases hdelegations : parent.payload.delegations with
  | none =>
    rw [Targets.delegated, hdelegations] at hmem
    cases hmem
  | some delegations =>
    rw [Targets.delegated, hdelegations] at hmem
    exact ⟨⟨parent, delegations, hheld, hdelegations, hmem,
      delegationOf_eq_ok_iff.2 ⟨parent, delegations, hheld, hnamed, hdelegations, rfl⟩⟩, hcovers⟩

/-- Metadata that is accepted for a role leaves other delegators alone. -/
theorem delegator?_of_updateDelegated {other : String} (hother : role ≠ other)
    (haccept : t.updateDelegated p bs role delegator origin = .ok t') :
    t'.delegator? other = t.delegator? other := by
  obtain ⟨snapshot, m, -, rfl⟩ := updateDelegated_eq_ok_iff.1 haccept
  unfold delegator?
  rw [SortedMap.get?_insert, if_neg hother]

theorem Backs.of_delegator?_eq (h : t.Backs p path next)
    (heq : t'.delegator? next.delegator = t.delegator? next.delegator) : t'.Backs p path next := by
  obtain ⟨parent, delegations, hheld, hdelegations, hmem, hfound⟩ := h.found
  refine ⟨⟨parent, delegations, heq.trans hheld, hdelegations, hmem, ?_⟩, h.covers⟩
  rw [delegationOf_eq_ok_iff, heq]
  exact delegationOf_eq_ok_iff.1 hfound

/-- To read metadata never fails for what the bookkeeping says. -/
theorem parseAs_unstuck {α : Type} [RolePayload α] :
    FailsWith (fun e => ¬ e.OfBookkeeping) (Signed.parseAs p α bs) := by
  refine Signed.parseAs_error.mono ?_
  rintro _ ⟨role, reason, rfl, hform⟩
  cases reason with
  | notDelegatedBy => cases hform
  | _ => exact id

/-- Where a snapshot is held, metadata that is offered by what is backed is not refused for what the
bookkeeping says. -/
theorem Backs.updateDelegated_unstuck (h : t.Backs p path next) (hsnapshot : t.snapshot.isSome) :
    FailsWith (fun e => ¬ e.OfBookkeeping)
      (t.updateDelegated p bs next.delegation.name next.delegator origin) := by
  obtain ⟨parent, delegations, -, -, -, hfound⟩ := h.found
  refine updateDelegated_refusal ⟨fun _ _ _ => id, fun _ _ _ => id, fun _ _ _ => id, fun _ _ => id,
    fun _ _ _ => id⟩ (fun hnone => ?_) parseAs_unstuck ?_
  · rw [hnone] at hsnapshot
    cases hsnapshot
  · rw [hfound]
    exact .ok

end Trust

namespace Client

open Trust

variable {ν κ : Type} {c : Client ν κ} {s s' : LookupState ν κ} {path role delegator : String}
  {next : Search.Pending} {v : Verified Targets}

/-! ### One ask -/

/-- Metadata that was accepted for a role is held for it. -/
theorem heldDelegated_of_current {p : Primitives} {t : Trust}
    (h : ∃ v, t.HoldsCurrent p role v) {e : TrustError} : heldDelegated t role ≠ .error e := by
  obtain ⟨v, hv⟩ := h
  rw [heldDelegated_eq_ok_iff.2 hv.held]
  nofun

/-- An ask that fails has failed to retrieve metadata. -/
theorem delegatedTargets_error {delegation : Delegation} {e : TrustError}
    (h : (c.delegatedTargets delegation delegator s).1 = .error e) :
    ∃ w w', c.fetchDelegated delegation.name delegator s.1 w = (.error e, w') := by
  unfold delegatedTargets at h
  simp only at h
  split at h
  · rename_i hcurrent
    exact absurd h (heldDelegated_of_current (exists_holdsCurrent hcurrent))
  · split at h
    · rename_i hload
      exact absurd h (heldDelegated_of_current (exists_holdsCurrent (loadDelegated_current hload)))
    · rename_i s₁ hload
      obtain ⟨-, ⟨hloaded, -⟩ | ⟨-, hsame⟩⟩ := loadDelegated_cases hload
      · cases hloaded
      rw [hsame] at h
      split at h
      · rename_i t w hfetch
        rcases fetchDelegated_cases hfetch with
          ⟨_, _, herror, -⟩ | ⟨t', bs, version, net, hok, haccept, -⟩
        · cases herror
        · cases hok
          exact absurd h (heldDelegated_of_current (exists_holdsCurrent_of_remote haccept))
      · rename_i e' w hfetch
        cases h
        exact ⟨_, _, hfetch⟩

/-- To save does not fail. -/
theorem save_meets {P : TrustError → Prop} {bs : Bytes} :
    Task.Meets P (fun _ => True) (c.save role bs) := by
  intro w
  obtain ⟨failure, hsave⟩ := c.save_world role bs w
  rw [hsave]
  exact ⟨.ok, fun _ _ => trivial⟩

/-- The retrieval of metadata that is backed does not fail for what the bookkeeping says. -/
theorem fetchDelegated_meets (hbacks : s.1.Backs c.primitives path next)
    (hsnapshot : s.1.snapshot.isSome) :
    Task.Meets (TrustError.OnlyBlames fun e => ¬ e.OfBookkeeping) (fun _ => True)
      (c.fetchDelegated next.delegation.name next.delegator s.1) := by
  unfold fetchDelegated
  cases s.1.snapshot.bind fun snapshot => snapshot.payload.pin? next.delegation.name with
  | none => exact .fail (.of_ofTrust rfl id)
  | some pin =>
    refine Task.Meets.bind (fetchPinned_meets (fun bs => attempt_error (.delegated bs _ _ .remote))
      (fun bs _ => hbacks.updateDelegated_unstuck hsnapshot) fun _ _ => id) fun found _ => ?_
    exact Task.Meets.report.bind fun _ _ => save_meets.bind fun _ _ => .pure trivial

theorem delegatedTargets_unstuck (hbacks : s.1.Backs c.primitives path next)
    (hsnapshot : s.1.snapshot.isSome) :
    FailsWith (TrustError.OnlyBlames fun e => ¬ e.OfBookkeeping)
      (c.delegatedTargets next.delegation next.delegator s).1 := by
  intro e h
  obtain ⟨w, w', hfetch⟩ := delegatedTargets_error h
  exact (fetchDelegated_meets hbacks hsnapshot w).1 e (by rw [hfetch])

/-! ### A whole search -/

/-- What holds all along a search: what is trusted fits together, and it backs all that is pending,
whose delegators have been visited. -/
structure Tracked (p : Primitives) (path : String) (m : Search.Moment (LookupState ν κ)) :
    Prop where
  represented : m.state.1.Represented p
  snapshot_held : m.state.1.snapshot.isSome
  top_visited : Role.targets.name ∈ m.visited
  backed : ∀ next ∈ m.pending, next.delegator ∈ m.visited ∧ m.state.1.Backs p path next

/-- An ask accepts metadata for the role that it asks for, or nothing. -/
theorem represented_of_asked (delegation : Delegation) (delegator : String)
    (h : s.1.Represented c.primitives) :
    (c.delegatedTargets delegation delegator s).2.1.Represented c.primitives := by
  rcases delegatedTargets_trust delegation delegator s with hsame | ⟨bs, origin, haccept⟩
  · rwa [hsame]
  · have hattempt : s.1.attempt c.primitives (.delegated bs delegation.name delegator origin) =
        .ok (c.delegatedTargets delegation delegator s).2.1 := haccept
    exact represented_of_attempt h hattempt

theorem snapshot_of_asked {delegation : Delegation} :
    (c.delegatedTargets delegation delegator s).2.1.snapshot = s.1.snapshot := by
  rcases delegatedTargets_trust delegation delegator s with hsame | ⟨bs, origin, haccept⟩
  · rw [hsame]
  · obtain ⟨snapshot, m, -, heq⟩ := updateDelegated_eq_ok_iff.1 haccept
    rw [heq]

theorem delegator?_of_asked {delegation : Delegation} (hother : delegation.name ≠ role) :
    (c.delegatedTargets delegation delegator s).2.1.delegator? role = s.1.delegator? role := by
  rcases delegatedTargets_trust delegation delegator s with hsame | ⟨bs, origin, haccept⟩
  · rw [hsame]
  · exact delegator?_of_updateDelegated hother haccept

/-- The metadata that an ask gives backs whatever it delegates. -/
theorem backs_of_asked {delegation : Delegation} (h : s.1.Represented c.primitives)
    (hname : delegation.name ≠ Role.targets.name)
    (hask : c.delegatedTargets delegation delegator s = (.ok v, s'))
    (hdelegator : next.delegator = delegation.name)
    (hdelegates : Search.Delegates c.primitives path v.payload next.delegation) :
    s'.1.Backs c.primitives path next := by
  have hheld := (delegatedTargets_holdsCurrent hask).held
  have hrepresented := represented_of_asked delegation delegator h
  rw [hask] at hrepresented
  refine backs_of_delegates ?_ ?_ hdelegates
  · rw [← hheld]
    exact hrepresented.delegated_read delegation.name
  · rw [delegator?, hdelegator, if_neg hname]
    exact hheld

/-- One round. -/
theorem Tracked.round {m m' : Search.Moment (LookupState ν κ)} (h : Tracked c.primitives path m)
    (hround : Search.round c.primitives c.searchBounds c.delegatedTargets path m = .inr m') :
    Tracked c.primitives path m' := by
  obtain ⟨next, rest, hpending, ⟨-, rfl⟩ | ⟨hnew, -, found, s, hask, rfl⟩⟩ :=
    Search.round_goes_on hround
  · exact { h with
      backed := fun other hother => h.backed other (hpending ▸ List.mem_cons_of_mem _ hother) }
  have hs : s = (c.delegatedTargets next.delegation next.delegator m.state).2 := by rw [hask]
  refine ⟨?_, ?_, List.mem_cons_of_mem _ h.top_visited, fun other hother => ?_⟩
  · rw [hs]
    exact represented_of_asked _ _ h.represented
  · rw [hs, snapshot_of_asked]
    exact h.snapshot_held
  · rcases Search.delegates_of_mem_push hother with ⟨hdelegator, -, hdelegates⟩ | hold
    · have hname : next.delegation.name ≠ Role.targets.name := by
        rintro htop
        exact hnew (htop ▸ h.top_visited)
      exact ⟨hdelegator ▸ List.mem_cons_self,
        backs_of_asked h.represented hname hask hdelegator hdelegates⟩
    · -- what was pending before is backed by a role that has been visited, so not by this one
      obtain ⟨hvisited, hbacks⟩ := h.backed other (hpending ▸ List.mem_cons_of_mem _ hold)
      refine ⟨List.mem_cons_of_mem _ hvisited, hbacks.of_delegator?_eq ?_⟩
      rw [hs]
      refine delegator?_of_asked ?_
      rintro hsame
      exact hnew (hsame ▸ hvisited)

theorem Tracked.reaches {m m' : Search.Moment (LookupState ν κ)} (h : Tracked c.primitives path m)
    (hreaches : Search.Reaches c.primitives c.searchBounds c.delegatedTargets path m m') :
    Tracked c.primitives path m' := by
  induction hreaches with
  | here => exact h
  | on _ hround ih => exact ih.round hround

/-- Where a search starts: at the delegations of the top-level targets. -/
def searchStart (p : Primitives) (path : String) (top : Targets) (s : LookupState ν κ) :
    Search.Moment (LookupState ν κ) :=
  ⟨[Role.targets.name], Search.push p path Role.targets.name top 1 [], s⟩

theorem tracked_searchStart {p : Primitives} {top : Verified Targets} (h : s.1.Represented p)
    (hsnapshot : s.1.snapshot.isSome) (htop : s.1.targets = some top) :
    Tracked p path (searchStart p path top.payload s) := by
  refine ⟨h, hsnapshot, List.mem_singleton_self _, fun next hnext => ?_⟩
  rcases Search.delegates_of_mem_push hnext with ⟨hdelegator, -, hdelegates⟩ | hnone
  · refine ⟨hdelegator ▸ List.mem_singleton_self _, ?_⟩
    refine backs_of_delegates (htop ▸ h.targets_read) ?_ hdelegates
    rw [delegator?, if_pos hdelegator]
    exact htop
  · cases hnone

/-- A search that fails, or whose answer is a failure, does not blame the bookkeeping. -/
theorem Tracked.unstuck {m : Search.Moment (LookupState ν κ)} (h : Tracked c.primitives path m)
    {r : Except TrustError SearchOutcome × LookupState ν κ} {e : TrustError}
    (hends : Search.Ends c.primitives c.searchBounds c.delegatedTargets path m r)
    (he : r.1 = .error e ∨ ∃ role, r.1 = .ok (.fetchFailed role e)) :
    e.OnlyBlames fun e => ¬ e.OfBookkeeping := by
  obtain ⟨m', hreaches, hlast⟩ := hends.last
  obtain ⟨next, hnext, -, hfailed⟩ := Search.round_fails hlast he
  have htracked := h.reaches hreaches
  exact delegatedTargets_unstuck (htracked.backed next hnext).2 htracked.snapshot_held e hfailed

/-- A look-up in what is complete and fits together does not fail for what the bookkeeping says. -/
theorem lookup_unstuck {t : Trust} {w : World ν κ} {top : Verified Targets}
    (h : t.Represented c.primitives) (hsnapshot : t.snapshot.isSome) (htop : t.targets = some top) :
    FailsWith (TrustError.OnlyBlames fun e => ¬ e.OfBookkeeping) (c.lookup path t w).1 := by
  intro e he
  have hresolves := Search.run_resolves c.primitives c.searchBounds c.delegatedTargets path
    top.payload (t, w)
  have hstart : Tracked c.primitives path (searchStart c.primitives path top.payload (t, w)) :=
    tracked_searchStart h hsnapshot htop
  unfold lookup at he
  rw [htop] at he
  simp only at he
  split at he
  · rename_i outcome s hrun
    rw [hrun] at hresolves
    cases outcome with
    | found => cases he
    | exhausted | boundExceeded =>
      cases he
      exact .of_ofTrust rfl id
    | fetchFailed role e' =>
      cases he
      cases hresolves with
      | searched _ hends => exact hstart.unstuck hends (.inr ⟨role, rfl⟩)
  · rename_i e' s hrun
    rw [hrun] at hresolves
    cases he
    cases hresolves with
    | searched _ hends => exact hstart.unstuck hends (.inl rfl)

/-- What is committed fits together. -/
theorem represented_of_callAll (c : Client ν κ) (w : World ν κ) (calls : List (Call ν κ))
    {t : Trust} (h : (c.callAll ⟨none, w⟩ calls).committed = some t) :
    t.Represented c.primitives := by
  obtain ⟨now, hleads⟩ := c.callAll_reached w calls h
  exact represented_initial.of_leads hleads

/-- Whatever is committed after any refreshes and look-ups, and whatever the mirrors and the store
hold then and delegate to whom: a look-up in it does not fail because a role came before those it
rests on, or because a delegator does not delegate a role, not even at one mirror of several. And
all along its search, each pending delegation is backed by what is trusted then: its delegator is
held, and the delegation that is found there by name, whose keys count, is the very one whose
patterns cover the path. -/
theorem targetInfo_unstuck (c : Client ν κ) (w : World ν κ) (calls : List (Call ν κ)) {t : Trust}
    (h : (c.callAll ⟨none, w⟩ calls).committed = some t) (now : Instant) (path : String) :
    let s := c.callAll ⟨none, w⟩ calls
    (∀ e, (c.targetInfo now path s).1 = .error e →
      ∀ cause, e.Mentions cause → ¬ cause.OfBookkeeping) ∧
    ∃ top, t.targets = some top ∧
      ∀ m, Search.Reaches c.primitives c.searchBounds c.delegatedTargets path
          (searchStart c.primitives path top.payload (t, s.world)) m →
        ∀ next ∈ m.pending, m.state.1.Backs c.primitives path next := by
  intro s
  have hsound : t.Sound c.primitives := by
    have hstart : c.SoundlyCommitted ⟨none, w⟩ := by
      rintro t ⟨⟩
    exact hstart.callAll calls t h
  obtain ⟨root, timestamp, snapshot, top, hchain⟩ := hsound.chain
  have hsnapshot : t.snapshot.isSome := Option.isSome_of_eq_some hchain.snapshot_held
  have hrepresented : t.Represented c.primitives := c.represented_of_callAll w calls h
  refine ⟨fun e he cause hcause hblamed => ?_, top, hchain.targets_held, fun m hm next hnext => ?_⟩
  · have hlookup : (c.targetInfo now path s).1 = (c.lookup path t s.world).1 := by
      rw [targetInfo, if_pos (Option.isSome_of_eq_some h), lookupCommitted, h]
    rw [hlookup] at he
    exact lookup_unstuck hrepresented hsnapshot hchain.targets_held e he cause hcause
      hblamed.ofTrust hblamed
  · have hstart : Tracked c.primitives path
        (searchStart c.primitives path top.payload (t, s.world)) :=
      tracked_searchStart hrepresented hsnapshot hchain.targets_held
    exact ((hstart.reaches hm).backed next hnext).2

open Namesake in
/-- The targets of the small repository with a delegated role called timestamp back the delegation
to it, with which the search for a path starts. -/
theorem targetInfo_unstuck_namesake : ∃ t top,
    ((scripted Sample.root).callAll ⟨none, Sample.world replies⟩
      [.refresh Sample.now]).committed = some t ∧ t.targets = some top ∧
      (searchStart .transparent "p" top.payload (t, session.world)).pending =
        [⟨toTimestamp, Role.targets.name, 1⟩] ∧
        t.Backs .transparent "p" ⟨toTimestamp, Role.targets.name, 1⟩ := by
  obtain ⟨t, top, ht, htop, -, -, -, hcandidates, -⟩ := session_committed
  have hsession : (scripted Sample.root).callAll ⟨none, Sample.world replies⟩
      [.refresh Sample.now] = session := by
    rw [callAll, List.foldl_cons, List.foldl_nil, call, ← session]
  have hcommitted : ((scripted Sample.root).callAll ⟨none, Sample.world replies⟩
      [.refresh Sample.now]).committed = some t := by
    rw [hsession]
    exact ht
  have hpending : ∀ w : World (List Reply) (Dict Bytes),
      (searchStart (scripted Sample.root).primitives "p" top.payload (t, w)).pending =
        [⟨toTimestamp, Role.targets.name, 1⟩] := by
    intro w
    have hprimitives : (scripted Sample.root).primitives = .transparent := rfl
    rw [searchStart, Search.push, hprimitives, hcandidates]
    rfl
  obtain ⟨-, top', htop', hbacked⟩ := targetInfo_unstuck (scripted Sample.root)
    (Sample.world replies) [.refresh Sample.now] hcommitted Sample.now "p"
  cases htop.symm.trans htop'
  refine ⟨t, top, hcommitted, htop, hpending session.world, hbacked _ .here _ ?_⟩
  rw [hpending]
  exact List.mem_singleton_self _

end Client

end SecureUpdate
