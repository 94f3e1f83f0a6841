import SecureUpdate.Proofs.Cache.Reliable
import SecureUpdate.Proofs.Client.Delegators

/-!
What look-ups write. A look-up saves the metadata that it fetches under the name of the delegated
role and writes nothing else, so the entry of a top-level role in the store stays as it is unless a
delegated role goes by the name of that role. The search visits no role called like the top-level
targets; nothing keeps it from one called like root, timestamp or snapshot, whose metadata then
replaces theirs.

Main statement: `targetInfo_leaves_topLevel`.
-/

namespace SecureUpdate.Client

variable {ν κ : Type} {c : Client ν κ} {view : κ → String → Option Bytes} {s₀ s : LookupState ν κ}
  {role : Role}

/-- Whether, since `s₀`, metadata of a delegated role that goes by the name of a top-level one has
been fetched; the top-level targets have no such namesake. -/
structure Shadowed (s₀ s : LookupState ν κ) (role : Role) : Prop where
  not_targets : role ≠ .targets
  held : ∃ v, s.1.delegated.get? role.name = some v
  reported : ∃ events version, s.2.events = s₀.2.events ++ events ∧
    Event.accepted role.name version ∈ events

/-- Whether, since `s₀`, the store has kept its entry of a top-level role, or a namesake of the role
has been fetched. -/
structure Untouched (view : κ → String → Option Bytes) (s₀ s : LookupState ν κ) (role : Role) :
    Prop where
  events : ∃ events, s.2.events = s₀.2.events ++ events
  entry : view s.2.cache role.name = view s₀.2.cache role.name ∨ Shadowed s₀ s role

theorem Untouched.refl (view : κ → String → Option Bytes) (s : LookupState ν κ) (role : Role) :
    Untouched view s s role :=
  ⟨⟨[], (List.append_nil _).symm⟩, .inl rfl⟩

/-- A namesake that was fetched stays one while metadata of delegated roles is only added. -/
theorem Shadowed.grows {s' : LookupState ν κ} (h : Shadowed s₀ s role)
    (hheld : ∀ v, s.1.delegated.get? role.name = some v →
      ∃ v', s'.1.delegated.get? role.name = some v')
    (hevents : ∃ events, s'.2.events = s.2.events ++ events) : Shadowed s₀ s' role := by
  obtain ⟨v, hv⟩ := h.held
  obtain ⟨events, version, hold, hmem⟩ := h.reported
  obtain ⟨more, hnew⟩ := hevents
  exact ⟨h.not_targets, hheld v hv, events ++ more, version, by rw [hnew, hold, List.append_assoc],
    List.mem_append_left _ hmem⟩

/-- What is held for delegated roles is still held, if perhaps replaced, once more is accepted. -/
theorem held_of_updateDelegated {p : Primitives} {t t' : Trust} {bs : Bytes}
    {name delegator other : String} {origin : Origin}
    (h : t.updateDelegated p bs name delegator origin = .ok t') {v : Verified Targets}
    (hv : t.delegated.get? other = some v) : ∃ v', t'.delegated.get? other = some v' := by
  obtain ⟨snapshot, m, -, rfl⟩ := Trust.updateDelegated_eq_ok_iff.1 h
  rw [SortedMap.get?_insert]
  split
  · exact ⟨_, rfl⟩
  · exact ⟨v, hv⟩

/-- What was accepted for a delegated role is held for it. -/
theorem held_of_accepted {p : Primitives} {t t' : Trust} {bs : Bytes} {name delegator : String}
    {origin : Origin} (h : t.updateDelegated p bs name delegator origin = .ok t') :
    ∃ v, t'.delegated.get? name = some v := by
  obtain ⟨snapshot, m, -, rfl⟩ := Trust.updateDelegated_eq_ok_iff.1 h
  exact ⟨_, by rw [SortedMap.get?_insert, if_pos rfl]⟩

/-- Loading changes no entry. -/
theorem view_afterLoad (hstore : c.store.Separate view) (name : String) (w : World ν κ) :
    view (c.afterLoad name w).cache = view w.cache :=
  hstore.load name w.cache

/-- One ask, for a role that is not called like the top-level targets. -/
theorem Untouched.ask (hstore : c.store.Separate view) {delegation : Delegation}
    {delegator : String} (hname : delegation.name ≠ Role.targets.name)
    (h : Untouched view s₀ s role) :
    Untouched view s₀ (c.delegatedTargets delegation delegator s).2 role := by
  obtain ⟨⟨events, hevents⟩, hentry⟩ := h
  cases hcurrent : s.1.isDelegatedCurrent c.primitives delegation.name with
  | true =>
    rw [delegatedTargets_of_current hcurrent]
    exact ⟨⟨events, hevents⟩, hentry⟩
  | false =>
    have hasked := delegatedTargets_asked delegation delegator hcurrent
    generalize c.delegatedTargets delegation delegator s = asked at hasked
    cases hasked with
    | loaded haccept =>
      refine ⟨⟨events, hevents⟩, hentry.imp (fun hview => ?_) fun hshadowed => ?_⟩
      · rw [view_afterLoad hstore, hview]
      · exact hshadowed.grows (fun v => held_of_updateDelegated haccept)
          ⟨[], (List.append_nil _).symm⟩
    | @fetched bs t version net haccept =>
      have hnew : (s.2.events ++ [Event.accepted delegation.name version]) =
          s₀.2.events ++ (events ++ [.accepted delegation.name version]) := by
        rw [hevents, List.append_assoc]
      refine ⟨⟨_, hnew⟩, ?_⟩
      -- the only write there is goes to the entry of the name that the two roles may share
      by_cases hsame : delegation.name = role.name
      · refine .inr ⟨?_, ?_, _, version, hnew, ?_⟩
        · rintro rfl
          exact hname hsame
        · rw [← hsame]
          exact held_of_accepted haccept
        · rw [hsame]
          exact List.mem_append_right _ List.mem_cons_self
      · refine hentry.imp (fun hview => ?_) fun hshadowed => ?_
        · rw [hstore.save _ _ _ _ hsame, view_afterLoad hstore, hview]
        · exact hshadowed.grows (fun v => held_of_updateDelegated haccept) ⟨_, rfl⟩
    | failed e net =>
      refine ⟨⟨events, hevents⟩, hentry.imp (fun hview => ?_) fun hshadowed => ?_⟩
      · exact (congrFun (view_afterLoad hstore delegation.name s.2) role.name).trans hview
      · exact hshadowed.grows (fun v hv => ⟨v, hv⟩) ⟨[], (List.append_nil _).symm⟩

/-- Asks in turn, for roles that are not called like the top-level targets. -/
theorem Untouched.asks (hstore : c.store.Separate view) {asks : List (Delegation × String)}
    (hnames : ∀ ask ∈ asks, ask.1.name ≠ Role.targets.name) (h : Untouched view s₀ s role) :
    Untouched view s₀ (c.after s (asks.map fun ask => .ask ask.1 ask.2)) role := by
  induction asks generalizing s with
  | nil => exact h
  | cons ask asks ih =>
    obtain ⟨hname, hnames⟩ := List.forall_mem_cons.1 hnames
    exact ih hnames (h.ask hstore hname)

/-- With something committed, a look-up is a search in it. -/
theorem targetInfo_of_committed {s : Session ν κ} {t : Trust} (h : s.committed = some t)
    {now : Instant} {path : String} : (c.targetInfo now path s).2 =
      ⟨some (c.lookup path t s.world).2.1, (c.lookup path t s.world).2.2⟩ := by
  rw [targetInfo, if_pos (by rw [h]; rfl), lookupCommitted, h]

/-- After a look-up in what is committed, found or not, the store holds for a top-level role what it
held before, unless the look-up fetched metadata of a delegated role that goes by the same name; for
the top-level targets there is no such exception. -/
theorem targetInfo_leaves_topLevel (hstore : c.store.Separate view) {s : Session ν κ} {t : Trust}
    (hcommitted : s.committed = some t) (now : Instant) (path : String) (role : Role) :
    let s' := (c.targetInfo now path s).2
    view s'.world.cache role.name = view s.world.cache role.name ∨
      ∃ t', s'.committed = some t' ∧ Shadowed (t, s.world) (t', s'.world) role := by
  intro s'
  have hinfo : s' = ⟨some (c.lookup path t s.world).2.1, (c.lookup path t s.world).2.2⟩ :=
    targetInfo_of_committed hcommitted
  obtain ⟨asks, hnames, hasks⟩ := c.lookup_asks path (t, s.world)
  have hkept : Untouched view (t, s.world) (c.lookup path t s.world).2 role := by
    rw [hasks]
    exact (Untouched.refl view (t, s.world) role).asks hstore hnames
  rw [hinfo]
  exact hkept.entry.imp id fun hshadowed => ⟨_, rfl, hshadowed⟩

/-! ### A delegated role called timestamp -/

/-- A search that has one role left to ask for, which delegates nothing, ends with that ask. -/
theorem follow_leaf {σ : Type} {p : Primitives} {bounds : SearchBounds}
    {source : DelegationSource σ} {path : String} {visited : List String} {next : Search.Pending}
    {s : σ} (hunvisited : visited.contains next.delegation.name = false)
    (hbounds : ¬ (bounds.maxVisited ≤ visited.length ∨ bounds.maxDepth < next.depth))
    (hleaf : ∀ found ∈ (source next.delegation next.delegator s).1.toOption,
      found.payload.delegated = []) :
    (Search.follow p bounds source path visited [next] s).2 =
      (source next.delegation next.delegator s).2 := by
  rw [Search.follow]
  simp only [hunvisited, Bool.false_eq_true, if_false, if_neg hbounds]
  cases hsource : source next.delegation next.delegator s with
  | mk r s' =>
    cases r with
    | error e =>
      simp only
      split <;> rfl
    | ok found =>
      have hnone : found.payload.delegated = [] := hleaf found (by rw [hsource]; rfl)
      simp only
      split
      · rfl
      · rw [Search.push, hnone]
        simp [Search.candidates, Search.follow]

/-- Where the top-level targets do not list a path and delegate it to one role, which delegates
nothing, a look-up does what asking for that role does. -/
theorem lookup_leaf {t : Trust} {w : World ν κ} {top : Verified Targets} {path : String}
    {delegation : Delegation} (htop : t.targets = some top)
    (hunlisted : top.payload.targets.get? path = none)
    (hcandidates : Search.candidates c.primitives path top.payload.delegated =
      ([delegation], false))
    (hname : delegation.name ≠ Role.targets.name)
    (hbounds : 1 < c.searchBounds.maxVisited ∧ 1 ≤ c.searchBounds.maxDepth)
    (hleaf : ∀ found ∈ (c.delegatedTargets delegation Role.targets.name (t, w)).1.toOption,
      found.payload.delegated = []) :
    (c.lookup path t w).2 = (c.delegatedTargets delegation Role.targets.name (t, w)).2 := by
  have hrun :
      (Search.run c.primitives c.searchBounds c.delegatedTargets path top.payload (t, w)).2 =
        (c.delegatedTargets delegation Role.targets.name (t, w)).2 := by
    rw [Search.run, Targets.target?, hunlisted]
    simp only [Option.map_none, Search.push, hcandidates, List.map_cons, List.map_nil,
      Bool.false_eq_true, if_false, List.append_nil]
    exact follow_leaf (by simp [hname]) (by simp; omega) hleaf
  rw [← hrun, lookup, htop]
  simp only
  split
  · rename_i houtcome
    rw [houtcome]
  · rename_i houtcome
    rw [houtcome]

namespace Namesake

/-- A snapshot that lists the top-level targets and a delegated role called timestamp. -/
def snapshot : Bytes :=
  publish ['1'] ("[\"snapshot\",\"1\",1,\"2999-01-01T00:00:00Z\"," ++
    "\x7b\"targets.json\":[1],\"timestamp.json\":[1]\x7d]")

/-- Targets that delegate all paths to a role called timestamp. -/
def targets : Bytes :=
  publish ['1']
    ("[\"targets\",\"1\",1,\"2999-01-01T00:00:00Z\",\x7b\x7d,[\x7b\"1\":[\"ed25519\"," ++
    "\"ed25519\",[\"" ++ (Key.ofDigit '1').material ++ "\"]]\x7d,[\x7b\"name\":\"timestamp\"," ++
    "\"keyids\":[\"1\"],\"threshold\":1,\"paths\":[\"*\"]\x7d]]]")

/-- The delegation of those targets. -/
def toTimestamp : Delegation := { Twice.toX '1' with name := Role.timestamp.name }

/-- The replies of the small repository that delegates to a role called timestamp; the last one is
the metadata of that role. -/
def replies : List Reply :=
  [Sample.missing, .body (Sample.timestamp 1 1), .body snapshot, .body targets,
    .body (Sample.targets 1)]

/-- What there is after a refresh. -/
def session : Session (List Reply) (Dict Bytes) :=
  ((scripted Sample.root).refresh Sample.now ⟨none, Sample.world replies⟩).2

/-- What the ask for the delegated role comes to. -/
def asked (t : Trust) :
    Except TrustError (Verified Targets) × LookupState (List Reply) (Dict Bytes) :=
  (scripted Sample.root).delegatedTargets toTimestamp Role.targets.name (t, session.world)

/-- What is committed by the refresh: targets that do not list the path and delegate it to the one
role, whose metadata can be had and delegates nothing. -/
theorem session_committed : ∃ t top, session.committed = some t ∧ t.targets = some top ∧
    session.world.cache.get? Role.timestamp.name = some (Sample.timestamp 1 1) ∧
    session.world.cache.get? Role.targets.name = some targets ∧
    top.payload.targets.get? "p" = none ∧
    Search.candidates .transparent "p" top.payload.delegated = ([toTimestamp], false) ∧
    (∀ found ∈ (asked t).1.toOption, found.payload.delegated = []) ∧
    (asked t).2.2.cache.get? Role.timestamp.name = some (Sample.targets 1) ∧
    ((asked t).2.1.delegated.get? Role.timestamp.name).isSome = true := by
  have hsession : session.committed.isSome = true ∧
      session.world.cache.get? Role.timestamp.name = some (Sample.timestamp 1 1) ∧
      session.world.cache.get? Role.targets.name = some targets ∧
      ∀ t ∈ session.committed, t.targets.isSome = true ∧ ∀ top ∈ t.targets,
        top.payload.targets.get? "p" = none ∧
        Search.candidates .transparent "p" top.payload.delegated = ([toTimestamp], false) ∧
        (∀ found ∈ (asked t).1.toOption, found.payload.delegated = []) ∧
        (asked t).2.2.cache.get? Role.timestamp.name = some (Sample.targets 1) ∧
        ((asked t).2.1.delegated.get? Role.timestamp.name).isSome = true := by
    -- the search is by well-founded recursion and does not evaluate; the refresh and the ask do
    decide +kernel
  obtain ⟨hsome, htimestamp, htargets, hfacts⟩ := hsession
  obtain ⟨t, ht⟩ := Option.isSome_iff_exists.1 hsome
  obtain ⟨htop, hfacts⟩ := hfacts t ht
  obtain ⟨top, htop⟩ := Option.isSome_iff_exists.1 htop
  exact ⟨t, top, ht, htop, htimestamp, htargets, hfacts top htop⟩

/-- The look-up of a path asks for the delegated role, whose metadata is then held and saved. -/
theorem session_lookup : ∃ t, session.committed = some t ∧
    session.world.cache.get? Role.timestamp.name = some (Sample.timestamp 1 1) ∧
    session.world.cache.get? Role.targets.name = some targets ∧
    ∃ t' w', ((scripted Sample.root).targetInfo Sample.now "p" session).2 = ⟨some t', w'⟩ ∧
      w'.cache.get? Role.timestamp.name = some (Sample.targets 1) ∧
      (t'.delegated.get? Role.timestamp.name).isSome = true := by
  obtain ⟨t, top, ht, htop, htimestamp, htargets, hunlisted, hcandidates, hleaf, hsaved, hheld⟩ :=
    session_committed
  refine ⟨t, ht, htimestamp, htargets, (asked t).2.1, (asked t).2.2, ?_, hsaved, hheld⟩
  rw [targetInfo_of_committed ht,
    lookup_leaf htop hunlisted hcandidates (by decide) (by decide) hleaf]
  rfl

end Namesake

open Namesake in
/-- The look-up leaves the top-level targets in the store as they are. -/
theorem targetInfo_leaves_topLevel_targets : session.committed.isSome = true ∧
    ((scripted Sample.root).targetInfo Sample.now "p" session).2.world.cache.get?
      Role.targets.name = some targets := by
  obtain ⟨t, ht, -, htargets, -⟩ := session_lookup
  refine ⟨by rw [ht]; rfl, ?_⟩
  have hstore : (scripted Sample.root).store.Separate SortedMap.get? :=
    LocalStore.plain_reliable.separate
  rcases targetInfo_leaves_topLevel hstore ht Sample.now "p" .targets with
    hkept | ⟨t', -, hshadowed⟩
  · exact hkept.trans htargets
  · exact absurd rfl hshadowed.not_targets

open Namesake in
/-- It replaces the timestamp in the store by metadata of the delegated role. -/
theorem targetInfo_overwrites_timestamp : session.committed.isSome = true ∧
    session.world.cache.get? Role.timestamp.name = some (Sample.timestamp 1 1) ∧
    ((scripted Sample.root).targetInfo Sample.now "p" session).2.world.cache.get?
      Role.timestamp.name = some (Sample.targets 1) := by
  obtain ⟨t, ht, htimestamp, -, t', w', hinfo, hsaved, -⟩ := session_lookup
  exact ⟨by rw [ht]; rfl, htimestamp, by rw [hinfo]; exact hsaved⟩

end SecureUpdate.Client
