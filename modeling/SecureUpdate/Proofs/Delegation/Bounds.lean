import Mathlib.Order.WellFounded
import SecureUpdate.Proofs.Delegation.Narrowing

/-!
What bounds a search. A source may delegate in circles, or name new roles without end, and every
answer may add any number of delegations to what is pending. But a round of the search uses up one
of the roles that may still be visited, or else one of the delegations that are pending, and adds to
what is pending only in the first case. So every search comes to an end; on the way it asks for no
role twice, for no role that is too deep, and for fewer roles than it may visit.

Main statements: `run_resolves`, `calls_within`.
-/

namespace SecureUpdate.Search

variable {σ : Type}

/-! ### Rounds -/

/-- Where a search is: the roles it has visited, what is pending, and the state of the source. -/
structure Moment (σ : Type) where
  visited : List String
  pending : List Pending
  state : σ

section Rounds

variable (p : Primitives) (bounds : SearchBounds) (source : DelegationSource σ) (path : String)

/-- One round of a search, which takes up the first of what is pending: the result of the search, or
where it goes on. -/
def round (m : Moment σ) : (Except TrustError SearchOutcome × σ) ⊕ Moment σ :=
  match m.pending with
  | [] => .inl (.ok (.exhausted m.visited.length), m.state)
  | next :: rest =>
    let name := next.delegation.name
    if name ∈ m.visited then .inr { m with pending := rest }
    else if bounds.maxVisited ≤ m.visited.length ∨ bounds.maxDepth < next.depth then
      .inl (.ok (.boundExceeded name next.depth m.visited.length), m.state)
    else
      match source next.delegation next.delegator m.state with
      | (.error e, s) => .inl (if e.isTransport then .ok (.fetchFailed name e) else .error e, s)
      | (.ok found, s) =>
        match found.payload.target? path with
        | some target => .inl (.ok (.found name target), s)
        | none => .inr ⟨name :: m.visited, push p path name found.payload (next.depth + 1) rest, s⟩

/-- The result that finitely many rounds lead to. -/
inductive Ends : Moment σ → Except TrustError SearchOutcome × σ → Prop
  | now {m r} (h : round p bounds source path m = .inl r) : Ends m r
  | later {m m' r} (h : round p bounds source path m = .inr m') (hends : Ends m' r) : Ends m r

/-- The moments that finitely many rounds lead to. -/
inductive Reaches : Moment σ → Moment σ → Prop
  | here {m} : Reaches m m
  | on {m m' m''} (h : Reaches m m') (hround : round p bounds source path m' = .inr m'') :
    Reaches m m''

/-- The result of a search: what the top-level targets list for the path, or what finitely many
rounds lead to from their delegations. -/
inductive Resolves (top : Targets) (s : σ) : Except TrustError SearchOutcome × σ → Prop
  | listed {target} (h : top.target? path = some target) :
    Resolves top s (.ok (.found Role.targets.name target), s)
  | searched {r} (h : top.target? path = none)
    (hends : Ends p bounds source path
      ⟨[Role.targets.name], push p path Role.targets.name top 1 [], s⟩ r) : Resolves top s r

variable {p bounds source path}

/-- The search does its rounds one after another. -/
theorem follow_eq_round (m : Moment σ) :
    follow p bounds source path m.visited m.pending m.state =
      match round p bounds source path m with
      | .inl r => r
      | .inr m' => follow p bounds source path m'.visited m'.pending m'.state := by
  obtain ⟨visited, pending, s⟩ := m
  cases pending with
  | nil => rw [follow, round]
  | cons next rest =>
    by_cases hvisited : next.delegation.name ∈ visited
    · simp [follow_visited hvisited, round, hvisited]
    · by_cases hbound : bounds.maxVisited ≤ visited.length ∨ bounds.maxDepth < next.depth
      · simp [follow_bounded hvisited hbound, round, hvisited, hbound]
      · rw [follow_asked hvisited hbound]
        simp only [round, if_neg hvisited, if_neg hbound]
        cases source next.delegation next.delegator s with
        | mk answer s =>
          cases answer with
          | error e => rfl
          | ok found =>
            simp only
            cases found.payload.target? path <;> rfl

/-- A search goes on after a role that has been visited, or after metadata that was consulted and
does not list the path. -/
theorem round_goes_on {m m' : Moment σ} (h : round p bounds source path m = .inr m') :
    ∃ next rest, m.pending = next :: rest ∧
      ((next.delegation.name ∈ m.visited ∧ m' = { m with pending := rest }) ∨
        (next.delegation.name ∉ m.visited ∧ m.visited.length < bounds.maxVisited ∧
          ∃ found s, source next.delegation next.delegator m.state = (.ok found, s) ∧
            m' = ⟨next.delegation.name :: m.visited,
              push p path next.delegation.name found.payload (next.depth + 1) rest, s⟩)) := by
  obtain ⟨visited, pending, s⟩ := m
  cases pending with
  | nil => cases h
  | cons next rest =>
    refine ⟨next, rest, rfl, ?_⟩
    simp only [round] at h
    split at h
    · rename_i hvisited
      cases h
      exact .inl ⟨hvisited, rfl⟩
    · rename_i hnew
      split at h
      · cases h
      · rename_i hbound
        split at h
        · cases h
        · rename_i found s' hsource
          split at h
          · cases h
          · cases h
            refine .inr ⟨hnew, ?_, found, s', hsource, rfl⟩
            exact Nat.lt_of_not_le fun hle => hbound (.inl hle)

/-- A search fails, or says that metadata could not be had, for a failure of its source. -/
theorem round_fails {m : Moment σ} {r : Except TrustError SearchOutcome × σ} {e : TrustError}
    (h : round p bounds source path m = .inl r)
    (he : r.1 = .error e ∨ ∃ role, r.1 = .ok (.fetchFailed role e)) :
    ∃ next ∈ m.pending, next.delegation.name ∉ m.visited ∧
      (source next.delegation next.delegator m.state).1 = .error e := by
  obtain ⟨visited, pending, s⟩ := m
  cases pending with
  | nil =>
    cases h
    rcases he with he | ⟨role, he⟩ <;> cases he
  | cons next rest =>
    simp only [round] at h
    split at h
    · cases h
    · rename_i hnew
      split at h
      · cases h
        rcases he with he | ⟨role, he⟩ <;> cases he
      · split at h
        · rename_i e' s' hsource
          cases h
          refine ⟨next, List.mem_cons_self, hnew, ?_⟩
          rw [hsource]
          rcases he with he | ⟨role, he⟩ <;> (simp only at he; split at he <;> cases he) <;> rfl
        · split at h
          · cases h
            rcases he with he | ⟨role, he⟩ <;> cases he
          · cases h

/-- A round that does not end the search leaves fewer roles to visit, or less pending. -/
theorem round_descends {m m' : Moment σ} (h : round p bounds source path m = .inr m') :
    Prod.Lex (· < ·) (· < ·) (bounds.maxVisited - m'.visited.length, m'.pending.length)
      (bounds.maxVisited - m.visited.length, m.pending.length) := by
  obtain ⟨next, rest, hpending, ⟨-, rfl⟩ | ⟨-, hbound, found, s, -, rfl⟩⟩ := round_goes_on h
  · rw [hpending]
    exact .right _ (Nat.lt_succ_self _)
  · refine .left _ _ ?_
    show bounds.maxVisited - (m.visited.length + 1) < bounds.maxVisited - m.visited.length
    omega

/-- Whatever the source answers, there is no endless sequence of rounds. -/
theorem round_wellFounded (p : Primitives) (bounds : SearchBounds) (source : DelegationSource σ)
    (path : String) : WellFounded fun m' m => round p bounds source path m = .inr m' :=
  Subrelation.wf (fun h => round_descends h)
    (InvImage.wf (fun m : Moment σ => (bounds.maxVisited - m.visited.length, m.pending.length))
      (WellFounded.prod_lex Nat.lt_wfRel.wf Nat.lt_wfRel.wf))

theorem follow_ends (m : Moment σ) :
    Ends p bounds source path m (follow p bounds source path m.visited m.pending m.state) := by
  induction m using (round_wellFounded p bounds source path).induction with
  | h m ih =>
    rw [follow_eq_round]
    cases hround : round p bounds source path m with
    | inl r => exact .now hround
    | inr m' => exact .later hround (ih m' hround)

theorem Reaches.head {m m' z : Moment σ} (hround : round p bounds source path m = .inr m')
    (h : Reaches p bounds source path m' z) : Reaches p bounds source path m z := by
  induction h with
  | here => exact .on .here hround
  | on _ hlast ih => exact .on ih hlast

/-- The last round that leads to a result. -/
theorem Ends.last {m : Moment σ} {r : Except TrustError SearchOutcome × σ}
    (h : Ends p bounds source path m r) :
    ∃ m', Reaches p bounds source path m m' ∧ round p bounds source path m' = .inl r := by
  induction h with
  | now hround => exact ⟨_, .here, hround⟩
  | later hround _ ih =>
    obtain ⟨m', hreaches, hlast⟩ := ih
    exact ⟨m', hreaches.head hround, hlast⟩

/-- Every search comes to its result after finitely many rounds. -/
theorem run_resolves (p : Primitives) (bounds : SearchBounds) (source : DelegationSource σ)
    (path : String) (top : Targets) (s : σ) :
    Resolves p bounds source path top s (run p bounds source path top s) := by
  unfold run
  cases htop : top.target? path with
  | some target => exact .listed htop
  | none => exact .searched htop (follow_ends ⟨_, _, s⟩)

end Rounds

/-! ### Calls -/

variable {p : Primitives} {bounds : SearchBounds} {source : DelegationSource σ} {path role : String}
  {top : Targets} {visited chain chain' : List String} {pending : List Pending} {calls : List Call}

/-- A chain of delegations is that of the top-level role alone, or one that goes on to its last
role. -/
theorem HandedDown.cases_last (h : HandedDown p path top calls chain role) :
    (chain = [role] ∧ role = Role.targets.name) ∨
      ∃ before delegator, chain = before ++ [role] ∧
        HandedDown p path top calls before delegator ∧
          HandsOver p path top calls delegator role := by
  obtain ⟨hfirst, hlast, hdistinct, hlinked⟩ := h
  rcases List.eq_nil_or_concat' chain with rfl | ⟨before, last, rfl⟩
  · cases hfirst
  · cases List.getLast?_concat.symm.trans hlast
    cases before with
    | nil => exact .inl ⟨rfl, Option.some.inj hfirst⟩
    | cons first rest =>
      rw [List.isChain_append] at hlinked
      have hdelegator := List.getLast?_eq_some_getLast (List.cons_ne_nil first rest)
      refine .inr ⟨first :: rest, _, rfl, ⟨hfirst, hdelegator, ?_, hlinked.1⟩,
        hlinked.2.2 _ hdelegator _ rfl⟩
      exact hdistinct.of_append_left

/-- Where no role is asked for twice, and the top-level one not at all, only one chain of
delegations leads to a role. -/
theorem HandedDown.unique (hdistinct : (calls.map (·.delegation.name)).Nodup)
    (hnotTop : Role.targets.name ∉ calls.map (·.delegation.name))
    (h : HandedDown p path top calls chain role) (h' : HandedDown p path top calls chain' role) :
    chain = chain' := by
  have hasked {delegator role : String} (hlink : HandsOver p path top calls delegator role) :
      role ≠ Role.targets.name := by
    obtain ⟨-, -, call, hcall, -, rfl, -⟩ := hlink
    exact fun htop => hnotTop (htop ▸ List.mem_map_of_mem hcall)
  induction hlength : chain.length generalizing chain chain' role with
  | zero =>
    cases List.length_eq_zero_iff.1 hlength
    cases h.first
  | succ n ih =>
    rcases h.cases_last with ⟨rfl, htop⟩ | ⟨before, delegator, rfl, hbefore, hlink⟩ <;>
      rcases h'.cases_last with ⟨rfl, htop'⟩ | ⟨before', delegator', rfl, hbefore', hlink'⟩
    · rfl
    · exact absurd htop (hasked hlink')
    · exact absurd htop' (hasked hlink)
    · obtain ⟨-, -, call, hcall, rfl, hrole, -⟩ := hlink
      obtain ⟨-, -, call', hcall', rfl, hrole', -⟩ := hlink'
      cases List.inj_on_of_nodup_map hdistinct hcall hcall' (hrole.trans hrole'.symm)
      rw [ih hbefore hbefore' (by simpa using hlength)]

/-- What bounds the calls of a search. How deep a role is below the top-level one is told by the
chain of delegations that leads to its delegator. -/
structure Within (p : Primitives) (bounds : SearchBounds) (path : String) (top : Targets)
    (calls : List Call) : Prop where
  /-- The top-level role counts as visited, even where not a single role may be. -/
  count : calls.length ≤ max bounds.maxVisited 1 - 1
  distinct : (calls.map (·.delegation.name)).Nodup
  notTop : Role.targets.name ∉ calls.map (·.delegation.name)
  reached : ∀ call ∈ calls, ∃! chain, HandedDown p path top calls chain call.delegator
  shallow : ∀ call ∈ calls, ∀ chain, HandedDown p path top calls chain call.delegator →
    chain.length ≤ bounds.maxDepth

/-- What holds of the calls all along a search: the roles asked for are those visited below the
top-level one. -/
structure Paced (p : Primitives) (bounds : SearchBounds) (path : String) (top : Targets)
    (visited : List String) (calls : List Call) : Prop where
  visited_eq : visited = (calls.map (·.delegation.name)).reverse ++ [Role.targets.name]
  nodup : visited.Nodup
  length_le : visited.length ≤ max bounds.maxVisited 1
  shallow : ∀ call ∈ calls, ∃ chain, HandedDown p path top calls chain call.delegator ∧
    chain.length ≤ bounds.maxDepth

theorem Paced.within (h : Paced p bounds path top visited calls) :
    Within p bounds path top calls := by
  have hnodup := h.nodup
  have hlength := h.length_le
  rw [h.visited_eq, List.nodup_append] at hnodup
  simp only [h.visited_eq, List.length_append, List.length_reverse, List.length_map,
    List.length_singleton] at hlength
  obtain ⟨hreverse, -, hother⟩ := hnodup
  have hdistinct := List.nodup_reverse.1 hreverse
  have hnotTop : Role.targets.name ∉ calls.map (·.delegation.name) := fun htop =>
    hother _ (List.mem_reverse.2 htop) _ (List.mem_singleton_self _) rfl
  refine ⟨by omega, hdistinct, hnotTop, fun call hcall => ?_, fun call hcall chain hchain => ?_⟩
  · obtain ⟨chain, hchain, -⟩ := h.shallow call hcall
    exact ⟨chain, hchain, fun other hother => hother.unique hdistinct hnotTop hchain⟩
  · obtain ⟨chain', hchain', hlength⟩ := h.shallow call hcall
    rwa [hchain.unique hdistinct hnotTop hchain']

/-- Another role is asked for: one that has not been visited, and that no bound excludes. -/
theorem Paced.ask {next : Pending} (h : Paced p bounds path top visited calls)
    (hfounded : next.Founded p path top visited calls) (hnew : next.delegation.name ∉ visited)
    (hbound : ¬ (bounds.maxVisited ≤ visited.length ∨ bounds.maxDepth < next.depth))
    (answer : Except TrustError (Verified Targets)) :
    Paced p bounds path top (next.delegation.name :: visited) (calls ++ [next.call answer]) where
  visited_eq := by rw [h.visited_eq]; simp [Pending.call]
  nodup := List.nodup_cons.2 ⟨hnew, h.nodup⟩
  length_le := by
    rw [List.length_cons]
    omega
  shallow call hcall := by
    have hcalls : calls ⊆ calls ++ [next.call answer] := List.subset_append_left _ _
    rcases List.mem_append.1 hcall with hold | hlast
    · obtain ⟨chain, hchain, hlength⟩ := h.shallow call hold
      exact ⟨chain, hchain.mono hcalls, hlength⟩
    · cases List.mem_singleton.1 hlast
      obtain ⟨chain, hchain, hlength, -⟩ := hfounded
      exact ⟨chain, hchain.mono hcalls, by omega⟩

/-- A search that goes on from where the invariants hold stays within its bounds. -/
theorem Paced.follow {s : σ} (h : Paced p bounds path top visited calls)
    (hsearching : Searching p path top visited calls pending) :
    Within p bounds path top
      (Search.follow p bounds (recorded source) path visited pending (s, calls)).2.2 := by
  fun_induction Search.follow p bounds source path visited pending s generalizing calls
  case case1 visited s =>
    rw [Search.follow]
    exact h.within
  case case2 visited s next rest name hvisited ih =>
    rw [follow_visited (by simpa using hvisited)]
    exact ih h hsearching.rest
  case case3 visited s next rest name hvisited hbound =>
    rw [follow_bounded (by simpa using hvisited) hbound]
    exact h.within
  case case4 visited s next rest name hvisited hbound e s' hsource htransport
      | case5 visited s next rest name hvisited hbound e s' hsource htransport =>
    have hfounded := hsearching.founded next List.mem_cons_self
    have hnew : next.delegation.name ∉ visited := by simpa using hvisited
    rw [follow_asked hnew hbound]
    simp only [recorded, hsource]
    exact (h.ask hfounded hnew hbound (.error e)).within
  case case6 visited s next rest name hvisited hbound found s' hsource target htarget =>
    have hfounded := hsearching.founded next List.mem_cons_self
    have hnew : next.delegation.name ∉ visited := by simpa using hvisited
    rw [follow_asked hnew hbound]
    simp only [recorded, hsource, htarget]
    exact (h.ask hfounded hnew hbound (.ok found)).within
  case case7 visited s next rest name hvisited hbound found s' hsource htarget ih =>
    have hfounded := hsearching.founded next List.mem_cons_self
    have hnew : next.delegation.name ∉ visited := by simpa using hvisited
    rw [follow_asked hnew hbound]
    simp only [recorded, hsource, htarget]
    exact ih (h.ask hfounded hnew hbound (.ok found)) (hsearching.descend hnew htarget)

/-- The calls of every search are within its bounds, whatever the source answers. -/
theorem calls_within (p : Primitives) (bounds : SearchBounds) (source : DelegationSource σ)
    (path : String) (top : Targets) (s : σ) :
    Within p bounds path top
      (callsOf (fun source => run p bounds source path top) source s) := by
  have hstart : Paced p bounds path top [Role.targets.name] [] :=
    ⟨rfl, List.nodup_singleton _, Nat.le_max_right _ _, List.forall_mem_nil _⟩
  unfold callsOf run
  cases htop : top.target? path with
  | some target => exact hstart.within
  | none => exact hstart.follow (searching_top htop)

end SecureUpdate.Search
