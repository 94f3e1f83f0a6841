import Mathlib.Data.List.Chain
import Mathlib.Data.List.Nodup
import SecureUpdate.Proofs.Delegation.Calls
import SecureUpdate.Proofs.Sample

/-!
Who may answer for a path. A search keeps no record of the way to a role: what is pending knows its
delegator and nothing before it. Yet whoever answers for a path is the last of a chain of roles that
starts at the top-level targets, in which each role delegates the path to the next one, by metadata
that this very search has consulted. So no role answers for a path that one of those above it does
not cover.

Main statement: `run_found_narrows`.
-/

namespace SecureUpdate.Search

variable {σ : Type} {p : Primitives} {path name role : String} {top targets : Targets}
  {calls calls' : List Call}

/-! ### Delegating a path -/

/-- Whether targets metadata delegates a path by one of its delegations: the delegation covers the
path, and none of those before it is terminating. -/
def Delegates (p : Primitives) (path : String) (targets : Targets) (d : Delegation) : Prop :=
  d.paths.covers p path = true ∧
    ∃ before after, targets.delegated = before ++ d :: after ∧ ∀ e ∈ before, e.terminating = false

theorem exists_of_mem_candidates {ds : List Delegation} {d : Delegation}
    (h : d ∈ (candidates p path ds).1) : d.paths.covers p path = true ∧
      ∃ before after, ds = before ++ d :: after ∧ ∀ e ∈ before, e.terminating = false := by
  induction ds with
  | nil => cases h
  | cons e ds ih =>
    rw [candidates] at h
    -- the candidate is the first delegation, or one of those after it
    have hsplit : (d = e ∧ e.paths.covers p path = true) ∨
        (e.terminating = false ∧ d ∈ (candidates p path ds).1) := by
      cases hterminating : e.terminating <;> cases hcovers : e.paths.covers p path <;>
        simp_all
    rcases hsplit with ⟨rfl, hcovers⟩ | ⟨hterminating, hrest⟩
    · exact ⟨hcovers, [], ds, rfl, List.forall_mem_nil _⟩
    · obtain ⟨hcovers, before, after, rfl, hbefore⟩ := ih hrest
      exact ⟨hcovers, e :: before, after, rfl, List.forall_mem_cons.2 ⟨hterminating, hbefore⟩⟩

/-- What metadata adds to what is pending are delegations by which it delegates the path. -/
theorem delegates_of_mem_push {depth : Nat} {pending : List Pending} {next : Pending}
    (h : next ∈ push p path name targets depth pending) :
    (next.delegator = name ∧ next.depth = depth ∧ Delegates p path targets next.delegation) ∨
      next ∈ pending := by
  unfold push at h
  rcases List.mem_append.1 h with hnew | hold
  · obtain ⟨d, hd, rfl⟩ := List.mem_map.1 hnew
    exact .inl ⟨rfl, rfl, exists_of_mem_candidates hd⟩
  · split at hold
    · cases hold
    · exact .inr hold

/-! ### What a search has consulted -/

/-- Whether metadata is what a search consulted for a role: what it started with for the top-level
targets, and what the source answered for any other role. -/
def Consulted (top : Targets) (calls : List Call) (name : String) (targets : Targets) : Prop :=
  (name = Role.targets.name ∧ targets = top) ∨
    ∃ call ∈ calls, call.delegation.name = name ∧ ∃ v, call.answer = .ok v ∧ v.payload = targets

/-- Whether the source was asked for a role on behalf of a delegator whose consulted metadata
delegates the path to the role. -/
def HandsOver (p : Primitives) (path : String) (top : Targets) (calls : List Call)
    (delegator role : String) : Prop :=
  ∃ targets, Consulted top calls delegator targets ∧ ∃ call ∈ calls,
    call.delegator = delegator ∧ call.delegation.name = role ∧
      Delegates p path targets call.delegation

/-- A chain of different roles from the top-level targets to a role, each of which hands the path
over to the next one. -/
structure HandedDown (p : Primitives) (path : String) (top : Targets) (calls : List Call)
    (chain : List String) (role : String) : Prop where
  first : chain.head? = some Role.targets.name
  last : chain.getLast? = some role
  distinct : chain.Nodup
  linked : chain.IsChain (HandsOver p path top calls)

theorem Consulted.mono (h : Consulted top calls name targets) (hcalls : calls ⊆ calls') :
    Consulted top calls' name targets := by
  rcases h with htop | ⟨call, hmem, hcall⟩
  · exact .inl htop
  · exact .inr ⟨call, hcalls hmem, hcall⟩

theorem HandsOver.mono {delegator : String} (h : HandsOver p path top calls delegator role)
    (hcalls : calls ⊆ calls') : HandsOver p path top calls' delegator role := by
  obtain ⟨targets, htargets, call, hmem, hcall⟩ := h
  exact ⟨targets, htargets.mono hcalls, call, hcalls hmem, hcall⟩

theorem HandedDown.mono {chain : List String} (h : HandedDown p path top calls chain role)
    (hcalls : calls ⊆ calls') : HandedDown p path top calls' chain role :=
  { h with linked := h.linked.imp fun _ _ hlink => hlink.mono hcalls }

/-- A chain goes on to a new role that its last one hands the path over to. -/
theorem HandedDown.extend {chain : List String} {next : String}
    (h : HandedDown p path top calls chain role) (hnew : next ∉ chain)
    (hlink : HandsOver p path top calls role next) :
    HandedDown p path top calls (chain ++ [next]) next where
  first := by
    have hfirst := h.first
    cases chain with
    | nil => cases hfirst
    | cons name rest => exact hfirst
  last := List.getLast?_concat
  distinct := by
    rw [List.nodup_append]
    refine ⟨h.distinct, List.nodup_singleton _, ?_⟩
    rintro name hname other hother rfl
    exact hnew (List.mem_singleton.1 hother ▸ hname)
  linked := by
    refine h.linked.append (.singleton next) ?_
    intro last hlast other hother
    cases h.last.symm.trans hlast
    cases hother
    exact hlink

/-! ### The invariant of a search -/

/-- Whether a pending delegation is well founded: a chain leads to its delegator, through roles that
have been visited, and the delegator delegates the path by it. -/
def Pending.Founded (p : Primitives) (path : String) (top : Targets) (visited : List String)
    (calls : List Call) (next : Pending) : Prop :=
  ∃ chain, HandedDown p path top calls chain next.delegator ∧ chain.length = next.depth ∧
    chain ⊆ visited ∧ ∃ targets, Consulted top calls next.delegator targets ∧
      Delegates p path targets next.delegation

/-- What holds all along a search: what is pending is well founded, and none of the metadata that
has been consulted lists the path. -/
structure Searching (p : Primitives) (path : String) (top : Targets) (visited : List String)
    (calls : List Call) (pending : List Pending) : Prop where
  founded : ∀ next ∈ pending, next.Founded p path top visited calls
  unlisted : ∀ name targets, Consulted top calls name targets → targets.target? path = none

theorem Pending.Founded.mono {visited visited' : List String} {next : Pending}
    (h : next.Founded p path top visited calls) (hvisited : visited ⊆ visited')
    (hcalls : calls ⊆ calls') : next.Founded p path top visited' calls' := by
  obtain ⟨chain, hchain, hlength, hsub, targets, htargets, hdelegates⟩ := h
  exact ⟨chain, hchain.mono hcalls, hlength, fun _ hname => hvisited (hsub hname), targets,
    htargets.mono hcalls, hdelegates⟩

/-- What the answer to a search rests on. -/
structure Narrows (p : Primitives) (bounds : SearchBounds) (path : String) (top : Targets)
    (calls : List Call) (role : String) (target : Target) (chain : List String)
    (targets : Targets) : Prop where
  /-- The chain of roles that leads to the answer. -/
  handedDown : HandedDown p path top calls chain role
  /-- The number of roles in the chain, the top-level one included. -/
  bounded : chain.length ≤ bounds.maxDepth + 1
  consulted : Consulted top calls role targets
  listed : targets.target? path = some target
  /-- No other metadata that the search consulted lists the path. -/
  only : ∀ name others, Consulted top calls name others → others.target? path ≠ none →
    name = role ∧ others = targets

section Step

variable {bounds : SearchBounds} {visited : List String} {next : Pending} {pending : List Pending}
  {found : Verified Targets}

/-- The call by which a pending delegation is followed. -/
def Pending.call (next : Pending) (answer : Except TrustError (Verified Targets)) : Call :=
  ⟨next.delegation, next.delegator, answer⟩

/-- A chain leads to a role that has been answered for. -/
theorem Pending.Founded.answered (h : next.Founded p path top visited calls)
    (hnew : next.delegation.name ∉ visited) : ∃ chain,
    HandedDown p path top (calls ++ [next.call (.ok found)]) chain next.delegation.name ∧
      chain.length = next.depth + 1 ∧ chain ⊆ next.delegation.name :: visited := by
  obtain ⟨chain, hchain, hlength, hsub, targets, htargets, hdelegates⟩ := h
  have hcalls : calls ⊆ calls ++ [next.call (.ok found)] := List.subset_append_left _ _
  refine ⟨chain ++ [next.delegation.name], (hchain.mono hcalls).extend (fun h => hnew (hsub h)) ?_,
    by simp [hlength], ?_⟩
  · exact ⟨targets, htargets.mono hcalls, next.call (.ok found),
      List.mem_append_right _ List.mem_cons_self, rfl, rfl, hdelegates⟩
  · intro name hname
    rcases List.mem_append.1 hname with hold | hlast
    · exact List.mem_cons_of_mem _ (hsub hold)
    · exact List.mem_singleton.1 hlast ▸ List.mem_cons_self

/-- The answer of the source is what has been consulted for the role. -/
theorem consulted_answer :
    Consulted top (calls ++ [next.call (.ok found)]) next.delegation.name found.payload :=
  .inr ⟨next.call (.ok found), List.mem_append_right _ List.mem_cons_self, rfl, found, rfl, rfl⟩

/-- What has been consulted once the source has answered: what was before, or the answer. -/
theorem Consulted.of_append (h : Consulted top (calls ++ [next.call (.ok found)]) name targets) :
    Consulted top calls name targets ∨
      (name = next.delegation.name ∧ targets = found.payload) := by
  rcases h with htop | ⟨call, hmem, hname, v, hanswer, hpayload⟩
  · exact .inl (.inl htop)
  · rcases List.mem_append.1 hmem with hold | hlast
    · exact .inl (.inr ⟨call, hold, hname, v, hanswer, hpayload⟩)
    · cases List.mem_singleton.1 hlast
      cases hanswer
      exact .inr ⟨hname.symm, hpayload.symm⟩

theorem Searching.rest (h : Searching p path top visited calls (next :: pending)) :
    Searching p path top visited calls pending :=
  ⟨fun next hnext => h.founded next (List.mem_cons_of_mem _ hnext), h.unlisted⟩

/-- The answer lists the path. -/
theorem Searching.narrows (h : Searching p path top visited calls (next :: pending))
    (hnew : next.delegation.name ∉ visited) (hdepth : next.depth ≤ bounds.maxDepth)
    {target : Target} (htarget : found.payload.target? path = some target) :
    ∃ chain, Narrows p bounds path top (calls ++ [next.call (.ok found)]) next.delegation.name
      target chain found.payload := by
  obtain ⟨chain, hchain, hlength, -⟩ := (h.founded next List.mem_cons_self).answered hnew
  refine ⟨chain, hchain, by omega, consulted_answer, htarget, ?_⟩
  intro name others hothers hlisted
  rcases hothers.of_append with hold | hanswer
  · exact absurd (h.unlisted name others hold) hlisted
  · exact hanswer

/-- The answer does not list the path: its delegations come before what else is pending. -/
theorem Searching.descend (h : Searching p path top visited calls (next :: pending))
    (hnew : next.delegation.name ∉ visited) (hunlisted : found.payload.target? path = none) :
    Searching p path top (next.delegation.name :: visited) (calls ++ [next.call (.ok found)])
      (push p path next.delegation.name found.payload (next.depth + 1) pending) where
  founded other hother := by
    rcases delegates_of_mem_push hother with ⟨hdelegator, hdepth, hdelegates⟩ | hold
    · obtain ⟨chain, hchain, hlength, hsub⟩ := (h.founded next List.mem_cons_self).answered hnew
      refine ⟨chain, ?_, by rw [hlength, hdepth], hsub, found.payload, ?_, hdelegates⟩
      · rw [hdelegator]
        exact hchain
      · rw [hdelegator]
        exact consulted_answer
    · exact (h.rest.founded other hold).mono (List.subset_cons_self _ _)
        (List.subset_append_left _ _)
  unlisted name targets htargets := by
    rcases htargets.of_append with hold | ⟨-, rfl⟩
    · exact h.unlisted name targets hold
    · exact hunlisted

end Step

variable {bounds : SearchBounds} {source : DelegationSource σ}

/-- A search that goes on from where the invariant holds finds nothing that it does not cover. -/
theorem Searching.follow {visited : List String} {pending : List Pending} {s s' : σ}
    (h : Searching p path top visited calls pending) {target : Target}
    (hfound : Search.follow p bounds (recorded source) path visited pending (s, calls) =
      (.ok (.found role target), s', calls')) :
    ∃ chain targets, Narrows p bounds path top calls' role target chain targets := by
  fun_induction Search.follow p bounds source path visited pending s generalizing calls
  case case1 visited s =>
    rw [Search.follow] at hfound
    cases hfound
  case case2 visited s next rest name hvisited ih =>
    rw [follow_visited (by simpa using hvisited)] at hfound
    exact ih h.rest hfound
  case case3 visited s next rest name hvisited hbound =>
    rw [follow_bounded (by simpa using hvisited) hbound] at hfound
    cases hfound
  case case4 visited s next rest name hvisited hbound e s₁ hsource htransport
      | case5 visited s next rest name hvisited hbound e s₁ hsource htransport =>
    rw [follow_asked (by simpa using hvisited) hbound] at hfound
    simp [recorded, hsource, htransport] at hfound
  case case6 visited s next rest name hvisited hbound found s₁ hsource listed hlisted =>
    rw [follow_asked (by simpa using hvisited) hbound] at hfound
    simp only [recorded, hsource, hlisted] at hfound
    cases hfound
    have hdepth : next.depth ≤ bounds.maxDepth := by omega
    obtain ⟨chain, hchain⟩ := h.narrows (by simpa using hvisited) hdepth hlisted
    exact ⟨chain, found.payload, hchain⟩
  case case7 visited s next rest name hvisited hbound found s₁ hsource hunlisted ih =>
    rw [follow_asked (by simpa using hvisited) hbound] at hfound
    simp only [recorded, hsource, hunlisted] at hfound
    exact ih (h.descend (by simpa using hvisited) hunlisted) hfound

/-- Before the source is asked for anything, only the top-level targets have been consulted. -/
theorem searching_top (htop : top.target? path = none) :
    Searching p path top [Role.targets.name] []
      (push p path Role.targets.name top 1 []) where
  founded next hnext := by
    rcases delegates_of_mem_push hnext with ⟨hdelegator, hdepth, hdelegates⟩ | hold
    · refine ⟨[Role.targets.name],
        ⟨rfl, by rw [hdelegator]; rfl, List.nodup_singleton _, .singleton _⟩,
        by rw [hdepth]; rfl, List.Subset.refl _, top, .inl ⟨hdelegator, rfl⟩, hdelegates⟩
    · cases hold
  unlisted name targets htargets := by
    rcases htargets with ⟨-, rfl⟩ | ⟨call, hmem, -⟩
    · exact htop
    · cases hmem

/-- Whatever the path, the top-level targets, the bounds and the source: if a search finds a target,
then a chain of different roles leads from the top-level targets to the role that answers, no longer
than the bound on depth. Each of them delegates the path to the next one, by a delegation of its own
metadata as this search consulted it, that covers the path and that no terminating one precedes, and
the source was asked for the next one on its behalf. The target is what the last one lists for the
path, and no other metadata that was consulted lists it. -/
theorem run_found_narrows (p : Primitives) (bounds : SearchBounds) (source : DelegationSource σ)
    (path : String) (top : Targets) (s : σ) {role : String} {target : Target}
    (h : (run p bounds source path top s).1 = .ok (.found role target)) :
    ∃ chain targets, Narrows p bounds path top
      (callsOf (fun source => run p bounds source path top) source s)
      role target chain targets := by
  rw [run_recorded, dropCalls] at h
  rw [callsOf]
  unfold run at h ⊢
  cases htop : top.target? path with
  | some listed =>
    rw [htop] at h
    cases h
    refine ⟨[Role.targets.name], top, ⟨rfl, rfl, List.nodup_singleton _, .singleton _⟩, by simp,
      .inl ⟨rfl, rfl⟩, htop, ?_⟩
    rintro name others (⟨hname, hothers⟩ | ⟨call, hmem, -⟩) -
    · exact ⟨hname, hothers⟩
    · cases hmem
  | none =>
    rw [htop] at h
    simp only at h ⊢
    exact (searching_top htop).follow (Prod.ext h rfl)

/-! ### A path that is handed down twice -/

namespace Twice

/-- A delegation to a role of all paths that a pattern covers. -/
def delegation (name pattern : String) : Delegation where
  name
  authority := ⟨["1"], 1, UInt64.zero_lt_one⟩
  paths := .patterns [pattern]
  terminating := false

/-- Targets metadata that lists some paths and delegates by some delegations. -/
def metadata (listed : List String) (delegated : List Delegation) : Targets where
  specVersion := "1"
  version := 1
  expires := default
  targets := .ofList (listed.map fun path => (path, ⟨1, .empty, none⟩))
  delegations := some ⟨.empty, delegated⟩

theorem delegated_metadata {listed : List String} {delegated : List Delegation} :
    (metadata listed delegated).delegated = delegated := rfl

/-- The top-level role delegates `p` to `x`, which has nothing to say about it, and then to `a`. -/
def topLevel : Targets := metadata [] [delegation "x" "*", delegation "a" "*"]

/-- The role `a` delegates `p` to `b`, and all other roles list it. -/
def answers : DelegationSource Unit := fun asked _ s =>
  let answer := match asked.name with
    | "x" => metadata ["q"] []
    | "a" => metadata [] [delegation "b" "p"]
    | _ => metadata ["p"] []
  (.ok ⟨⟨answer, [], .null, []⟩, []⟩, s)

/-- The entry of `b` for `p`. -/
def listed : Target where
  length := 1
  hashes := .empty
  custom := none
  path := "p"

end Twice

open Twice in
/-- The path is handed down from the top-level targets to `a`, and from there to `b`. -/
theorem run_found_narrows_twice :
    (run .transparent ⟨4, 2⟩ answers "p" topLevel ()).1 = .ok (.found "b" listed) ∧
      ∃ chain targets, Narrows .transparent ⟨4, 2⟩ "p" topLevel
        (callsOf (fun source => run .transparent ⟨4, 2⟩ source "p" topLevel) answers ()) "b" listed
        chain targets := by
  have hfound : (run .transparent ⟨4, 2⟩ answers "p" topLevel ()).1 = .ok (.found "b" listed) := by
    have hall : Glob.covers "*" "p" = true := by decide +kernel
    have hself : Glob.covers "p" "p" = true := by decide +kernel
    have hnothing : ∀ delegated, (metadata [] delegated).target? "p" = none := fun _ => rfl
    have hother : (metadata ["q"] []).target? "p" = none := rfl
    have hlisted : (metadata ["p"] []).target? "p" = some listed := rfl
    simp [run, follow, push, candidates, PathSet.covers, hall, hself, answers, Verified.payload,
      topLevel, delegation, delegated_metadata, hnothing, hother, hlisted, Role.name]
  exact ⟨hfound, run_found_narrows .transparent ⟨4, 2⟩ answers "p" topLevel () hfound⟩

end SecureUpdate.Search
