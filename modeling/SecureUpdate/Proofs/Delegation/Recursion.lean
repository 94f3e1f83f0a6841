import SecureUpdate.Proofs.Delegation.Calls

/-!
What a search through delegations means. The search keeps a list of what is pending; the recursion
here keeps none. It visits a role, goes through the delegations of the role in order, and visits
each role that covers the path and that it has not visited, before it goes on with the next
delegation. A terminating delegation ends the whole recursion once what it delegates has been
visited. What is pending is what the recursion still has to do at each level, so the two do the
same: they come to the same outcome, and on the way ask the source for the same roles in the same
order.

Main statement: `run_eq_recurse`.
-/

namespace SecureUpdate.Search

variable {σ : Type}

/-! ### The recursion -/

/-- What a part of the recursion comes to: it ends the whole, or the rest goes on after the roles
visited. -/
inductive Progress where
  | ended (result : Except TrustError SearchOutcome)
  | goesOn (visited : List String)

section Recursion

variable (p : Primitives) (bounds : SearchBounds) (source : DelegationSource σ) (path : String)

mutual

/-- Visits a role, at some depth below the top-level one. -/
def visit (name : String) (targets : Targets) (depth : Nat) (visited : List String) (s : σ) :
    Progress × σ :=
  match targets.target? path with
  | some target => (.ended (.ok (.found name target)), s)
  | none => goThrough name targets.delegated depth visited s
termination_by (bounds.maxDepth - depth, targets.delegated.length + 1)

/-- Goes through delegations of a role at some depth. -/
def goThrough (name : String) (ds : List Delegation) (depth : Nat) (visited : List String) (s : σ) :
    Progress × σ :=
  match ds with
  | [] => (.goesOn visited, s)
  | d :: ds =>
    match enter name d depth visited s with
    | (.ended result, s) => (.ended result, s)
    | (.goesOn visited, s) =>
      if d.terminating then (.ended (.ok (.exhausted visited.length)), s)
      else goThrough name ds depth visited s
termination_by (bounds.maxDepth - depth, ds.length)

/-- Visits what one delegation of a role at some depth delegates to, if it covers the path and has
not been visited. -/
def enter (name : String) (d : Delegation) (depth : Nat) (visited : List String) (s : σ) :
    Progress × σ :=
  if d.paths.covers p path = true ∧ d.name ∉ visited then
    if h : bounds.maxVisited ≤ visited.length ∨ bounds.maxDepth < depth + 1 then
      (.ended (.ok (.boundExceeded d.name (depth + 1) visited.length)), s)
    else
      match source d name s with
      | (.error e, s) =>
        (.ended (if e.isTransport then .ok (.fetchFailed d.name e) else .error e), s)
      | (.ok found, s) => visit d.name found.payload (depth + 1) (d.name :: visited) s
  else (.goesOn visited, s)
termination_by (bounds.maxDepth - depth, 0)

end

/-- What is left once the recursion has come back: nothing lists the path. -/
def conclude : Progress × σ → Except TrustError SearchOutcome × σ
  | (.ended result, s) => (result, s)
  | (.goesOn visited, s) => (.ok (.exhausted visited.length), s)

/-- Searches the top-level targets and their delegations for a path, by recursion. -/
def recurse (top : Targets) (s : σ) : Except TrustError SearchOutcome × σ :=
  conclude (visit p bounds source path Role.targets.name top 0 [Role.targets.name] s)

end Recursion

/-! ### What is pending -/

variable {p : Primitives} {bounds : SearchBounds} {source : DelegationSource σ} {path name : String}

/-- What is pending once some delegations of a role have been gone through for those that cover the
path. -/
def queue (p : Primitives) (path name : String) (ds : List Delegation) (depth : Nat)
    (pending : List Pending) : List Pending :=
  let (covering, ended) := candidates p path ds
  covering.map (fun d => ⟨d, name, depth⟩) ++ if ended then [] else pending

theorem push_eq_queue (targets : Targets) (depth : Nat) (pending : List Pending) :
    push p path name targets depth pending = queue p path name targets.delegated depth pending :=
  rfl

theorem queue_cons (d : Delegation) (ds : List Delegation) (depth : Nat) (pending : List Pending) :
    queue p path name (d :: ds) depth pending =
      (if d.paths.covers p path then [⟨d, name, depth⟩] else []) ++
        if d.terminating then [] else queue p path name ds depth pending := by
  simp only [queue, candidates]
  split <;> split <;> simp

/-- Follows what is pending after a part of the recursion, unless that part ended the whole. -/
def resume (p : Primitives) (bounds : SearchBounds) (source : DelegationSource σ) (path : String)
    (pending : List Pending) : Progress × σ → Except TrustError SearchOutcome × σ
  | (.ended result, s) => (result, s)
  | (.goesOn visited, s) => follow p bounds source path visited pending s

theorem resume_nil (r : Progress × σ) : resume p bounds source path [] r = conclude r := by
  obtain ⟨_ | visited, s⟩ := r
  · rfl
  · rw [resume, follow, conclude]

/-- To follow the delegations of roles below some depth is to go through them. -/
def Unrolls (p : Primitives) (bounds : SearchBounds) (source : DelegationSource σ) (path : String)
    (depth : Nat) : Prop :=
  ∀ name ds visited pending s,
    follow p bounds source path visited (queue p path name ds (depth + 1) pending) s =
      resume p bounds source path pending (goThrough p bounds source path name ds depth visited s)

/-- To follow one delegation that covers the path is to enter it. -/
theorem follow_cons {depth : Nat} (hdeeper : depth < bounds.maxDepth →
      Unrolls p bounds source path (depth + 1)) {d : Delegation}
    (hcovers : d.paths.covers p path = true) (visited : List String) (pending : List Pending)
    (s : σ) :
    follow p bounds source path visited (⟨d, name, depth + 1⟩ :: pending) s =
      resume p bounds source path pending (enter p bounds source path name d depth visited s) := by
  rw [enter]
  by_cases hvisited : d.name ∈ visited
  · rw [follow_visited hvisited, if_neg fun h => h.2 hvisited]
    rfl
  · rw [if_pos ⟨hcovers, hvisited⟩]
    by_cases hbound : bounds.maxVisited ≤ visited.length ∨ bounds.maxDepth < depth + 1
    · rw [follow_bounded hvisited hbound, dif_pos hbound]
      rfl
    · have hdepth : depth < bounds.maxDepth := by omega
      rw [follow_asked hvisited hbound, dif_neg hbound]
      simp only
      cases source d name s with
      | mk answer s =>
        cases answer with
        | error e => rfl
        | ok found =>
          simp only [visit]
          cases found.payload.target? path with
          | some target => rfl
          | none =>
            simp only [push_eq_queue]
            exact hdeeper hdepth _ _ _ _ _

/-- The pending delegations of a role are what the recursion goes through, one after another; those
of deeper roles are followed before the next one. -/
theorem unrolls (levels : Nat) : ∀ depth, bounds.maxDepth - depth = levels →
    Unrolls p bounds source path depth := by
  induction levels using Nat.strongRecOn with
  | ind levels ih =>
    intro depth hlevels name ds
    have hdeeper : depth < bounds.maxDepth → Unrolls p bounds source path (depth + 1) :=
      fun hdepth => ih (bounds.maxDepth - (depth + 1)) (by omega) (depth + 1) rfl
    induction ds with
    | nil =>
      intro visited pending s
      rw [goThrough]
      rfl
    | cons d ds ihds =>
      intro visited pending s
      -- what is pending after this delegation
      have hrest (progress : Progress × σ) :
          resume p bounds source path
              (if d.terminating then [] else queue p path name ds (depth + 1) pending) progress =
            resume p bounds source path pending (match progress with
              | (.ended result, s) => (.ended result, s)
              | (.goesOn visited, s) =>
                if d.terminating then (.ended (.ok (.exhausted visited.length)), s)
                else goThrough p bounds source path name ds depth visited s) := by
        obtain ⟨_ | visited, s⟩ := progress
        · rfl
        · simp only [resume]
          split
          · rw [follow]
          · exact ihds visited pending s
      rw [queue_cons, goThrough]
      by_cases hcovers : d.paths.covers p path = true
      · rw [if_pos hcovers, List.singleton_append, follow_cons hdeeper hcovers]
        exact hrest _
      · have hskip : enter p bounds source path name d depth visited s = (.goesOn visited, s) := by
          rw [enter, if_neg fun h => hcovers h.1]
        rw [if_neg hcovers, List.nil_append, hskip]
        exact hrest (.goesOn visited, s)

/-- Whatever the path, the top-level targets, the bounds, and the source, which may fail and may act
on a state of its own: the search comes to the same outcome as the recursion, with the same state in
the end, and makes the same calls to the source in the same order. -/
theorem run_eq_recurse (p : Primitives) (bounds : SearchBounds) (source : DelegationSource σ)
    (path : String) (top : Targets) (s : σ) :
    run p bounds source path top s = recurse p bounds source path top s ∧
      callsOf (fun source => run p bounds source path top) source s =
        callsOf (fun source => recurse p bounds source path top) source s := by
  have hrun {τ : Type} (source : DelegationSource τ) (s : τ) :
      run p bounds source path top s = recurse p bounds source path top s := by
    rw [run, recurse, visit]
    cases top.target? path with
    | some target => rfl
    | none =>
      simp only [push_eq_queue]
      rw [unrolls _ 0 rfl, resume_nil]
  exact ⟨hrun source s, by simp only [callsOf, hrun]⟩

end SecureUpdate.Search
