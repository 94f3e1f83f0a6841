import SecureUpdate.Trust.State

/-!
The search for the role that is authoritative over a path. It starts at the top-level targets and
follows delegations that cover the path, depth first and in order of priority, visiting each role at
most once. A terminating delegation ends the scan of its siblings and discards everything of lower
priority. Two bounds limit the number of roles visited and the length of a chain of delegations.
-/

namespace SecureUpdate

/-- How a search ends. -/
inductive SearchOutcome where
  /-- The role lists the path. -/
  | found (role : String) (target : Target)
  /-- No role that may be consulted lists the path. -/
  | exhausted (visited : Nat)
  /-- Visiting the role would exceed a bound. -/
  | boundExceeded (role : String) (depth visited : Nat)
  /-- The metadata of the role could not be had. -/
  | fetchFailed (role : String) (error : TrustError)

/-- The bounds of a search. The top-level role counts as visited, at depth zero. -/
structure SearchBounds where
  maxVisited : Nat
  maxDepth : Nat
deriving DecidableEq

/-- Supplies the metadata of a delegated role on behalf of a delegator, or the reason why not. It
acts on a state `σ` of its own. -/
abbrev DelegationSource (σ : Type) :=
  Delegation → String → σ → Except TrustError (Verified Targets) × σ

namespace Search

/-- A delegation that is still to be followed. -/
structure Pending where
  delegation : Delegation
  delegator : String
  depth : Nat

/-- The delegations that cover the path, up to and including the first terminating one, and whether
there is a terminating one. -/
def candidates (p : Primitives) (path : String) : List Delegation → List Delegation × Bool
  | [] => ([], false)
  | d :: ds =>
    let here := if d.paths.covers p path then [d] else []
    if d.terminating then (here, true)
    else
      let (rest, ended) := candidates p path ds
      (here ++ rest, ended)

/-- What is pending, highest priority first, once the metadata of `delegator` has been consulted. -/
def push (p : Primitives) (path delegator : String) (targets : Targets) (depth : Nat)
    (pending : List Pending) : List Pending :=
  let (covering, ended) := candidates p path targets.delegated
  covering.map (fun d => ⟨d, delegator, depth⟩) ++ if ended then [] else pending

/-- Follows what is pending, after the roles `visited`. -/
def follow {σ : Type} (p : Primitives) (bounds : SearchBounds) (source : DelegationSource σ)
    (path : String) (visited : List String) (pending : List Pending) (s : σ) :
    Except TrustError SearchOutcome × σ :=
  match pending with
  | [] => (.ok (.exhausted visited.length), s)
  | next :: rest =>
    let name := next.delegation.name
    if visited.contains name then follow p bounds source path visited rest s
    else if bounds.maxVisited ≤ visited.length ∨ bounds.maxDepth < next.depth then
      (.ok (.boundExceeded name next.depth visited.length), s)
    else
      match source next.delegation next.delegator s with
      | (.error e, s) => if e.isTransport then (.ok (.fetchFailed name e), s) else (.error e, s)
      | (.ok found, s) =>
        match found.payload.target? path with
        | some target => (.ok (.found name target), s)
        | none =>
          follow p bounds source path (name :: visited)
            (push p path name found.payload (next.depth + 1) rest) s
termination_by (bounds.maxVisited - visited.length, pending.length)

/-- Searches the top-level targets and their delegations for a path. -/
def run {σ : Type} (p : Primitives) (bounds : SearchBounds) (source : DelegationSource σ)
    (path : String) (top : Targets) (s : σ) : Except TrustError SearchOutcome × σ :=
  match top.target? path with
  | some target => (.ok (.found Role.targets.name target), s)
  | none =>
    follow p bounds source path [Role.targets.name]
      (push p path Role.targets.name top 1 []) s

end Search

end SecureUpdate
