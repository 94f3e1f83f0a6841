import SecureUpdate.Delegation.Search

/-!
The calls that a search makes. A source can be made to take notes of what it does, such as a list of
the calls made to it together with its answers; a search that is given such a source does what it
does otherwise, and the notes are those of the calls that it makes.

Main statements: `run_notes`, `run_recorded`, `calls_induction`.
-/

namespace SecureUpdate

/-- Whether one step does to a state with notes what another does to the state, and adds at most so
many notes. -/
def Notes {σ τ α β : Type} (most : Nat) (note : σ → List β → τ) (a : σ → α × σ) (b : τ → α × τ) :
    Prop :=
  ∀ s notes, ∃ more, more.length ≤ most ∧
    b (note s notes) = ((a s).1, note (a s).2 (notes ++ more))

namespace Search

variable {σ τ β : Type}

/-- A call to a source: the delegation that it is asked to follow, on whose behalf, and its answer.
-/
structure Call where
  delegation : Delegation
  delegator : String
  answer : Except TrustError (Verified Targets)

/-- The source that gives the same answers and keeps a list of the calls made to it. -/
def recorded (source : DelegationSource σ) : DelegationSource (σ × List Call) :=
  fun delegation delegator s =>
    let (answer, s₁) := source delegation delegator s.1
    (answer, s₁, s.2 ++ [⟨delegation, delegator, answer⟩])

/-- A result without the calls that were kept. -/
def dropCalls {α : Type} (r : α × σ × List Call) : α × σ := (r.1, r.2.1)

/-- The calls that a search makes to a source, in order. -/
def callsOf (search : DelegationSource (σ × List Call) → σ × List Call →
    Except TrustError SearchOutcome × σ × List Call)
    (source : DelegationSource σ) (s : σ) : List Call :=
  (search (recorded source) (s, [])).2.2

/-! ### The steps of a search -/

variable {p : Primitives} {bounds : SearchBounds} {source : DelegationSource σ} {path : String}
  {visited : List String} {next : Pending} {rest : List Pending} {s : σ}

/-- A role that has been visited is passed over. -/
theorem follow_visited (h : next.delegation.name ∈ visited) :
    follow p bounds source path visited (next :: rest) s =
      follow p bounds source path visited rest s := by
  rw [follow]
  simp [h]

/-- A role that would exceed a bound ends the search. -/
theorem follow_bounded (h : next.delegation.name ∉ visited)
    (hbound : bounds.maxVisited ≤ visited.length ∨ bounds.maxDepth < next.depth) :
    follow p bounds source path visited (next :: rest) s =
      (.ok (.boundExceeded next.delegation.name next.depth visited.length), s) := by
  rw [follow]
  simp [h, hbound]

/-- The source is asked for any other role. -/
theorem follow_asked (h : next.delegation.name ∉ visited)
    (hbound : ¬ (bounds.maxVisited ≤ visited.length ∨ bounds.maxDepth < next.depth)) :
    follow p bounds source path visited (next :: rest) s =
      match source next.delegation next.delegator s with
      | (.error e, s) =>
        (if e.isTransport then .ok (.fetchFailed next.delegation.name e) else .error e, s)
      | (.ok found, s) =>
        match found.payload.target? path with
        | some target => (.ok (.found next.delegation.name target), s)
        | none =>
          follow p bounds source path (next.delegation.name :: visited)
            (push p path next.delegation.name found.payload (next.depth + 1) rest) s := by
  rw [follow]
  simp only [List.contains_eq_mem, h, decide_false, Bool.false_eq_true, if_false, hbound]
  cases source next.delegation next.delegator s with
  | mk answer s =>
    cases answer with
    | error e =>
      simp only
      split <;> rfl
    | ok found => rfl

/-! ### Notes -/

section Notes

variable {most : Nat} {note : σ → List β → τ} {noting : DelegationSource τ}

/-- What is noted along a search is what its source notes, once for each role that is visited. -/
theorem follow_notes
    (h : ∀ delegation delegator, Notes most note (source delegation delegator)
      (noting delegation delegator)) (visited : List String) (pending : List Pending) :
    Notes ((bounds.maxVisited - visited.length) * most) note
      (follow p bounds source path visited pending)
      (follow p bounds noting path visited pending) := by
  intro s notes
  -- one call takes its share of what may be noted while there are roles left to visit
  have hshare {visited : List String} {depth : Nat}
      (hbound : ¬ (bounds.maxVisited ≤ visited.length ∨ bounds.maxDepth < depth)) :
      most + (bounds.maxVisited - (visited.length + 1)) * most =
        (bounds.maxVisited - visited.length) * most := by
    obtain ⟨left, hleft⟩ : ∃ left, bounds.maxVisited - visited.length = left + 1 :=
      ⟨bounds.maxVisited - visited.length - 1, by omega⟩
    rw [← Nat.sub_sub, hleft, Nat.add_sub_cancel, Nat.succ_mul, Nat.add_comm]
  fun_induction follow p bounds source path visited pending s generalizing notes with
  | case1 visited s => exact ⟨[], Nat.zero_le _, by rw [follow, List.append_nil]⟩
  | case2 visited s next rest name hvisited ih =>
    rw [follow_visited (by simpa using hvisited)]
    exact ih notes
  | case3 visited s next rest name hvisited hbound =>
    rw [follow_bounded (by simpa using hvisited) hbound]
    exact ⟨[], Nat.zero_le _, by rw [List.append_nil]⟩
  | case4 visited s next rest name hvisited hbound e s' hsource htransport
  | case5 visited s next rest name hvisited hbound e s' hsource htransport =>
    obtain ⟨more, hmore, hnoted⟩ := h next.delegation next.delegator s notes
    have hleft := hshare hbound
    rw [follow_asked (by simpa using hvisited) hbound, hnoted, hsource]
    exact ⟨more, by omega, by simp [htransport, name]⟩
  | case6 visited s next rest name hvisited hbound found s' hsource target htarget =>
    obtain ⟨more, hmore, hnoted⟩ := h next.delegation next.delegator s notes
    have hleft := hshare hbound
    rw [follow_asked (by simpa using hvisited) hbound, hnoted, hsource]
    exact ⟨more, by omega, by simp [htarget, name]⟩
  | case7 visited s next rest name hvisited hbound found s' hsource htarget ih =>
    obtain ⟨more, hmore, hnoted⟩ := h next.delegation next.delegator s notes
    obtain ⟨others, hothers, hrest⟩ := ih (notes ++ more)
    have hleft := hshare hbound
    rw [List.length_cons] at hothers
    rw [follow_asked (by simpa using hvisited) hbound, hnoted, hsource]
    refine ⟨more ++ others, by rw [List.length_append]; omega, ?_⟩
    simp only [htarget, hrest, List.append_assoc, name]

/-- A search asks for fewer roles than it may visit: the top-level role counts as visited. -/
theorem run_notes
    (h : ∀ delegation delegator, Notes most note (source delegation delegator)
      (noting delegation delegator)) (p : Primitives) (bounds : SearchBounds) (path : String)
    (top : Targets) :
    Notes ((bounds.maxVisited - 1) * most) note (run p bounds source path top)
      (run p bounds noting path top) := by
  unfold run
  cases top.target? path with
  | some target => exact fun s notes => ⟨[], Nat.zero_le _, by rw [List.append_nil]⟩
  | none =>
    exact follow_notes h [Role.targets.name] (push p path Role.targets.name top 1 [])

end Notes

/-! ### Recorded calls -/

/-- A source that keeps a list of the calls notes each of them. -/
theorem recorded_notes (source : DelegationSource σ) (delegation : Delegation)
    (delegator : String) :
    Notes 1 Prod.mk (source delegation delegator) (recorded source delegation delegator) :=
  fun _ _ => ⟨[_], Nat.le_refl _, rfl⟩

/-- To keep the calls changes neither the outcome of a search nor what the source does. -/
theorem run_recorded (p : Primitives) (bounds : SearchBounds) (source : DelegationSource σ)
    (path : String) (top : Targets) (s : σ) :
    run p bounds source path top s =
      dropCalls (run p bounds (recorded source) path top (s, [])) := by
  obtain ⟨calls, -, hcalls⟩ := run_notes (recorded_notes source) p bounds path top s []
  rw [hcalls, dropCalls]

/-! ### Invariants -/

section Invariant

variable {I : List String → σ → List Call → Prop}
  (hask : ∀ visited s calls (delegation : Delegation) delegator, delegation.name ∉ visited →
    I visited s calls → I (delegation.name :: visited) (source delegation delegator s).2
      (calls ++ [⟨delegation, delegator, (source delegation delegator s).1⟩]))
include hask

theorem follow_induction (visited : List String) (pending : List Pending) (s : σ × List Call)
    (h : I visited s.1 s.2) :
    ∃ visited', I visited' (follow p bounds (recorded source) path visited pending s).2.1
      (follow p bounds (recorded source) path visited pending s).2.2 := by
  have hrecorded {visited : List String} {next : Pending} {s s' : σ × List Call}
      {answer : Except TrustError (Verified Targets)}
      (hnew : ¬ visited.contains next.delegation.name = true) (h : I visited s.1 s.2)
      (hsource : recorded source next.delegation next.delegator s = (answer, s')) :
      I (next.delegation.name :: visited) s'.1 s'.2 := by
    cases hsource
    exact hask visited s.1 s.2 next.delegation next.delegator (by simpa using hnew) h
  fun_induction follow p bounds (recorded source) path visited pending s with
  | case1 visited s => exact ⟨visited, h⟩
  | case2 visited s next rest name hold ih => exact ih h
  | case3 visited s next rest name hnew hbound => exact ⟨visited, h⟩
  | case4 visited s next rest name hnew hbound e s' hsource
  | case5 visited s next rest name hnew hbound e s' hsource
  | case6 visited s next rest name hnew hbound found s' hsource =>
    exact ⟨_, hrecorded hnew h hsource⟩
  | case7 visited s next rest name hnew hbound found s' hsource htarget ih =>
    exact ih (hrecorded hnew h hsource)

/-- What holds before a search of the roles visited, the state of the source and the calls, and goes
on to hold whenever the source is asked for another role, holds once the search has ended. -/
theorem calls_induction (p : Primitives) (bounds : SearchBounds) (path : String) (top : Targets)
    {s : σ} (h : I [Role.targets.name] s []) :
    ∃ visited, I visited (run p bounds source path top s).2
      (callsOf (fun source => run p bounds source path top) source s) := by
  rw [run_recorded]
  unfold callsOf run
  cases top.target? path with
  | some target => exact ⟨_, h⟩
  | none => exact follow_induction hask _ _ (s, []) h

end Invariant

end Search

end SecureUpdate
