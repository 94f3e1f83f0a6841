import SecureUpdate.Proofs.Delegation.Narrowing

/-!
What it does to raise the bounds of a search. The bounds are looked at before a role is asked for,
and have no other effect: two searches within different bounds go alike until one of them stops at a
bound. So wider bounds never change which role answers for a path, if any does within the narrower
ones.

Main statement: `run_extends`.
-/

namespace SecureUpdate.Search

variable {σ : Type} {p : Primitives} {bounds wider : SearchBounds} {source : DelegationSource σ}
  {path : String}

/-- Whether a search ended at a bound. -/
def Bounded (result : Except TrustError SearchOutcome) : Prop :=
  ∃ role depth visited, result = .ok (.boundExceeded role depth visited)

/-- A search only adds to the calls made before it. -/
theorem prefix_follow (visited : List String) (pending : List Pending) (s : σ × List Call) :
    s.2 <+: (follow p bounds (recorded source) path visited pending s).2.2 := by
  obtain ⟨more, -, hcalls⟩ := follow_notes (p := p) (recorded_notes source) visited pending s.1 s.2
  rw [hcalls]
  exact List.prefix_append _ _

/-- Whether the results of two searches are the same, with the same calls, unless the first search
ended at a bound, with calls with which those of the second one begin. -/
def Extended (narrow wide : Except TrustError SearchOutcome × σ × List Call) : Prop :=
  wide = narrow ∨ (Bounded narrow.1 ∧ narrow.2.2 <+: wide.2.2)

section Wider

variable (hvisited : bounds.maxVisited ≤ wider.maxVisited)
  (hdepth : bounds.maxDepth ≤ wider.maxDepth)
include hvisited hdepth

/-- Within wider bounds a search goes alike to its end, or to where it stops at a bound. -/
theorem follow_extended (visited : List String) (pending : List Pending) (s : σ × List Call) :
    Extended (follow p bounds (recorded source) path visited pending s)
      (follow p wider (recorded source) path visited pending s) := by
  have hwider {visited : List String} {depth : Nat}
      (hbound : ¬ (bounds.maxVisited ≤ visited.length ∨ bounds.maxDepth < depth)) :
      ¬ (wider.maxVisited ≤ visited.length ∨ wider.maxDepth < depth) := by omega
  fun_induction follow p bounds (recorded source) path visited pending s with
  | case1 visited s => exact .inl (by rw [follow])
  | case2 visited s next rest name hold ih =>
    rw [follow_visited (by simpa using hold)]
    exact ih
  | case3 visited s next rest name hnew hbound =>
    exact .inr ⟨⟨_, _, _, rfl⟩, prefix_follow _ _ _⟩
  | case4 visited s next rest name hnew hbound e s' hsource htransport
  | case5 visited s next rest name hnew hbound e s' hsource htransport =>
    rw [follow_asked (by simpa using hnew) (hwider hbound)]
    exact .inl (by simp [hsource, htransport, name])
  | case6 visited s next rest name hnew hbound found s' hsource target htarget =>
    rw [follow_asked (by simpa using hnew) (hwider hbound)]
    exact .inl (by simp [hsource, htarget, name])
  | case7 visited s next rest name hnew hbound found s' hsource htarget ih =>
    rw [follow_asked (by simpa using hnew) (hwider hbound)]
    simp only [hsource, htarget]
    exact ih

theorem run_extended (top : Targets) (s : σ × List Call) :
    Extended (run p bounds (recorded source) path top s)
      (run p wider (recorded source) path top s) := by
  unfold run
  cases top.target? path with
  | some target => exact .inl rfl
  | none => exact follow_extended hvisited hdepth _ _ s

/-- Whatever the path, the top-level targets and the source, from the same state of the source: if a
search ends in anything but a bound, then within wider bounds it makes the same calls to the source,
with the same answers, and comes to the same result and state; and if it ends at a bound, then
within wider bounds it begins with the same calls. -/
theorem run_extends (p : Primitives) (source : DelegationSource σ) (path : String) (top : Targets)
    (s : σ) :
    let calls (bounds : SearchBounds) :=
      callsOf (fun source => run p bounds source path top) source s
    (¬ Bounded (run p bounds source path top s).1 →
      run p wider source path top s = run p bounds source path top s ∧
        calls wider = calls bounds) ∧
    (Bounded (run p bounds source path top s).1 → calls bounds <+: calls wider) := by
  intro calls
  rw [run_recorded p bounds, run_recorded p wider]
  rcases run_extended hvisited hdepth top (s, []) with hsame | ⟨hbounded, hprefix⟩
  · have hcalls : calls wider = calls bounds := congrArg (·.2.2) hsame
    exact ⟨fun _ => ⟨congrArg dropCalls hsame, hcalls⟩, fun _ => hcalls ▸ List.prefix_refl _⟩
  · exact ⟨absurd hbounded, fun _ => hprefix⟩

end Wider

open Twice in
/-- The search that finds the path two levels down goes alike within wider bounds; the one that may
go down one level only makes the calls that the others begin with. -/
theorem run_extends_twice :
    let run (bounds : SearchBounds) := run .transparent bounds answers "p" topLevel ()
    let calls (bounds : SearchBounds) :=
      callsOf (fun source => Search.run .transparent bounds source "p" topLevel) answers ()
    ((run ⟨4, 2⟩).1 = .ok (.found "b" listed) ∧ run ⟨9, 9⟩ = run ⟨4, 2⟩ ∧
      calls ⟨9, 9⟩ = calls ⟨4, 2⟩) ∧
    (run ⟨4, 1⟩).1 = .ok (.boundExceeded "b" 2 3) ∧ calls ⟨4, 1⟩ <+: calls ⟨9, 9⟩ := by
  intro run calls
  have hall : Glob.covers "*" "p" = true := by decide +kernel
  have hself : Glob.covers "p" "p" = true := by decide +kernel
  have hnothing : ∀ delegated, (metadata [] delegated).target? "p" = none := fun _ => rfl
  have hother : (metadata ["q"] []).target? "p" = none := rfl
  have hlisted : (metadata ["p"] []).target? "p" = some listed := rfl
  have hends : (run ⟨4, 2⟩).1 = .ok (.found "b" listed) ∧
      (run ⟨4, 1⟩).1 = .ok (.boundExceeded "b" 2 3) := by
    simp [run, Search.run, follow, push, candidates, PathSet.covers, hall, hself, answers,
      Verified.payload, topLevel, delegation, delegated_metadata, hnothing, hother, hlisted,
      Role.name]
  obtain ⟨hfound, hstopped⟩ := hends
  have hunbounded : ¬ Bounded (run ⟨4, 2⟩).1 := by
    rintro ⟨role, depth, visited, hbounded⟩
    cases hfound.symm.trans hbounded
  have hwide : run ⟨9, 9⟩ = run ⟨4, 2⟩ ∧ calls ⟨9, 9⟩ = calls ⟨4, 2⟩ :=
    (run_extends (by decide) (by decide) .transparent answers "p" topLevel ()).1 hunbounded
  have hprefix : calls ⟨4, 1⟩ <+: calls ⟨9, 9⟩ :=
    (run_extends (by decide) (by decide) .transparent answers "p" topLevel ()).2
      ⟨_, _, _, hstopped⟩
  exact ⟨⟨hfound, hwide⟩, hstopped, hprefix⟩

end SecureUpdate.Search
