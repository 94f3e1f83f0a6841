import SecureUpdate.Proofs.Trust.Run
import SecureUpdate.Trust.InPlace

/-!
Acceptance in place comes to what acceptance says. Each operation makes all its checks before it
writes anything, so it either ends with what was accepted, or it fails likewise and has changed
nothing. One rule for each thing that an operation does (it reads, checks, refuses and writes)
carries this from its parts to the whole.

Main statement: `attempt_performs`.
-/

namespace SecureUpdate.Trust

variable {p : Primitives} {t t' : Trust} {bs : Bytes} {origin : Origin} {role delegator : String}
  {α : Type}

/-! ### Changes in place -/

namespace Change

theorem bind_of_ok {c : Change α} {f : α → Change Unit} {a : α} (h : c t = (.ok a, t')) :
    (c >>= f) t = f a t' := by
  show ExceptT.bindCont f (c t).1 (c t).2 = _
  rw [h]
  rfl

/-- Whether a change in place comes to what acceptance says: it ends with what was accepted, or it
fails likewise and has changed nothing. -/
def Performs (c : Change Unit) (x : Except TrustError Trust) (t : Trust) : Prop :=
  c t = match x with
    | .ok t' => (.ok (), t')
    | .error e => (.error e, t)

namespace Performs

variable {c c' : Change Unit} {x x' : Except TrustError Trust}

theorem read {f : Trust → Change Unit} (h : Performs (f t) x t) : Performs (get >>= f) x t := h

/-- A check, which either stops the change or leaves all to what follows. -/
theorem check {y : Except TrustError α} {f : α → Change Unit} {g : α → Except TrustError Trust}
    (h : ∀ a, Performs (f a) (g a) t) : Performs ((liftM y : Change α) >>= f) (y >>= g) t := by
  cases y with
  | ok a => exact h a
  | error e => rfl

theorem refuse {e : TrustError} : Performs (throw e) (throw e) t := rfl

theorem refuse_bind {e : TrustError} {f : α → Change Unit} {g : α → Except TrustError Trust} :
    Performs (throw e >>= f) (throw e >>= g) t := rfl

theorem ite {q : Prop} [Decidable q] (h : Performs c x t) (h' : Performs c' x' t) :
    Performs (if q then c else c') (if q then x else x') t := by
  split
  · exact h
  · exact h'

/-- The writes, after which nothing fails. -/
theorem write (h : c t = (.ok (), t')) : Performs c (pure t') t := h

end Performs

end Change

open Change Change.Performs

theorem loadRoot_performs : Performs (InPlace.loadRoot p bs) (t.loadRoot p bs) t := by
  unfold InPlace.loadRoot loadRoot
  exact .read (.ite .refuse_bind (.check fun m => .check fun _ => .write rfl))

theorem forgetRotated_eq (t : Trust) (previous next : Root) :
    InPlace.forgetRotated previous next t = (.ok (), t.forgetRotated previous next) := by
  unfold InPlace.forgetRotated forgetRotated
  by_cases htimestamp : previous.signers .timestamp = next.signers .timestamp <;>
    by_cases hsnapshot : previous.signers .snapshot = next.signers .snapshot <;>
    by_cases htargets : previous.signers .targets = next.signers .targets <;>
    simp only [htimestamp, hsnapshot, htargets, ne_eq, not_true_eq_false, not_false_eq_true,
      decide_false, decide_true, Bool.false_eq_true, if_false, if_true] <;> rfl

theorem updateRoot_performs : Performs (InPlace.updateRoot p bs) (t.updateRoot p bs) t := by
  unfold InPlace.updateRoot updateRoot
  refine .read (.check fun held => .check fun m => .ite .refuse_bind (.ite .refuse_bind ?_))
  exact .check fun _ => .check fun _ => .write (bind_of_ok (forgetRotated_eq t _ _))

theorem updateTimestamp_performs :
    Performs (InPlace.updateTimestamp p bs origin) (t.updateTimestamp p bs origin) t := by
  unfold InPlace.updateTimestamp updateTimestamp
  refine .read (.check fun root => .check fun m => ?_)
  cases t.timestamp with
  | none => exact .ite (.check fun _ => .check fun _ => .write rfl) (.check fun _ => .write rfl)
  | some held =>
    refine .check fun _ => .check fun old => .check fun new => .check fun _ => ?_
    exact .ite (.check fun _ => .check fun _ => .write rfl) (.check fun _ => .write rfl)

theorem updateSnapshot_performs :
    Performs (InPlace.updateSnapshot p bs origin) (t.updateSnapshot p bs origin) t := by
  unfold InPlace.updateSnapshot updateSnapshot
  refine .read (.check fun root => ?_)
  cases htimestamp : t.timestamp with
  | none => exact .refuse
  | some timestamp =>
    refine .check fun m => .check fun pin => .check fun _ => ?_
    have hwrite : Performs (modify ({ · with snapshot := some ⟨m, bs⟩ }) >>= fun _ =>
          modify ({ · with delegated := .empty }))
        (pure { t with timestamp := some timestamp, snapshot := some ⟨m, bs⟩, delegated := .empty })
        t := by
      rw [← htimestamp]
      exact .write rfl
    cases t.snapshot with
    | none =>
      exact .ite (.check fun _ => .check fun _ => .check fun _ => hwrite) (.check fun _ => hwrite)
    | some held =>
      exact .check fun _ =>
        .ite (.check fun _ => .check fun _ => .check fun _ => hwrite) (.check fun _ => hwrite)

theorem updateTargets_performs :
    Performs (InPlace.updateTargets p bs origin) (t.updateTargets p bs origin) t := by
  unfold InPlace.updateTargets updateTargets
  refine .read (.check fun root => ?_)
  cases hsnapshot : t.snapshot with
  | none => exact .refuse
  | some snapshot =>
    refine .check fun m => .check fun _ => ?_
    have hwrite : Performs (modify ({ · with targets := some ⟨m, bs⟩ }) >>= fun _ =>
          modify ({ · with delegated := .empty }))
        (pure { t with snapshot := some snapshot, targets := some ⟨m, bs⟩, delegated := .empty })
        t := by
      rw [← hsnapshot]
      exact .write rfl
    exact .ite (.check fun _ => .check fun _ => .check fun _ => hwrite) (.check fun _ => hwrite)

theorem updateDelegated_performs :
    Performs (InPlace.updateDelegated p bs role delegator origin)
      (t.updateDelegated p bs role delegator origin) t := by
  unfold InPlace.updateDelegated updateDelegated
  refine .read ?_
  cases hsnapshot : t.snapshot with
  | none => exact .refuse
  | some snapshot =>
    refine .check fun (delegation, keys) => .check fun m => .check fun _ => ?_
    have hwrite : Performs (modify fun t => { t with delegated := t.delegated.insert role ⟨m, bs⟩ })
        (pure { t with
          snapshot := some snapshot, delegated := t.delegated.insert role ⟨m, bs⟩ }) t := by
      rw [← hsnapshot]
      exact .write rfl
    exact .ite (.check fun _ => .check fun _ => .check fun _ => hwrite) (.check fun _ => hwrite)

/-! ### Offers -/

/-- What comes of an offer in place. -/
def InPlace.attempt (p : Primitives) : Offer → Change Unit
  | .firstRoot bs => loadRoot p bs
  | .root bs => updateRoot p bs
  | .timestamp bs origin => updateTimestamp p bs origin
  | .snapshot bs origin => updateSnapshot p bs origin
  | .targets bs origin => updateTargets p bs origin
  | .delegated bs role delegator origin => updateDelegated p bs role delegator origin
  | .clock now => modify ({ · with now })

/-- An operation in place comes to what acceptance says. -/
theorem attempt_performs (p : Primitives) (t : Trust) (offer : Offer) :
    Performs (InPlace.attempt p offer) (t.attempt p offer) t := by
  cases offer with
  | firstRoot bs => exact loadRoot_performs
  | root bs => exact updateRoot_performs
  | timestamp bs => exact updateTimestamp_performs
  | snapshot bs => exact updateSnapshot_performs
  | targets bs => exact updateTargets_performs
  | delegated bs role delegator => exact updateDelegated_performs
  | clock now => rfl

end SecureUpdate.Trust
