import SecureUpdate.Proofs.Trust.Accepted

/-!
Runs of what is trusted: any sequence of offers, each accepted or refused, from nothing trusted. A
refused offer changes nothing, so a property holds throughout a run when every accepted offer keeps
it (`run_induction`). Each later module proves its invariant of one accepted offer and takes the run
from here.
-/

namespace SecureUpdate.Trust

variable {p : Primitives} {t t' : Trust}

/-- Something that can be asked of what is trusted. -/
inductive Offer where
  | firstRoot (bs : Bytes)
  | root (bs : Bytes)
  | timestamp (bs : Bytes) (origin : Origin)
  | snapshot (bs : Bytes) (origin : Origin)
  | targets (bs : Bytes) (origin : Origin)
  | delegated (bs : Bytes) (role delegator : String) (origin : Origin)
  /-- From now on expiry is judged against another time. -/
  | clock (now : Instant)
deriving DecidableEq

/-- Whether an offer is of a root. -/
def Offer.OfRoot : Offer → Prop
  | .firstRoot _ | .root _ => True
  | _ => False

/-- What comes of an offer. -/
def attempt (p : Primitives) (t : Trust) : Offer → Except TrustError Trust
  | .firstRoot bs => t.loadRoot p bs
  | .root bs => t.updateRoot p bs
  | .timestamp bs origin => t.updateTimestamp p bs origin
  | .snapshot bs origin => t.updateSnapshot p bs origin
  | .targets bs origin => t.updateTargets p bs origin
  | .delegated bs role delegator origin => t.updateDelegated p bs role delegator origin
  | .clock now => .ok { t with now }

/-- What is trusted after an offer; a refused one changes nothing. -/
def step (p : Primitives) (t : Trust) (offer : Offer) : Trust :=
  match t.attempt p offer with
  | .ok t => t
  | .error _ => t

/-- What is trusted after some offers. -/
def run (p : Primitives) (t : Trust) (offers : List Offer) : Trust := offers.foldl (step p) t

@[simp] theorem run_nil : t.run p [] = t := rfl

@[simp] theorem run_cons {offer : Offer} {offers : List Offer} :
    t.run p (offer :: offers) = (t.step p offer).run p offers := rfl

theorem run_append (offers offers' : List Offer) :
    t.run p (offers ++ offers') = (t.run p offers).run p offers' :=
  List.foldl_append

theorem step_of_attempt {offer : Offer} (h : t.attempt p offer = .ok t') : t.step p offer = t' := by
  rw [step, h]

/-- A property that every accepted offer of a run keeps holds after the run if it held before. -/
theorem run_induction {P : Trust → Prop} {offers : List Offer}
    (hstep : ∀ t, ∀ offer ∈ offers, ∀ t', P t → t.attempt p offer = .ok t' → P t') (h : P t) :
    P (t.run p offers) := by
  induction offers generalizing t with
  | nil => exact h
  | cons offer offers ih =>
    rw [run_cons]
    refine ih (fun t offer hmem => hstep t offer (List.mem_cons_of_mem _ hmem)) ?_
    rw [step]
    split
    · rename_i t' hattempt
      exact hstep t offer List.mem_cons_self t' h hattempt
    · exact h

/-! ### What a rotation of the root forgets -/

section Rotation

variable {previous next : Root}

theorem timestamp_forgetRotated : (t.forgetRotated previous next).timestamp =
    if previous.signers .timestamp = next.signers .timestamp then t.timestamp else none := by
  simp only [forgetRotated]
  grind

theorem snapshot_forgetRotated : (t.forgetRotated previous next).snapshot =
    if previous.signers .timestamp = next.signers .timestamp ∧
      previous.signers .snapshot = next.signers .snapshot then t.snapshot else none := by
  simp only [forgetRotated]
  grind

theorem targets_forgetRotated : (t.forgetRotated previous next).targets =
    if previous.signers .snapshot = next.signers .snapshot ∧
      previous.signers .targets = next.signers .targets then t.targets else none := by
  simp only [forgetRotated]
  grind

theorem delegated_forgetRotated : (t.forgetRotated previous next).delegated =
    if previous.signers .snapshot = next.signers .snapshot ∧
      previous.signers .targets = next.signers .targets then t.delegated else .empty := by
  simp only [forgetRotated]
  grind

@[simp] theorem now_forgetRotated : (t.forgetRotated previous next).now = t.now := by
  simp only [forgetRotated]
  grind

end Rotation

end SecureUpdate.Trust
