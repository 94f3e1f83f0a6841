import SecureUpdate.Error

/-!
Kinds of failures. A failure of trust says something about what was retrieved; the others say how
bytes could not be moved, or not be kept. The failure of several mirrors is of transport when the
failure of each mirror is, and only what is of transport can mean that something does not exist. It
speaks of the failure of each mirror, too.
-/

namespace SecureUpdate.TrustError

/-- Whether a failure is one of trust. -/
def ofTrust : TrustError → Bool
  | fetch _ _ | noWorkingMirror _ _ | store _ | io _ => false
  | _ => true

theorem isTransport_of_ofTrust {e : TrustError} (h : e.ofTrust = true) : e.isTransport = false := by
  cases e with
  | fetch | noWorkingMirror | store | io => cases h
  | _ => rfl

mutual

/-- What does not exist was not found on the way. -/
theorem isTransport_of_isNotFound (e : TrustError) (h : e.isNotFound = true) :
    e.isTransport = true := by
  cases e with
  | fetch => rw [isTransport]
  | noWorkingMirror _ errors =>
    rw [isNotFound, Bool.and_eq_true] at h
    rw [isTransport]
    exact allTransport_of_allNotFound errors h.2
  | _ => cases h

theorem allTransport_of_allNotFound (errors : List (String × TrustError))
    (h : allNotFound errors = true) : allTransport errors = true := by
  cases errors with
  | nil => rw [allTransport]
  | cons error errors =>
    rw [allNotFound, Bool.and_eq_true] at h
    rw [allTransport, isTransport_of_isNotFound error.2 h.1, allTransport_of_allNotFound errors h.2]
    rfl

end

theorem isNotFound_of_isTransport {e : TrustError} (h : e.isTransport = false) :
    e.isNotFound = false := by
  cases hfound : e.isNotFound with
  | false => rfl
  | true => cases h.symm.trans (isTransport_of_isNotFound e hfound)

/-! ### What a failure speaks of -/

/-- What a failure speaks of: itself and, where it is the failure of several mirrors, what went
wrong with each of them. -/
inductive Mentions : TrustError → TrustError → Prop
  | itself {e} : Mentions e e
  | among {resource errors line cause} (hline : line ∈ errors) (h : Mentions line.2 cause) :
    Mentions (noWorkingMirror resource errors) cause

theorem Mentions.eq_of_ofTrust {e cause : TrustError} (h : e.Mentions cause)
    (he : e.ofTrust = true) : cause = e := by
  cases h with
  | itself => rfl
  | among => cases he

/-- Whether all failures of trust that a failure speaks of have a property. -/
def OnlyBlames (P : TrustError → Prop) (e : TrustError) : Prop :=
  ∀ cause, e.Mentions cause → cause.ofTrust = true → P cause

theorem OnlyBlames.of_ofTrust {P : TrustError → Prop} {e : TrustError} (he : e.ofTrust = true)
    (h : P e) : e.OnlyBlames P := by
  intro cause hcause _
  rw [hcause.eq_of_ofTrust he]
  exact h

end SecureUpdate.TrustError
