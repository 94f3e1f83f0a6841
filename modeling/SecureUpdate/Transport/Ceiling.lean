/-!
Ceilings on the length of a body. A transfer that is to show whether a body is longer than it should
be has to allow one byte more. Main statement: `lt_onePast`, one byte more is allowed, unless the
length is already the greatest 64-bit number.
-/

namespace SecureUpdate

/-- The ceiling one byte past a length, or the greatest one. -/
def onePast (length : UInt64) : UInt64 :=
  if length = UInt64.ofNat (UInt64.size - 1) then length else length + 1

theorem toNat_onePast (length : UInt64) :
    (onePast length).toNat = min (length.toNat + 1) (UInt64.size - 1) := by
  have h := length.toNat_lt
  unfold onePast
  split
  · rename_i e
    subst e
    decide
  · rename_i e
    have : length.toNat ≠ UInt64.size - 1 := fun e' => e (UInt64.toNat_inj.1 (by rw [e']; decide))
    rw [UInt64.toNat_add]
    simp only [UInt64.size] at this ⊢
    have h1 : (1 : UInt64).toNat = 1 := rfl
    omega

theorem le_onePast (length : UInt64) : length.toNat ≤ (onePast length).toNat := by
  have h := length.toNat_lt
  rw [toNat_onePast, UInt64.size]
  omega

theorem lt_onePast {length : UInt64} (h : length.toNat < UInt64.size - 1) :
    length.toNat < (onePast length).toNat := by
  rw [toNat_onePast]
  omega

end SecureUpdate
