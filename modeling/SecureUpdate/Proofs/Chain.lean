/-!
Chains of steps that may fail. A chain succeeds exactly when each of its steps does, so a check
written as a `do` block can be read off as a conjunction; the lemmas here do that for the forms that
such blocks take.
-/

namespace SecureUpdate.Chain

variable {ε α β : Type}

theorem isOk_iff {x : Except ε Unit} : x.isOk = true ↔ x = .ok () := by
  cases x <;> simp [Except.isOk, Except.toBool]

theorem exists_of_isOk {x : Except ε α} (h : x.isOk = true) : ∃ a, x = .ok a := by
  cases x with
  | ok a => exact ⟨a, rfl⟩
  | error e => cases h

/-- A chain of two steps succeeds when the first does and the second does with its value. -/
@[simp] theorem bind_eq_ok_iff {x : Except ε α} {f : α → Except ε β} {b : β} :
    (x >>= f) = .ok b ↔ ∃ a, x = .ok a ∧ f a = .ok b := by
  cases x with
  | ok a => simp [bind, Except.bind]
  | error e => simp [bind, Except.bind]

@[simp] theorem pure_eq_ok_iff {a b : α} : (pure a : Except ε α) = .ok b ↔ a = b := by
  simp [pure, Except.pure]

@[simp] theorem throw_eq_ok_iff {e : ε} {a : α} : (throw e : Except ε α) = .ok a ↔ False := by
  simp [throw, throwThe, MonadExceptOf.throw]

/-- A check that is made only under a condition. -/
theorem ite_bind_eq_ok_iff {c : Prop} [Decidable c] {x : Except ε Unit} {k : Except ε β} {b : β} :
    (if c then x >>= fun _ => k else k) = .ok b ↔ (c → x = .ok ()) ∧ k = .ok b := by
  by_cases hc : c
  · rw [if_pos hc, bind_eq_ok_iff]
    constructor
    · rintro ⟨_, hx, hk⟩
      exact ⟨fun _ => hx, hk⟩
    · rintro ⟨hx, hk⟩
      exact ⟨(), hx hc, hk⟩
  · rw [if_neg hc]
    exact ⟨fun hk => ⟨fun h => absurd h hc, hk⟩, fun h => h.2⟩

/-- Two checks that are made only under a condition. -/
theorem ite_bind_bind_eq_ok_iff {c : Prop} [Decidable c] {x y : Except ε Unit} {k : Except ε β}
    {b : β} : (if c then x >>= fun _ => y >>= fun _ => k else k) = .ok b ↔
      (c → x = .ok () ∧ y = .ok ()) ∧ k = .ok b := by
  by_cases hc : c
  · simp only [if_pos hc, bind_eq_ok_iff]
    constructor
    · rintro ⟨_, hx, _, hy, hk⟩
      exact ⟨fun _ => ⟨hx, hy⟩, hk⟩
    · rintro ⟨hxy, hk⟩
      exact ⟨(), (hxy hc).1, (), (hxy hc).2, hk⟩
  · rw [if_neg hc]
    exact ⟨fun hk => ⟨fun h => absurd h hc, hk⟩, fun h => h.2⟩

/-- A refusal that ends a chain. -/
theorem ite_throw_pure_eq_ok_iff {c : Prop} [Decidable c] {e : ε} {a b : α} :
    (if c then throw e else pure a) = (.ok b : Except ε α) ↔ ¬ c ∧ a = b := by
  by_cases hc : c <;> simp [hc]

/-- A step for each item of a list succeeds when all of them do. -/
theorem forM_eq_ok_iff {f : α → Except ε Unit} {l : List α} {u : Unit} :
    l.forM f = .ok u ↔ ∀ a ∈ l, f a = .ok () := by
  induction l with
  | nil => simp
  | cons a l ih =>
    show (f a >>= fun _ => l.forM f) = .ok u ↔ _
    simp only [bind_eq_ok_iff, List.mem_cons, forall_eq_or_imp]
    constructor
    · rintro ⟨_, ha, hl⟩
      exact ⟨ha, ih.1 hl⟩
    · rintro ⟨ha, hl⟩
      exact ⟨(), ha, ih.2 hl⟩

/-! ### Failures -/

/-- Whether a step fails in certain ways only. -/
def FailsWith (P : ε → Prop) (x : Except ε α) : Prop := ∀ e, x = .error e → P e

namespace FailsWith

variable {P Q : ε → Prop} {x y : Except ε α} {f : α → Except ε β}

theorem ok {a : α} : FailsWith P (.ok a) := by
  rintro _ ⟨⟩

theorem error {e : ε} (h : P e) : FailsWith P (.error e : Except ε α) := by
  rintro _ ⟨⟩
  exact h

theorem mono (h : FailsWith P x) (hPQ : ∀ e, P e → Q e) : FailsWith Q x :=
  fun e he => hPQ e (h e he)

/-- A step may count on what the step before it yielded. -/
theorem bind_of_ok (hx : FailsWith P x) (hf : ∀ a, x = .ok a → FailsWith P (f a)) :
    FailsWith P (x >>= f) := by
  cases x with
  | ok a => exact hf a rfl
  | error e => exact .error (hx e rfl)

theorem bind (hx : FailsWith P x) (hf : ∀ a, FailsWith P (f a)) : FailsWith P (x >>= f) :=
  hx.bind_of_ok fun a _ => hf a

theorem ite {c : Prop} [Decidable c] (hx : FailsWith P x) (hy : FailsWith P y) :
    FailsWith P (if c then x else y) := by
  split
  · exact hx
  · exact hy

/-- A check that is made only under a condition. -/
theorem ite_bind {c : Prop} [Decidable c] {u : Except ε Unit} (hu : FailsWith P u)
    (hx : FailsWith P x) : FailsWith P (if c then u >>= fun _ => x else x) :=
  .ite (hu.bind fun _ => hx) hx

end FailsWith

end SecureUpdate.Chain
