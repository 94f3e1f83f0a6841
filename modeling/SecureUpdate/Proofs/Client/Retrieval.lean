import SecureUpdate.Client.Refresh
import SecureUpdate.Proofs.Sample

/-!
What a step of a client comes to. A chain of steps is taken apart at each step, whether it succeeds
or fails. A retrieval with failover moves trust only by the acceptance of the bytes that it gives,
and what the mirrors before them sent leaves no trace but on the network.

Main statements: `fetchAccepted_ok`, `fetchAccepted_error`.
-/

namespace SecureUpdate

variable {ν κ α β τ : Type}

/-! ### Chains of steps -/

namespace Task

variable {a : Task ν κ α} {f : α → Task ν κ β} {w w' : World ν κ} {e : TrustError}

theorem bind_of_ok {x : α} (h : a w = (.ok x, w')) : (a >>= f) w = f x w' := by
  show Task.andThen a f w = _
  rw [Task.andThen, h]

theorem bind_of_error (h : a w = (.error e, w')) : (a >>= f) w = (.error e, w') := by
  show Task.andThen a f w = _
  rw [Task.andThen, h]

theorem bind_assoc {γ : Type} {g : β → Task ν κ γ} :
    (a >>= f) >>= g = a >>= fun x => f x >>= g := by
  funext w
  cases h : a w with
  | mk r w₁ =>
    cases r with
    | ok x =>
      rw [bind_of_ok h]
      show Task.andThen (a >>= f) g w = Task.andThen (f x) g w₁
      rw [Task.andThen, bind_of_ok h]
      rfl
    | error e => rw [bind_of_error h, bind_of_error (bind_of_error h)]

/-- A chain of two steps succeeds when the first does and the second does after it. -/
theorem bind_eq_ok_iff {y : β} : (a >>= f) w = (.ok y, w') ↔
    ∃ x w₁, a w = (.ok x, w₁) ∧ f x w₁ = (.ok y, w') := by
  cases h : a w with
  | mk r w₁ =>
    cases r with
    | ok x =>
      rw [bind_of_ok h]
      constructor
      · exact fun hf => ⟨x, w₁, rfl, hf⟩
      · rintro ⟨x', w₁', heq, hf⟩
        cases heq
        exact hf
    | error e =>
      rw [bind_of_error h]
      constructor
      · intro heq
        cases heq
      · rintro ⟨x', w₁', heq, -⟩
        cases heq

/-- A chain of two steps fails when the first does, or the second does after it. -/
theorem bind_eq_error_iff : (a >>= f) w = (.error e, w') ↔
    a w = (.error e, w') ∨ ∃ x w₁, a w = (.ok x, w₁) ∧ f x w₁ = (.error e, w') := by
  cases h : a w with
  | mk r w₁ =>
    cases r with
    | ok x =>
      rw [bind_of_ok h]
      constructor
      · exact fun hf => .inr ⟨x, w₁, rfl, hf⟩
      · rintro (heq | ⟨x', w₁', heq, hf⟩)
        · cases heq
        · cases heq
          exact hf
    | error e' =>
      rw [bind_of_error h]
      constructor
      · intro heq
        cases heq
        exact .inl rfl
      · rintro (heq | ⟨x', w₁', heq, -⟩) <;> cases heq
        rfl

theorem ofExcept_eq_ok_iff {x : Except TrustError α} {y : α} :
    Task.ofExcept x w = (.ok y, w') ↔ x = .ok y ∧ w = w' := by
  cases x with
  | ok x => simp [ofExcept, done]
  | error e => simp [ofExcept, fail]

theorem ofExcept_eq_error_iff {x : Except TrustError α} :
    Task.ofExcept x w = (.error e, w') ↔ x = .error e ∧ w = w' := by
  cases x with
  | ok x => simp [ofExcept, done]
  | error e => simp [ofExcept, fail]

@[simp] theorem ofExcept_ok {x : α} : (Task.ofExcept (.ok x) : Task ν κ α) w = (.ok x, w) := rfl

@[simp] theorem ofExcept_error : (Task.ofExcept (.error e) : Task ν κ α) w = (.error e, w) := rfl

end Task

theorem report_eq (e : Event) (w : World ν κ) :
    report e w = (.ok (), { w with events := w.events ++ [e] }) := rfl

/-! ### Failover -/

namespace MirrorList

variable {accept : Bytes → τ → Except TrustError τ} {fetcher : Fetcher ν} {timeout : Nat}
  {resource : Resource} {maxLength : UInt64} {net net' : ν} {t t' : τ}

/-- Asking one mirror gives bytes that were accepted, or leaves what is trusted alone. -/
theorem tryMirror_ofAcceptance {m : Mirror} {r : Except TrustError Bytes}
    (h : tryMirror timeout fetcher (Verifier.ofAcceptance accept) resource maxLength m net t =
      (r, net', t')) :
    (∃ bs, r = .ok bs ∧ accept bs t = .ok t') ∨ ∃ e, r = .error e ∧ t' = t := by
  unfold tryMirror at h
  split at h
  · cases h
    exact .inr ⟨_, rfl, rfl⟩
  · rename_i bs _ _
    simp only [Verifier.ofAcceptance] at h
    cases haccept : accept bs t with
    | ok t₁ =>
      rw [haccept] at h
      cases h
      exact .inl ⟨bs, rfl, haccept⟩
    | error e =>
      rw [haccept] at h
      cases h
      exact .inr ⟨e, rfl, rfl⟩

/-- Asking mirrors in turn gives bytes that were accepted on top of what was trusted before the
first one was asked, or leaves that alone. -/
theorem tryEach_ofAcceptance {ms : List Mirror}
    {r : Except (List (String × TrustError)) Bytes}
    (h : tryEach timeout fetcher (Verifier.ofAcceptance accept) resource maxLength ms net t =
      (r, net', t')) :
    (∃ bs, r = .ok bs ∧ accept bs t = .ok t') ∨ ∃ es, r = .error es ∧ t' = t := by
  induction ms generalizing net t r with
  | nil =>
    cases h
    exact .inr ⟨[], rfl, rfl⟩
  | cons m ms ih =>
    rw [tryEach] at h
    split at h
    · rename_i hm
      cases h
      rcases tryMirror_ofAcceptance hm with ⟨bs, hbs, haccept⟩ | ⟨e, he, -⟩
      · cases hbs
        exact .inl ⟨_, rfl, haccept⟩
      · cases he
    · rename_i hm
      rcases tryMirror_ofAcceptance hm with ⟨bs, hbs, -⟩ | ⟨e, -, rfl⟩
      · cases hbs
      split at h
      · rename_i hms
        cases h
        exact ih hms
      · rename_i hms
        cases h
        rcases ih hms with ⟨bs, hbs, -⟩ | ⟨es, -, rfl⟩
        · cases hbs
        · exact .inr ⟨_, rfl, rfl⟩

end MirrorList

/-! ### Retrieval -/

namespace Client

/-- A save always comes to an end, if only with a failure to note, and moves the store only. -/
theorem save_world (c : Client ν κ) (role : String) (bs : Bytes) (w : World ν κ) :
    ∃ failure, c.save role bs w =
      (.ok failure, { w with cache := (c.store.save role bs w.cache).2 }) := by
  unfold save
  split
  · rename_i hsave
    exact ⟨none, by rw [hsave]⟩
  · rename_i e _ hsave
    exact ⟨some e, by rw [hsave]⟩

variable {c : Client ν κ} {file role : String} {maxLength cap : UInt64} {pin : Pin}
  {accept : Bytes → Trust → Except TrustError Trust} {t t' : Trust} {w w' : World ν κ}

/-- What is retrieved was accepted on top of what was trusted; only the network has moved. -/
theorem fetchAccepted_ok {bs : Bytes}
    (h : c.fetchAccepted file maxLength accept t w = (.ok (bs, t'), w')) :
    accept bs t = .ok t' ∧ ∃ net, w' = { w with net } := by
  simp only [fetchAccepted, MirrorList.fetchVerified] at h
  split at h
  · rename_i hfetch
    cases h
    split at hfetch
    · rename_i hms
      cases hfetch
      rcases MirrorList.tryEach_ofAcceptance hms with ⟨bs', hbs, haccept⟩ | ⟨es, hes, -⟩
      · cases hbs
        exact ⟨haccept, _, rfl⟩
      · cases hes
    · cases hfetch
  · cases h

/-- A failed retrieval moves the network only. -/
theorem fetchAccepted_error {e : TrustError}
    (h : c.fetchAccepted file maxLength accept t w = (.error e, w')) :
    ∃ net, w' = { w with net } := by
  unfold fetchAccepted at h
  split at h
  · cases h
  · cases h
    exact ⟨_, rfl⟩

/-- A pinned file is retrieved like any other. -/
theorem fetchPinned_ok {bs : Bytes}
    (h : c.fetchPinned role pin cap accept t w = (.ok (bs, t'), w')) :
    accept bs t = .ok t' ∧ ∃ net, w' = { w with net } := by
  unfold fetchPinned Task.mapError at h
  split at h
  · rename_i hfetch
    cases h
    exact fetchAccepted_ok hfetch
  · cases h

theorem fetchPinned_error {e : TrustError}
    (h : c.fetchPinned role pin cap accept t w = (.error e, w')) : ∃ net, w' = { w with net } := by
  unfold fetchPinned Task.mapError at h
  split at h
  · cases h
  · rename_i hfetch
    cases h
    exact fetchAccepted_error hfetch

end Client

/-! ### Asking the small repository -/

/-- A client of one mirror that gives the replies of a script in turn. -/
def Client.scripted (initialRoot : Bytes) : Client (List Reply) (Dict Bytes) where
  primitives := .transparent
  fetcher url _ net :=
    match net with
    | [] => (.failure (.notFound url), [])
    | reply :: net => (reply, net)
  store := .plain
  mirrors := [.ofUrl "https://mirror.example"]
  limits := .standard
  initialRoot

namespace Sample

/-- The reply where there is nothing. -/
def missing : Reply := .failure (.notFound "")

/-- A world with an empty store and a script of replies. -/
def world (net : List Reply) : World (List Reply) (Dict Bytes) := ⟨net, .empty, []⟩

end Sample

end SecureUpdate
