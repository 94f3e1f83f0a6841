import SecureUpdate.Proofs.Client.Overlong

/-!
What the failure of a retrieval speaks of. It may be the failure of one mirror or of many, and then
it holds theirs; but whatever failure of trust stands in it is the refusal of a body that the
network delivered, on top of what was trusted before, or else says that a pinned file was cut off
for its length. So a property of all refusals on the way is one of all that a failed step blames.

Main statements: `fetchAccepted_meets`, `fetchPinned_meets`.
-/

namespace SecureUpdate

open Chain

variable {ν κ α β σ : Type}

/-- Whether the network can deliver a body. -/
def Fetcher.Delivers (fetcher : Fetcher ν) (bs : Bytes) : Prop :=
  ∃ url maxLength net net', fetcher url maxLength net = (.body bs, net')

/-! ### Transfers that were cut off -/

namespace TrustError

variable {e cause : TrustError} {f : Nat → TrustError} {P : TrustError → Prop}

/-- To replace transfers that were cut off adds what they are replaced by, and nothing else. -/
theorem mentions_of_replaceLengthExceeded (hf : ∀ received, (f received).ofTrust = true)
    (h : (e.replaceLengthExceeded f).Mentions cause) (hcause : cause.ofTrust = true) :
    (∃ received, cause = f received) ∨ e.Mentions cause := by
  generalize htold : e.replaceLengthExceeded f = told at h
  induction h generalizing e with
  | itself =>
    subst htold
    cases e with
    | fetch resource source =>
      cases source with
      | lengthExceeded ceiling received => exact .inl ⟨received, rfl⟩
      | _ => cases hcause
    | noWorkingMirror resource errors => cases hcause
    | _ => exact .inr .itself
  | @among resource told line cause hline hmentions ih =>
    cases e with
    | noWorkingMirror resource' errors =>
      rw [replaceLengthExceeded, replaceLengthExceededEach_eq_map] at htold
      cases htold
      obtain ⟨own, hown, rfl⟩ := List.mem_map.1 hline
      exact (ih hcause rfl).imp id (.among hown)
    | fetch resource' source =>
      cases source with
      | lengthExceeded ceiling received =>
        -- what replaces a transfer is not a failure of several mirrors
        have hmirrors := hf received
        rw [show f received = _ from htold] at hmirrors
        cases hmirrors
      | _ => cases htold
    | _ => cases htold

theorem OnlyBlames.explain {pin : Pin} {role : String} (h : e.OnlyBlames P)
    (hlong : ∀ received pinned, P (.pinMismatch role (.overlong received pinned))) :
    (pin.explain role e).OnlyBlames P := by
  unfold Pin.explain
  cases pin.length with
  | none => exact h
  | some length =>
    intro cause hcause htrust
    rcases mentions_of_replaceLengthExceeded (fun _ => rfl) hcause htrust with
      ⟨received, rfl⟩ | hown
    · exact hlong received length.toNat
    · exact h cause hown htrust

end TrustError

/-! ### Steps and their failures -/

namespace Task

/-- Whether a step fails in certain ways only, and whatever it yields has a property. -/
def Meets (P : TrustError → Prop) (Q : α → Prop) (a : Task ν κ α) : Prop :=
  ∀ w, FailsWith P (a w).1 ∧ ∀ x, (a w).1 = .ok x → Q x

variable {P : TrustError → Prop} {Q Q' : α → Prop} {R : β → Prop} {a b : Task ν κ α}
  {f : α → Task ν κ β}

theorem Meets.pure {x : α} (h : Q x) : Meets P Q (pure x : Task ν κ α) := by
  refine fun _ => ⟨.ok, ?_⟩
  rintro _ ⟨⟩
  exact h

theorem Meets.fail {e : TrustError} (h : P e) : Meets P Q (Task.fail e : Task ν κ α) :=
  fun _ => ⟨.error h, nofun⟩

theorem Meets.ofExcept {x : Except TrustError α} (h : FailsWith P x) (hok : ∀ y, x = .ok y → Q y) :
    Meets P Q (Task.ofExcept x : Task ν κ α) := by
  cases x with
  | ok x => exact .pure (hok x rfl)
  | error e => exact .fail (h e rfl)

theorem Meets.bind (ha : Meets P Q a) (hf : ∀ x, Q x → Meets P R (f x)) : Meets P R (a >>= f) := by
  intro w
  obtain ⟨hfails, hok⟩ := ha w
  cases h : a w with
  | mk r w₁ =>
    rw [h] at hfails hok
    cases r with
    | ok x =>
      rw [bind_of_ok h]
      exact hf x (hok x rfl) w₁
    | error e =>
      rw [bind_of_error h]
      exact ⟨.error (hfails e rfl), nofun⟩

theorem Meets.mono (h : Meets P Q a) (hQ : ∀ x, Q x → Q' x) : Meets P Q' a :=
  fun w => ⟨(h w).1, fun x hx => hQ x ((h w).2 x hx)⟩

theorem Meets.mapError {P' : TrustError → Prop} {g : TrustError → TrustError} (h : Meets P Q a)
    (hg : ∀ e, P e → P' (g e)) : Meets P' Q (a.mapError g) := by
  intro w
  obtain ⟨hfails, hok⟩ := h w
  unfold Task.mapError
  cases hrun : a w with
  | mk r w₁ =>
    rw [hrun] at hfails hok
    cases r with
    | ok x => exact ⟨.ok, hok⟩
    | error e => exact ⟨.error (hg e (hfails e rfl)), nofun⟩

theorem Meets.ite {q : Prop} [Decidable q] (ha : Meets P Q a) (hb : Meets P Q b) :
    Meets P Q (if q then a else b) := by
  split
  · exact ha
  · exact hb

/-- To report does not fail. -/
theorem Meets.report {e : Event} : Meets P (fun _ => True) (report e : Task ν κ Unit) :=
  fun _ => ⟨.ok, fun _ _ => trivial⟩

end Task

/-! ### Retrievals -/

namespace MirrorList

variable {timeout : Nat} {fetcher : Fetcher ν} {accept : Bytes → σ → Except TrustError σ}
  {resource : Resource} {maxLength : UInt64} {ms : List Mirror} {a z : ν × σ}
  {replies : List Reply} {errors : List (String × TrustError)} {P : TrustError → Prop}

/-- Each mirror that failed could not be reached, or what it delivered was refused on top of what
was trusted before all of them. -/
theorem AllFail.each_refused
    (h : AllFail timeout fetcher (Verifier.ofAcceptance accept) resource maxLength ms a replies
      errors z) : ∀ line ∈ errors, (∃ url source, line.2 = .fetch url source) ∨
        ∃ bs, fetcher.Delivers bs ∧ accept bs a.2 = .error line.2 := by
  induction h with
  | nil => exact List.forall_mem_nil _
  | cons hm _ ih =>
    cases hm with
    | failure _ => exact List.forall_mem_cons.2 ⟨.inl ⟨_, _, rfl⟩, ih⟩
    | stalled _ => exact List.forall_mem_cons.2 ⟨.inl ⟨_, _, rfl⟩, ih⟩
    | @refused net net' s s' bs e hreply hrefused =>
      unfold Verifier.ofAcceptance at hrefused
      split at hrefused
      · cases hrefused
      · rename_i haccept
        cases hrefused
        exact List.forall_mem_cons.2 ⟨.inr ⟨bs, ⟨_, _, _, _, hreply⟩, haccept⟩, ih⟩

/-- The failure of all mirrors speaks of no more than what each of them failed with. -/
theorem exists_line_of_mentions {cause : TrustError}
    (h : (failure resource errors).Mentions cause) (hcause : cause.ofTrust = true) :
    ∃ line ∈ errors, line.2.Mentions cause := by
  by_cases hone : errors.length = 1
  · obtain ⟨line, rfl⟩ := List.length_eq_one_iff.1 hone
    exact ⟨line, List.mem_singleton_self _, h⟩
  · rw [failure_of_length_ne_one resource hone] at h
    cases h with
    | itself => cases hcause
    | among hline h => exact ⟨_, hline, h⟩

/-- What the failure of all mirrors blames are refusals of what they delivered. -/
theorem AllFail.onlyBlames
    (h : AllFail timeout fetcher (Verifier.ofAcceptance accept) resource maxLength ms a replies
      errors z) (htrust : ∀ bs, FailsWith (fun e => e.ofTrust = true) (accept bs a.2))
    (hrefusal : ∀ bs, fetcher.Delivers bs → FailsWith P (accept bs a.2)) :
    (failure resource errors).OnlyBlames P := by
  intro cause hcause htrustful
  obtain ⟨line, hline, hmentions⟩ := exists_line_of_mentions hcause htrustful
  rcases h.each_refused line hline with ⟨url, source, hfetch⟩ | ⟨bs, hdelivers, hrefused⟩
  · rw [hfetch] at hmentions
    cases hmentions
    cases htrustful
  · rw [hmentions.eq_of_ofTrust (htrust bs _ hrefused)]
    exact hrefusal bs hdelivers _ hrefused

end MirrorList

namespace Client

variable {c : Client ν κ} {P : TrustError → Prop} {t : Trust}
  {accept : Bytes → Trust → Except TrustError Trust}

/-- A retrieval that fails blames nothing but what was delivered and refused, and one that succeeds
gives what was accepted. -/
theorem fetchAccepted_meets {file : String} {maxLength : UInt64}
    (htrust : ∀ bs, Trust.Judges (accept bs t))
    (hrefusal : ∀ bs, c.fetcher.Delivers bs → FailsWith P (accept bs t)) :
    Task.Meets (TrustError.OnlyBlames P) (fun found => accept found.1 t = .ok found.2)
      (c.fetchAccepted file maxLength accept t) := by
  intro w
  cases h : c.fetchAccepted file maxLength accept t w with
  | mk r w' =>
    cases r with
    | ok found =>
      refine ⟨.ok, ?_⟩
      rintro _ ⟨⟩
      exact (fetchAccepted_ok h).1
    | error e =>
      refine ⟨.error ?_, fun _ hok => by cases hok⟩
      unfold fetchAccepted at h
      cases hfetch : c.mirrorList.fetchVerified c.fetcher (Verifier.ofAcceptance accept)
          (.metadata file) maxLength w.net t with
      | mk r rest =>
        rw [hfetch] at h
        cases r with
        | ok bs => cases h
        | error _ =>
          cases h
          obtain ⟨replies, errors, hall, rfl⟩ :=
            MirrorList.fetchVerified_error (a := (w.net, t)) hfetch
          exact hall.onlyBlames htrust hrefusal

/-- So does the retrieval of pinned metadata, or it blames that it was cut off for its length. -/
theorem fetchPinned_meets {role : String} {pin : Pin} {cap : UInt64}
    (htrust : ∀ bs, Trust.Judges (accept bs t))
    (hrefusal : ∀ bs, c.fetcher.Delivers bs → FailsWith P (accept bs t))
    (hlong : ∀ received pinned, P (.pinMismatch role (.overlong received pinned))) :
    Task.Meets (TrustError.OnlyBlames P) (fun found => accept found.1 t = .ok found.2)
      (c.fetchPinned role pin cap accept t) :=
  (fetchAccepted_meets htrust hrefusal).mapError fun _ h => h.explain hlong

end Client

end SecureUpdate
