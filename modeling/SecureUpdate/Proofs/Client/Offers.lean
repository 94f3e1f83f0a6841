import SecureUpdate.Proofs.Client.Refresh
import SecureUpdate.Proofs.Client.Upkeep

/-!
Whatever a client commits is reached by offers. A refresh works on what was committed, or on nothing
when there is none, and whatever it trusts in the end was accepted offer by offer on top of that; a
look-up does nothing else. The store may fail here, and may give anything.

Main statements: `refresh_leads`, `lookup_run`.
-/

namespace SecureUpdate

variable {ν κ : Type}

/-! ### Offers that lead on -/

namespace Trust

variable {p : Primitives} {t t' t'' : Trust}

/-- Whether some offers lead from what is trusted to something else. -/
def Leads (p : Primitives) (t t' : Trust) : Prop := ∃ offers, t.run p offers = t'

theorem Leads.refl (p : Primitives) (t : Trust) : Leads p t t := ⟨[], rfl⟩

theorem Leads.trans (h : Leads p t t') (h' : Leads p t' t'') : Leads p t t'' := by
  obtain ⟨offers, rfl⟩ := h
  obtain ⟨offers', rfl⟩ := h'
  exact ⟨offers ++ offers', run_append offers offers'⟩

theorem leads_of_attempt (offer : Offer) (h : t.attempt p offer = .ok t') : Leads p t t' :=
  ⟨[offer], step_of_attempt h⟩

/-- What every accepted offer keeps holds wherever offers lead. -/
theorem Leads.induction {I : Trust → Prop} (h : Leads p t t')
    (hstep : ∀ t offer t', I t → t.attempt p offer = .ok t' → I t') (ht : I t) : I t' := by
  obtain ⟨offers, rfl⟩ := h
  exact run_induction (fun t offer _ t' => hstep t offer t') ht

end Trust

namespace Client

open Trust

variable {c : Client ν κ}

/-- Every step of a refresh is an offer, and nothing is asked of the store for that. -/
theorem upholds_leads (c : Client ν κ) (now : Instant) (s : Session ν κ) :
    c.Upholds now s (fun _ => True) fun _ => Leads c.primitives (start now s.committed).trust where
  resumed t ht := by
    rw [ht]
    exact .refl _ _
  cached hcold bs t _ haccept := by
    rw [hcold]
    exact leads_of_attempt (.firstRoot bs) haccept
  initial hcold _ t haccept := by
    rw [hcold]
    exact ⟨leads_of_attempt (.firstRoot c.initialRoot) haccept, trivial⟩
  rotated _ _ bs _ _ h haccept := ⟨h.trans (leads_of_attempt (.root bs) haccept), trivial⟩
  below _ _ offer _ _ h haccept := h.trans (leads_of_attempt offer haccept)

/-- A refresh commits a checked chain that offers lead to from where it started, also when it then
reports that a save failed; otherwise it leaves what is committed as it was. -/
theorem refresh_leads (c : Client ν κ) (now : Instant) (s : Session ν κ) :
    (c.refresh now s).2.committed = s.committed ∨ ∃ t, (c.refresh now s).2.committed = some t ∧
      Leads c.primitives (start now s.committed).trust t ∧
        t.checkConsistent c.primitives = .ok () := by
  rcases (refresh_keeps guards_trivial (c.upholds_leads now s) trivial).2 with
    hsame | ⟨t, ht, ⟨n, -, hleads⟩, hcheck⟩
  · exact .inl hsame
  · exact .inr ⟨t, ht, hleads, hcheck⟩

/-- Whether an offer is of metadata of a delegated role. -/
def Delegating : Offer → Prop
  | .delegated _ _ _ _ => True
  | _ => False

/-- Asks do nothing to what is trusted but to accept metadata of delegated roles. -/
theorem asks_run (asks : List (Delegation × String)) (s : LookupState ν κ) :
    ∃ offers, (∀ offer ∈ offers, Delegating offer) ∧
      (c.after s (asks.map fun ask => .ask ask.1 ask.2)).1 = s.1.run c.primitives offers := by
  induction asks generalizing s with
  | nil => exact ⟨[], List.forall_mem_nil _, rfl⟩
  | cons ask asks ih =>
    obtain ⟨offers, hoffers, hrun⟩ := ih (c.delegatedTargets ask.1 ask.2 s).2
    rcases delegatedTargets_trust (c := c) ask.1 ask.2 s with hsame | ⟨bs, origin, haccept⟩
    · exact ⟨offers, hoffers, hrun.trans (by rw [hsame])⟩
    · have hattempt : s.1.attempt c.primitives (.delegated bs ask.1.name ask.2 origin) =
          .ok (c.delegatedTargets ask.1 ask.2 s).2.1 := haccept
      refine ⟨.delegated bs ask.1.name ask.2 origin :: offers,
        List.forall_mem_cons.2 ⟨trivial, hoffers⟩, hrun.trans ?_⟩
      rw [run_cons, step_of_attempt hattempt]

theorem lookup_run (c : Client ν κ) (path : String) (t : Trust) (w : World ν κ) :
    ∃ offers, (∀ offer ∈ offers, Delegating offer) ∧
      (c.lookup path t w).2.1 = t.run c.primitives offers := by
  obtain ⟨asks, -, hasks⟩ := c.lookup_asks path (t, w)
  rw [hasks]
  exact asks_run asks (t, w)

end Client

end SecureUpdate
