import SecureUpdate.Cache.Store

/-!
What stores are relied on for. A writable store always saves, and changes what it holds for the role
that it saves only; its loads may fail. A separate store, which may fail, changes at most what it
holds for a role when it saves that role, and nothing when it loads. An honest store may fail and
may lose what it holds, but makes nothing up. A reliable store is all of these and never fails: a
load gives what is held, and a save changes what is held for its role. The plain map and the keyed
store are such stores.
-/

namespace SecureUpdate.LocalStore

/-- A store whose loads and saves always succeed, where `view` reads off a state what is held for
each role name. -/
structure Reliable {κ : Type} (store : LocalStore κ) (view : κ → String → Option Bytes) :
    Prop where
  load : ∀ role k, ∃ k', store.load role k = (.ok (view k role), k') ∧ view k' = view k
  save : ∀ role bs k, ∃ k', store.save role bs k = (.ok (), k') ∧
    ∀ other, view k' other = if role = other then some bs else view k other

/-- A store whose saves always succeed, where `view` reads off a state what is held for each role
name. Nothing is said of its loads. -/
structure Writable {κ : Type} (store : LocalStore κ) (view : κ → String → Option Bytes) :
    Prop where
  save : ∀ role bs k, ∃ k', store.save role bs k = (.ok (), k') ∧
    ∀ other, view k' other = if role = other then some bs else view k other

theorem Reliable.writable {κ : Type} {store : LocalStore κ} {view : κ → String → Option Bytes}
    (h : store.Reliable view) : store.Writable view := ⟨h.save⟩

/-- A store in which roles do not get in each other's way, whether or not its loads and saves
succeed. -/
structure Separate {κ : Type} (store : LocalStore κ) (view : κ → String → Option Bytes) :
    Prop where
  load : ∀ role k, view (store.load role k).2 = view k
  save : ∀ role bs k other, role ≠ other → view (store.save role bs k).2 other = view k other

theorem Reliable.separate {κ : Type} {store : LocalStore κ} {view : κ → String → Option Bytes}
    (h : store.Reliable view) : store.Separate view where
  load role k := by
    obtain ⟨k', hload, hview⟩ := h.load role k
    rw [hload, hview]
  save role bs k other hother := by
    obtain ⟨k', hsave, hview⟩ := h.save role bs k
    rw [hsave, hview, if_neg hother]

/-- A store that makes nothing up, whether or not its loads and saves succeed: a load gives nothing
but what is held, and what is held afterwards was held before or is what was saved for the role. -/
structure Honest {κ : Type} (store : LocalStore κ) (view : κ → String → Option Bytes) : Prop where
  loaded : ∀ role k bs, (store.load role k).1 = .ok (some bs) → view k role = some bs
  load : ∀ role k other bs, view (store.load role k).2 other = some bs → view k other = some bs
  save : ∀ role bs k other bs', view (store.save role bs k).2 other = some bs' →
    view k other = some bs' ∨ (other = role ∧ bs' = bs)

theorem Reliable.honest {κ : Type} {store : LocalStore κ} {view : κ → String → Option Bytes}
    (h : store.Reliable view) : store.Honest view where
  loaded role k bs hbs := by
    obtain ⟨k', hload, -⟩ := h.load role k
    rw [hload] at hbs
    exact Except.ok.inj hbs
  load role k other bs hbs := by
    rwa [h.separate.load] at hbs
  save role bs k other bs' hbs' := by
    obtain ⟨k', hsave, hview⟩ := h.save role bs k
    rw [hsave, hview] at hbs'
    split at hbs'
    · rename_i hrole
      cases hbs'
      exact .inr ⟨hrole.symm, rfl⟩
    · exact .inl hbs'

/-- A store that fails when it is told to, by a list of what is to become of its next steps. -/
def unsteady {κ : Type} (store : LocalStore κ) : LocalStore (κ × List Bool) where
  load role k :=
    if k.2.head? = some false then (.error (.io "unsteady"), k.1, k.2.tail)
    else ((store.load role k.1).1, (store.load role k.1).2, k.2.tail)
  save role bs k :=
    if k.2.head? = some false then (.error (.io "unsteady"), k.1, k.2.tail)
    else ((store.save role bs k.1).1, (store.save role bs k.1).2, k.2.tail)
  remove role k := ((store.remove role k.1).1, (store.remove role k.1).2, k.2.tail)

/-- A failure makes nothing up. -/
theorem Honest.unsteady {κ : Type} {store : LocalStore κ} {view : κ → String → Option Bytes}
    (h : store.Honest view) : store.unsteady.Honest fun k => view k.1 where
  loaded role k bs hbs := by
    unfold LocalStore.unsteady at hbs
    dsimp only at hbs
    split at hbs
    · cases hbs
    · exact h.loaded role k.1 bs hbs
  load role k other bs hbs := by
    unfold LocalStore.unsteady at hbs
    dsimp only at hbs
    split at hbs
    · exact hbs
    · exact h.load role k.1 other bs hbs
  save role bs k other bs' hbs' := by
    unfold LocalStore.unsteady at hbs'
    dsimp only at hbs'
    split at hbs'
    · exact .inl hbs'
    · exact h.save role bs k.1 other bs' hbs'

theorem plain_reliable : plain.Reliable SortedMap.get? where
  load _ m := ⟨m, rfl, rfl⟩
  save role bs m := ⟨m.insert role bs, rfl, SortedMap.get?_insert m role bs⟩

theorem keyed_reliable : keyed.Reliable fun m role => m.get? (Bytes.ofText role) where
  load _ m := ⟨m, rfl, rfl⟩
  save role bs m := by
    refine ⟨m.insert (Bytes.ofText role) bs, rfl, fun other => ?_⟩
    simp only [SortedMap.get?_insert, Bytes.ofText_inj]

end SecureUpdate.LocalStore
