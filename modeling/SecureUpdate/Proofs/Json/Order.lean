import SecureUpdate.Json.Reader
import SecureUpdate.Proofs.Dict

/-!
The order of members. Whatever order a text gives the members of an object in, the value that is
read has them in the order of their names, at every depth.

Main statement: `sorted_value`.
-/

namespace SecureUpdate.Json

/-- Whether the members of every object in a value stand in the order of their names. -/
inductive Sorted : Json → Prop where
  | null : Sorted .null
  | bool (b) : Sorted (.bool b)
  | int (n) : Sorted (.int n)
  | real (x) : Sorted (.real x)
  | str (s) : Sorted (.str s)
  | arr {items} (hitems : ∀ v ∈ items, Sorted v) : Sorted (.arr items)
  | obj {members} (hsorted : members.Pairwise fun a b => a.1 < b.1)
    (hmembers : ∀ m ∈ members, Sorted m.2) : Sorted (.obj members)

theorem sorted_mkObj {members : List (String × Json)} (h : ∀ m ∈ members, Sorted m.2) :
    Sorted (mkObj members) :=
  .obj (SortedMap.ofList members).sorted fun m hm => h m (SortedMap.mem_of_mem_ofList hm)

namespace Reader

/-- Whether everything that a reader reads has a property. -/
def Yields {α : Type} (r : Reader α) (P : α → Prop) : Prop :=
  ∀ bs x rest, r bs = some (x, rest) → P x

variable {α β : Type} {P : α → Prop} {Q : β → Prop} {r : Reader α}

/-- What is made of something that was read. -/
theorem Yields.map {f : α → β} (h : Yields r P) (hf : ∀ x, P x → Q (f x)) :
    Yields (fun bs => (r bs).map fun (x, rest) => (f x, rest)) Q := by
  intro bs y rest hread
  obtain ⟨⟨x, rest'⟩, hx, hxy⟩ := Option.map_eq_some_iff.1 hread
  cases hxy
  exact hf x (h bs x rest hx)

theorem yields_itemsUntil (h : Yields r P) (close : UInt8) (most : Nat) :
    Yields (itemsUntil r close most) fun xs => ∀ x ∈ xs, P x := by
  induction most with
  | zero =>
    intro bs xs rest hread
    cases hread
  | succ most ih =>
    intro bs xs rest hread
    obtain ⟨⟨x, bs'⟩, hx, hread⟩ := Option.bind_eq_some_iff.1 hread
    have hx : P x := h _ x bs' hx
    dsimp only at hread
    split at hread
    · cases hread
    · rename_i b bs'' _
      split at hread
      · cases hread
        exact List.forall_mem_singleton.2 hx
      · split at hread
        · obtain ⟨⟨ys, rest'⟩, hys, hxs⟩ := Option.bind_eq_some_iff.1 hread
          cases hxs
          exact List.forall_mem_cons.2 ⟨hx, ih bs'' ys rest' hys⟩
        · cases hread

theorem yields_enclosed (h : Yields r P) (most : Nat) (close : UInt8) :
    Yields (enclosed most r close) fun xs => ∀ x ∈ xs, P x := by
  intro bs xs rest hread
  rw [enclosed] at hread
  split at hread
  · cases hread
  · split at hread
    · cases hread
      exact nofun
    · exact yields_itemsUntil h close most _ xs rest hread

theorem yields_memberOf {read : String → Reader α} (h : ∀ name, Yields (read name) P) :
    Yields (memberOf read) P := by
  intro bs x rest hread
  cases bs with
  | nil => cases hread
  | cons b bs =>
    rw [memberOf] at hread
    split at hread
    · obtain ⟨⟨name, bs'⟩, -, hread⟩ := Option.bind_eq_some_iff.1 hread
      dsimp only at hread
      split at hread
      · exact h name _ x rest hread
      · cases hread
    · cases hread

theorem yields_keyword {word : Bytes} {x : α} (h : P x) : Yields (keyword word x) P := by
  intro bs y rest hread
  rw [keyword] at hread
  split at hread
  · cases hread
    exact h
  · cases hread

theorem sorted_number : Yields number Sorted := by
  intro bs v rest hread
  obtain ⟨⟨n, bs'⟩, -, hread⟩ := Option.bind_eq_some_iff.1 hread
  dsimp only at hread
  split at hread
  · cases hread
    exact .int _
  · obtain ⟨x, -, hv⟩ := Option.map_eq_some_iff.1 hread
    cases hv
    exact .real x

theorem sorted_scalar : Yields scalar Sorted := by
  intro bs v rest hread
  cases bs with
  | nil => cases hread
  | cons b bs =>
    rw [scalar] at hread
    split at hread
    · obtain ⟨⟨s, bs'⟩, -, hv⟩ := Option.map_eq_some_iff.1 hread
      cases hv
      exact .str s
    · split at hread
      · exact yields_keyword .null bs v rest hread
      · split at hread
        · exact yields_keyword (.bool true) bs v rest hread
        · split at hread
          · exact yields_keyword (.bool false) bs v rest hread
          · exact sorted_number (b :: bs) v rest hread

/-- Every value that is read has the members of its objects in order. -/
theorem sorted_value (most depth : Nat) : Yields (value most depth) Sorted := by
  induction depth with
  | zero => exact sorted_scalar
  | succ depth ih =>
    intro bs v rest hread
    cases bs with
    | nil => cases hread
    | cons b bs =>
      rw [value] at hread
      dsimp only at hread
      split at hread
      · exact (yields_enclosed ih most 0x5D).map (fun _ h => .arr h) bs v rest hread
      · split at hread
        · -- the members come in any order, and are put in order once all of them are read
          have hmembers : Yields _ fun m : String × Json => Sorted m.2 :=
            yields_memberOf fun name => ih.map (f := fun v => (name, v)) fun _ h => h
          exact (yields_enclosed hmembers most 0x7D).map (fun _ h => sorted_mkObj h) bs v rest hread
        · exact sorted_scalar (b :: bs) v rest hread

end Reader

end SecureUpdate.Json
