/-!
Finite maps with ordered keys. A map is the list of its entries in strictly increasing key order, so
two maps with the same entries are the same value, and walking a map walks its keys in order.
Main statements: `get?_insert` and `get?_erase` say what the two updates do to a look-up.
-/

namespace SecureUpdate

/-- A strict order in which any two different keys compare. -/
class KeyOrder (κ : Type) [LT κ] : Prop where
  irrefl : ∀ a : κ, ¬ a < a
  trans : ∀ {a b c : κ}, a < b → b < c → a < c
  connected : ∀ {a b : κ}, ¬ a < b → ¬ b < a → a = b

instance : KeyOrder String where
  irrefl := String.lt_irrefl
  trans := String.lt_trans
  connected h₁ h₂ := String.le_antisymm h₂ h₁

instance : KeyOrder (List UInt8) where
  irrefl := List.lt_irrefl
  trans := List.lt_trans
  connected h₁ h₂ := List.le_antisymm h₂ h₁

/-- A finite map from `κ` to `α`: its entries in increasing key order. -/
structure SortedMap (κ : Type) [LT κ] (α : Type) where
  entries : List (κ × α)
  sorted : entries.Pairwise fun a b => a.1 < b.1
deriving DecidableEq

/-- A finite map whose keys are texts. -/
abbrev Dict (α : Type) := SortedMap String α

namespace SortedMap

variable {κ α β : Type} [LT κ]

/-- The map without entries. -/
def empty : SortedMap κ α := ⟨[], .nil⟩

instance : EmptyCollection (SortedMap κ α) := ⟨empty⟩
instance : Inhabited (SortedMap κ α) := ⟨empty⟩

def keys (m : SortedMap κ α) : List κ := m.entries.map (·.1)
def values (m : SortedMap κ α) : List α := m.entries.map (·.2)
def size (m : SortedMap κ α) : Nat := m.entries.length
def isEmpty (m : SortedMap κ α) : Bool := m.entries.isEmpty

section Lookup

variable [DecidableEq κ]

/-- The value of the first entry of `k`. -/
def findEntry (k : κ) : List (κ × α) → Option α
  | [] => none
  | e :: es => if e.1 = k then some e.2 else findEntry k es

/-- The value stored under `k`. -/
def get? (m : SortedMap κ α) (k : κ) : Option α := findEntry k m.entries

def contains (m : SortedMap κ α) (k : κ) : Bool := (m.get? k).isSome

/-- The map without the entry of `k`. -/
def erase (m : SortedMap κ α) (k : κ) : SortedMap κ α :=
  ⟨m.entries.filter (·.1 ≠ k), m.sorted.filter _⟩

end Lookup

/-- The same keys, each value replaced by `f` of its key and itself. -/
def mapEntries (f : κ → α → β) (m : SortedMap κ α) : SortedMap κ β :=
  ⟨m.entries.map fun e => (e.1, f e.1 e.2), by
    simpa [List.pairwise_map] using m.sorted⟩

section Insertion

variable [DecidableLT κ]

/-- Puts an entry at its place in a sorted list, replacing an entry of the same key. -/
def insertEntry (k : κ) (v : α) : List (κ × α) → List (κ × α)
  | [] => [(k, v)]
  | e :: es => if k < e.1 then (k, v) :: e :: es
    else if e.1 < k then e :: insertEntry k v es
    else (k, v) :: es

theorem mem_insertEntry {k : κ} {v : α} {es : List (κ × α)} {e : κ × α}
    (h : e ∈ insertEntry k v es) : e = (k, v) ∨ e ∈ es := by
  induction es with
  | nil => simpa [insertEntry] using h
  | cons d es ih =>
    rw [insertEntry] at h
    split at h
    · simpa using h
    · split at h
      · rcases List.mem_cons.1 h with rfl | h
        · simp
        · rcases ih h with h | h <;> simp [h]
      · rcases List.mem_cons.1 h with h | h <;> simp [h]

theorem pairwise_insertEntry [KeyOrder κ] (k : κ) (v : α) {es : List (κ × α)}
    (h : es.Pairwise fun a b => a.1 < b.1) :
    (insertEntry k v es).Pairwise fun a b => a.1 < b.1 := by
  induction es with
  | nil => simp [insertEntry]
  | cons d es ih =>
    have ⟨hd, hes⟩ := List.pairwise_cons.1 h
    rw [insertEntry]
    split
    · rename_i hk
      refine List.pairwise_cons.2 ⟨?_, h⟩
      intro b hb
      rcases List.mem_cons.1 hb with rfl | hb
      · exact hk
      · exact KeyOrder.trans hk (hd b hb)
    · split
      · rename_i hk
        refine List.pairwise_cons.2 ⟨?_, ih hes⟩
        intro b hb
        rcases mem_insertEntry hb with rfl | hb
        · exact hk
        · exact hd b hb
      · rename_i h₁ h₂
        have : k = d.1 := KeyOrder.connected h₁ h₂
        subst this
        exact List.pairwise_cons.2 ⟨hd, hes⟩

variable [KeyOrder κ]

/-- The map with `v` stored under `k`. -/
def insert (m : SortedMap κ α) (k : κ) (v : α) : SortedMap κ α :=
  ⟨insertEntry k v m.entries, pairwise_insertEntry k v m.sorted⟩

/-- Stores the pairs in turn, so the last of two pairs with one key stays. -/
def ofList (es : List (κ × α)) : SortedMap κ α :=
  es.foldl (fun m e => m.insert e.1 e.2) empty

end Insertion

section Laws

variable [DecidableEq κ]

@[simp] theorem get?_empty (k : κ) : (empty : SortedMap κ α).get? k = none := rfl

theorem findEntry_insertEntry [DecidableLT κ] [KeyOrder κ] (k : κ) (v : α) (j : κ)
    (es : List (κ × α)) :
    findEntry j (insertEntry k v es) = if k = j then some v else findEntry j es := by
  induction es with
  | nil => simp [insertEntry, findEntry]
  | cons d es ih =>
    rw [insertEntry]
    split
    · simp [findEntry]
    · split
      · rename_i hk
        by_cases hj : d.1 = j
        · have : k ≠ j := fun e => KeyOrder.irrefl k (by rwa [hj, ← e] at hk)
          simp [findEntry, hj, this]
        · simp [findEntry, hj, ih]
      · rename_i h₁ h₂
        have : k = d.1 := KeyOrder.connected h₁ h₂
        by_cases hj : k = j <;> simp [findEntry, ← this, hj]

omit [LT κ] in
theorem findEntry_filter (k j : κ) (es : List (κ × α)) :
    findEntry j (es.filter (·.1 ≠ k)) = if k = j then none else findEntry j es := by
  induction es with
  | nil => simp [findEntry]
  | cons d es ih =>
    by_cases hd : d.1 = k <;> by_cases hj : k = j <;>
      simp_all [findEntry]

/-- A stored value is found again, and other keys keep what they had. -/
theorem get?_insert [DecidableLT κ] [KeyOrder κ] (m : SortedMap κ α) (k : κ) (v : α) (j : κ) :
    (m.insert k v).get? j = if k = j then some v else m.get? j :=
  findEntry_insertEntry k v j m.entries

/-- An erased key has no value, and other keys keep what they had. -/
theorem get?_erase (m : SortedMap κ α) (k j : κ) :
    (m.erase k).get? j = if k = j then none else m.get? j :=
  findEntry_filter k j m.entries

end Laws

end SortedMap

end SecureUpdate
