import SecureUpdate.Proofs.Json.Readability
import SecureUpdate.Unicode.NormalForm

/-!
One value for one canonical form. A value has a canonical form exactly when none of its numbers is
in floating point. Where its texts are in normal form, as ASCII texts are, and its members in order,
as they are in every value that is read, the form is the form of no other such value.

Main statements: `exists_write_iff`, `canonical_injective`.
-/

namespace SecureUpdate.Json

variable {normalize : List Char → List Char} {v w : Json}

/-! ### Which values have a canonical form -/

/-- Whether no number in a value is in floating point. -/
inductive Integral : Json → Prop where
  | null : Integral .null
  | bool (b) : Integral (.bool b)
  | int (n) : Integral (.int n)
  | str (s) : Integral (.str s)
  | arr {items} (hitems : ∀ v ∈ items, Integral v) : Integral (.arr items)
  | obj {members} (hmembers : ∀ m ∈ members, Integral m.2) : Integral (.obj members)

theorem exists_writeItems_iff {items : List Json} :
    (∃ ts, writeItems normalize items = some ts) ↔
      ∀ v ∈ items, ∃ t, write normalize v = some t := by
  induction items with
  | nil => simp [writeItems]
  | cons v vs ih =>
    rw [List.forall_mem_cons, ← ih, writeItems]
    cases write normalize v <;> cases writeItems normalize vs <;> simp

theorem exists_writeEach_iff {members : List (String × Json)} :
    (∃ es, writeEach normalize members = some es) ↔
      ∀ m ∈ members, ∃ t, write normalize m.2 = some t := by
  induction members with
  | nil => simp [writeEach]
  | cons m ms ih =>
    rw [List.forall_mem_cons, ← ih, writeEach]
    cases write normalize m.2 <;> cases writeEach normalize ms <;> simp

/-- A value has a canonical form exactly when none of its numbers is in floating point. -/
theorem exists_write_iff : (∃ t, write normalize v = some t) ↔ v.Integral := by
  induction v using of_parts with
  | null => exact ⟨fun _ => .null, fun _ => ⟨_, rfl⟩⟩
  | bool b => exact ⟨fun _ => .bool b, fun _ => by cases b <;> exact ⟨_, rfl⟩⟩
  | int n => exact ⟨fun _ => .int n, fun _ => ⟨_, rfl⟩⟩
  | real x =>
    constructor
    · rintro ⟨t, ⟨⟩⟩
    · rintro ⟨⟩
  | str s => exact ⟨fun _ => .str s, fun _ => ⟨_, rfl⟩⟩
  | arr items ih =>
    constructor
    · rintro ⟨t, ht⟩
      obtain ⟨ts, hts, -⟩ := Option.map_eq_some_iff.1 ht
      exact .arr fun v hv => (ih v hv).1 (exists_writeItems_iff.1 ⟨ts, hts⟩ v hv)
    · rintro ⟨⟩
      rename_i hitems
      obtain ⟨ts, hts⟩ := exists_writeItems_iff.2 fun v hv => (ih v hv).2 (hitems v hv)
      exact ⟨_, Option.map_eq_some_iff.2 ⟨ts, hts, rfl⟩⟩
  | obj members ih =>
    constructor
    · rintro ⟨t, ht⟩
      obtain ⟨es, hes, -⟩ := Option.map_eq_some_iff.1 ht
      exact .obj fun m hm => (ih m hm).1 (exists_writeEach_iff.1 ⟨es, hes⟩ m hm)
    · rintro ⟨⟩
      rename_i hmembers
      obtain ⟨es, hes⟩ := exists_writeEach_iff.2 fun m hm => (ih m hm).2 (hmembers m hm)
      exact ⟨_, Option.map_eq_some_iff.2 ⟨es, hes, rfl⟩⟩

/-! ### ASCII texts -/

/-- The characters of the runs of a text are characters of the text. -/
theorem mem_of_mem_runs {run cs r : List Char} {c : Char} (hr : r ∈ runs run cs) (hc : c ∈ r) :
    c ∈ run ∨ c ∈ cs := by
  induction cs generalizing run with
  | nil =>
    cases List.mem_singleton.1 hr
    exact .inl (List.mem_reverse.1 hc)
  | cons d ds ih =>
    rw [runs] at hr
    split at hr
    · rcases List.mem_cons.1 hr with rfl | hr
      · exact .inl (List.mem_reverse.1 hc)
      · rcases ih hr with hnil | hds
        · cases hnil
        · exact .inr (List.mem_cons_of_mem d hds)
    · rcases ih hr with hrun | hds
      · rcases List.mem_cons.1 hrun with rfl | hrun
        · exact .inr List.mem_cons_self
        · exact .inl hrun
      · exact .inr (List.mem_cons_of_mem d hds)

/-- Whether all strings and names in a value are ASCII. -/
def isAscii (v : Json) : Bool := v.strings.all fun s => s.toList.all fun c => c.toNat < 0x80

/-- ASCII values are in normal form C. -/
theorem normal_of_ascii (h : v.isAscii = true) : v.Normal Unicode.normalFormC := by
  intro s hs r hr
  have hascii : r.all (fun c => c.toNat < 0xC0) = true := by
    rw [List.all_eq_true]
    intro c hc
    rcases mem_of_mem_runs hr hc with hnil | hmem
    · cases hnil
    · have hlow : c.toNat < 0x80 :=
        of_decide_eq_true (List.all_eq_true.1 (List.all_eq_true.1 h s hs) c hmem)
      exact decide_eq_true (by omega)
  rw [Unicode.normalFormC, if_pos hascii]

/-! ### The value of a canonical form -/

/-- Two values that are written alike are equal, if the one has no number in floating point, and in
both every run of ordinary characters, in strings and in names, is its own normal form and the
members stand in the order of their names. -/
theorem canonical_injective (hv : v.Integral) (hvnormal : v.Normal normalize)
    (hwnormal : w.Normal normalize) (hvsorted : v.Sorted) (hwsorted : w.Sorted)
    (h : canonical normalize v = canonical normalize w) : v = w := by
  obtain ⟨t, ht⟩ := exists_write_iff.2 hv
  have hcanonical : canonical normalize w = some (Bytes.ofText (String.ofList t)) := by
    rw [← h, canonical, ht, Option.map_some]
  obtain ⟨t', ht', hbytes⟩ := Option.map_eq_some_iff.1 hcanonical
  have htext : t' = t := String.ofList_injective (Bytes.ofText_injective hbytes)
  rw [htext] at ht'
  exact write_injective hvnormal hwnormal hvsorted hwsorted ht ht'

/-- Members in one order and in the other, with a quote, a backslash and a line break in a name and
in a string. -/
theorem canonical_injective_reordered :
    let v := mkObj [("b", .arr [.int (-1), .null]), ("a\"\n", .str "\\\"")]
    let w := Json.obj [("a\"\n", .str "\\\""), ("b", .arr [.int (-1), .null])]
    canonical Unicode.normalFormC v = canonical Unicode.normalFormC w ∧ v = w := by
  intro v w
  have halike : canonical Unicode.normalFormC v = canonical Unicode.normalFormC w := by
    decide +kernel
  have hintegral : (write id v).isSome = true := by decide +kernel
  have hitems : Sorted (.arr [.int (-1), .null]) :=
    .arr (List.forall_mem_cons.2 ⟨.int _, List.forall_mem_singleton.2 .null⟩)
  have hvsorted : v.Sorted :=
    sorted_mkObj (List.forall_mem_cons.2 ⟨hitems, List.forall_mem_singleton.2 (.str _)⟩)
  have hwsorted : w.Sorted :=
    .obj (List.pairwise_pair.2 (by decide))
      (List.forall_mem_cons.2 ⟨.str _, List.forall_mem_singleton.2 hitems⟩)
  exact ⟨halike, canonical_injective (exists_write_iff.1 (Option.isSome_iff_exists.1 hintegral))
    (normal_of_ascii (by decide +kernel)) (normal_of_ascii (by decide +kernel)) hvsorted hwsorted
    halike⟩

end SecureUpdate.Json
