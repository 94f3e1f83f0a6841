import SecureUpdate.Text.Percent

/-!
Percent-encoding keeps texts apart. The written forms of bytes are told apart by how they begin: a
byte that stands for itself is no percent sign, and two digits after one give a byte back. So where
the written form of a byte ends is known, and a text is read back byte by byte. No written form has
a slash in it.

Main statements: `encode_injective`, `slash_notMem_encode`.
-/

namespace SecureUpdate.Text.Percent

variable {b b' : UInt8} {r r' : List Char}

/-- A byte that stands for itself is a character that is neither a percent sign nor a slash. -/
theorem plain_char (h : isPlain b = true) :
    (Char.ofNat b.toNat).toNat = b.toNat ∧ Char.ofNat b.toNat ≠ '%' ∧ Char.ofNat b.toNat ≠ '/' := by
  have hall : ∀ n : Fin 256, isPlain (UInt8.ofNat n) = true →
      (Char.ofNat n).toNat = n ∧ Char.ofNat n ≠ '%' ∧ Char.ofNat n ≠ '/' := by decide +kernel
  refine hall ⟨b.toNat, b.toNat_lt⟩ ?_
  rwa [UInt8.ofNat_toNat]

/-- The upper-case digits are read back, and none is a slash. -/
theorem digit_toUpper {n : Nat} (h : n < 16) :
    Hex.digitValue? (Hex.digit n).toUpper = some n ∧ (Hex.digit n).toUpper ≠ '/' := by
  have hall : ∀ m : Fin 16, Hex.digitValue? (Hex.digit m).toUpper = some m.val ∧
      (Hex.digit m).toUpper ≠ '/' := by decide
  exact hall ⟨n, h⟩

theorem digit_toUpper_inj {m n : Nat} (hm : m < 16) (hn : n < 16)
    (h : (Hex.digit m).toUpper = (Hex.digit n).toUpper) : m = n := by
  have hvalue := (digit_toUpper hm).1
  rw [h, (digit_toUpper hn).1] at hvalue
  exact (Option.some.inj hvalue).symm

theorem escape_append_inj (h : escape b ++ r = escape b' ++ r') : b = b' ∧ r = r' := by
  have hb := b.toNat_lt
  have hb' := b'.toNat_lt
  obtain ⟨-, hhigh, hlow, hrest⟩ : '%' = '%' ∧ (Hex.digit (b.toNat / 16)).toUpper = _ ∧
      (Hex.digit (b.toNat % 16)).toUpper = _ ∧ r = r' := by
    simpa only [escape, List.cons_append, List.nil_append, List.cons.injEq] using h
  have hquot := digit_toUpper_inj (by omega) (by omega) hhigh
  have hrem := digit_toUpper_inj (by omega) (by omega) hlow
  exact ⟨UInt8.toNat_inj.1 (by omega), hrest⟩

/-- The written form of a byte ends where it ends, whatever follows. -/
theorem encodeByte_append_inj (h : encodeByte b ++ r = encodeByte b' ++ r') : b = b' ∧ r = r' := by
  unfold encodeByte at h
  split at h <;> split at h
  · rename_i hplain hplain'
    obtain ⟨hchar, hrest⟩ := List.cons.inj h
    refine ⟨UInt8.toNat_inj.1 ?_, hrest⟩
    rw [← (plain_char hplain).1, hchar, (plain_char hplain').1]
  · rename_i hplain _
    exact absurd (List.cons.inj h).1 (plain_char hplain).2.1
  · rename_i _ hplain'
    exact absurd (List.cons.inj h).1.symm (plain_char hplain').2.1
  · exact escape_append_inj h

theorem encodeByte_ne_nil : encodeByte b ≠ [] := by
  unfold encodeByte
  split <;> exact nofun

theorem encodeBytes_injective {bs bs' : Bytes} (h : encodeBytes bs = encodeBytes bs') :
    bs = bs' := by
  induction bs generalizing bs' with
  | nil =>
    cases bs' with
    | nil => rfl
    | cons b' bs' => exact absurd (List.append_eq_nil_iff.1 h.symm).1 encodeByte_ne_nil
  | cons b bs ih =>
    cases bs' with
    | nil => exact absurd (List.append_eq_nil_iff.1 h).1 encodeByte_ne_nil
    | cons b' bs' =>
      obtain ⟨rfl, hrest⟩ := encodeByte_append_inj h
      rw [ih hrest]

/-- Different texts have different percent-encoded forms. -/
theorem encode_injective {s s' : String} (h : encode s = encode s') : s = s' :=
  Bytes.ofText_injective (encodeBytes_injective (String.ofList_inj.1 h))

theorem slash_notMem_encodeByte : '/' ∉ encodeByte b := by
  have hb := b.toNat_lt
  unfold encodeByte
  split
  · rename_i hplain
    rw [List.mem_singleton]
    exact (plain_char hplain).2.2.symm
  · have hhigh := (digit_toUpper (n := b.toNat / 16) (by omega)).2.symm
    have hlow := (digit_toUpper (n := b.toNat % 16) (by omega)).2.symm
    simp [escape, hhigh, hlow]

/-- No percent-encoded text has a slash in it. -/
theorem slash_notMem_encode (s : String) : '/' ∉ (encode s).toList := by
  rw [encode, String.toList_ofList, encodeBytes, List.mem_flatMap]
  rintro ⟨b, -, hslash⟩
  exact slash_notMem_encodeByte hslash

end SecureUpdate.Text.Percent
