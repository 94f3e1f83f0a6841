/-!
Byte strings, and the texts that they hold in UTF-8. Main statement: `toText?_eq_some_iff`, bytes
hold a text exactly when they are the UTF-8 form of that text, so the form is unique.
-/

namespace SecureUpdate

/-- A string of bytes. -/
abbrev Bytes := List UInt8

namespace Bytes

/-- The UTF-8 form of a text. -/
def ofText (s : String) : Bytes := s.toUTF8.data.toList

/-- The text whose UTF-8 form these bytes are. -/
def toText? (bs : Bytes) : Option String := String.fromUTF8? ⟨bs.toArray⟩

theorem toText?_ofText (s : String) : toText? (ofText s) = some s := by
  have h : (⟨(ofText s).toArray⟩ : ByteArray) = s.toUTF8 := by simp [ofText]
  rw [toText?, h, String.fromUTF8?, String.toUTF8_eq_toByteArray, dif_pos s.isValidUTF8]
  rfl

theorem eq_ofText_of_toText? {bs : Bytes} {s : String} (h : toText? bs = some s) :
    bs = ofText s := by
  rw [toText?, String.fromUTF8?] at h
  split at h
  · simp only [Option.some.injEq] at h
    subst h
    simp [ofText, String.toUTF8_eq_toByteArray, String.fromUTF8]
  · simp at h

/-- Bytes hold a text exactly when they are its UTF-8 form. -/
theorem toText?_eq_some_iff {bs : Bytes} {s : String} : toText? bs = some s ↔ bs = ofText s :=
  ⟨eq_ofText_of_toText?, fun h => h ▸ toText?_ofText s⟩

theorem ofText_injective {s t : String} (h : ofText s = ofText t) : s = t := by
  have := congrArg toText? h
  simpa [toText?_ofText] using this

theorem ofText_inj {s t : String} : ofText s = ofText t ↔ s = t :=
  ⟨ofText_injective, congrArg ofText⟩

end Bytes

end SecureUpdate
