import SecureUpdate.Files.Tree
import SecureUpdate.Proofs.Chain
import SecureUpdate.Transport.Fetchers

/-!
The ceiling on bodies is one and the same, however they are moved. Over HTTP a length may be
declared, and the body arrives in pieces; of a file one byte past the ceiling is read. Either way
the whole body is given when it is no longer than the ceiling, and else the ceiling is reported with
a length above it that the body has.

Main statements: `collect_cases`, `fetchHttp_reportsAbove`, `fetchFile_reportsAbove`,
`fetchHttp_fetchFile_capped`.
-/

namespace SecureUpdate

open Chain

/-- Whether a failure, if it says that a body is too long, reports the ceiling and a length above
it. -/
def FetchError.ReportsAbove (maxLength : UInt64) : FetchError → Prop
  | .lengthExceeded ceiling received =>
    ceiling = maxLength.toNat ∧ maxLength.toNat < received
  | _ => True

namespace Transport

/-- What a body comes to under a ceiling: all of it if it is no longer, and else the refusal that
reports the ceiling and how much of the body is known to be there, which is more. -/
inductive Capped (maxLength : UInt64) (body : Bytes) : Except FetchError Bytes → Prop
  | whole (hwithin : body.length ≤ maxLength.toNat) : Capped maxLength body (.ok body)
  | refused {received : Nat} (habove : maxLength.toNat < received)
    (hpart : received ≤ body.length) :
    Capped maxLength body (.error (.lengthExceeded maxLength.toNat received))

/-- A response that succeeds, and that delivers a body to its end, in whatever pieces. It declares
no length, or that of the body, which then is one that can be declared. -/
structure Response.Delivers (r : Response) (body : Bytes) : Prop where
  success : 200 ≤ r.status ∧ r.status < 300
  unbroken : r.broken = false
  flatten : r.chunks.flatten = body
  declared : r.declared = none ∨ r.declared = some body.length ∧ body.length ≤ greatestDeclared

variable {maxLength : UInt64} {received : Nat} {chunks : List Bytes} {body bs : Bytes}
  {result : Except FetchError Bytes} {r : Response}

theorem Capped.eq_ok_iff (h : Capped maxLength body result) :
    result = .ok bs ↔ bs = body ∧ body.length ≤ maxLength.toNat := by
  cases h with
  | whole hwithin => simp [hwithin, eq_comm]
  | refused habove hpart =>
    have hlong : ¬ body.length ≤ maxLength.toNat := by omega
    simp [hlong]

/-- Of a body that is too long by one byte the exact length is reported. -/
theorem Capped.eq_error_of_length_eq (h : Capped maxLength body result)
    (hlength : body.length = maxLength.toNat + 1) :
    result = .error (.lengthExceeded maxLength.toNat body.length) := by
  cases h with
  | whole hwithin => omega
  | refused habove hpart => rw [Nat.le_antisymm hpart (by omega)]

/-! ### Pieces -/

/-- Pieces are collected to the last one, or to the first one that leads above the ceiling. As long
as none has, what was received is within it. -/
theorem collect_cases (maxLength : UInt64) (chunks : List Bytes)
    (h : received ≤ maxLength.toNat) :
    (received + chunks.flatten.length ≤ maxLength.toNat ∧
      collect maxLength received chunks = .ok chunks.flatten) ∨
    ∃ before chunk after, chunks = before ++ chunk :: after ∧
      received + before.flatten.length ≤ maxLength.toNat ∧
      maxLength.toNat < received + (before ++ [chunk]).flatten.length ∧
      collect maxLength received chunks = .error (.lengthExceeded maxLength.toNat
        (received + (before ++ [chunk]).flatten.length)) := by
  induction chunks generalizing received with
  | nil => exact .inl ⟨h, rfl⟩
  | cons chunk chunks ih =>
    have hsum (pieces : List Bytes) : received + (chunk :: pieces).flatten.length =
        received + chunk.length + pieces.flatten.length := by
      rw [List.flatten_cons, List.length_append, Nat.add_assoc]
    rw [collect]
    by_cases hcross : maxLength.toNat < received + chunk.length
    · refine .inr ⟨[], chunk, chunks, rfl, h, ?_, ?_⟩
      · rwa [List.nil_append, hsum]
      · rw [if_pos hcross, List.nil_append, hsum]
        rfl
    · rw [if_neg hcross]
      rcases ih (Nat.le_of_not_lt hcross) with
        ⟨hwithin, hcollect⟩ | ⟨before, last, after, rfl, hbefore, habove, hcollect⟩
      · refine .inl ⟨by rwa [hsum], ?_⟩
        rw [hcollect, List.flatten_cons]
        rfl
      · refine .inr ⟨chunk :: before, last, after, rfl, by rwa [hsum], ?_, ?_⟩
        · rwa [List.cons_append, hsum]
        · rw [hcollect, List.cons_append, hsum]
          rfl

/-- However a body is cut into pieces, collecting them keeps to its ceiling. -/
theorem collect_capped (maxLength : UInt64) (chunks : List Bytes) :
    Capped maxLength chunks.flatten (collect maxLength 0 chunks) := by
  rcases collect_cases maxLength chunks (Nat.zero_le _) with
    ⟨hwithin, hcollect⟩ | ⟨before, chunk, after, rfl, -, habove, hcollect⟩
  · rw [Nat.zero_add] at hwithin
    rw [hcollect]
    exact .whole hwithin
  · rw [Nat.zero_add] at habove hcollect
    rw [hcollect, List.append_cons before chunk after, List.flatten_append]
    exact .refused habove (by rw [List.length_append]; exact Nat.le_add_right ..)

/-! ### Responses -/

namespace Response.Delivers

theorem isReadable (h : r.Delivers body) : r.isReadable = true := by
  have hfinal : isFinal r.status = true := by
    have hsuccess := h.success
    simp only [isFinal, Bool.or_eq_true, Bool.and_eq_true, decide_eq_true_eq]
    omega
  rcases h.declared with hnone | ⟨hsome, hdeclarable⟩
  · simp [Response.isReadable, hfinal, hnone]
  · simp [Response.isReadable, hfinal, hsome, hdeclarable]

/-- The declared length is looked at first, and then the pieces are collected. -/
theorem bodyOf_eq (h : r.Delivers body) (resource : String) (maxLength : UInt64) :
    bodyOf resource maxLength r =
      match r.declared with
      | some length =>
        if maxLength.toNat < length then .error (.lengthExceeded maxLength.toNat length)
        else collect maxLength 0 r.chunks
      | none => collect maxLength 0 r.chunks := by
  have hstatus : statusError? resource r.status = none := if_pos h.success
  simp only [bodyOf, h.isReadable, hstatus, h.unbroken, Bool.not_true, Bool.false_eq_true,
    if_false, bind_pure]
  cases r.declared with
  | none => rfl
  | some length => rfl

theorem bodyOf_capped (h : r.Delivers body) (resource : String) (maxLength : UInt64) :
    Capped maxLength body (bodyOf resource maxLength r) := by
  have hcollect : Capped maxLength body (collect maxLength 0 r.chunks) :=
    h.flatten ▸ collect_capped maxLength r.chunks
  rw [h.bodyOf_eq]
  rcases h.declared with hnone | ⟨hsome, -⟩
  · rwa [hnone]
  · rw [hsome]
    by_cases hlong : maxLength.toNat < body.length
    · simp only [if_pos hlong]
      exact .refused hlong (Nat.le_refl _)
    · simpa only [if_neg hlong] using hcollect

end Response.Delivers

theorem fetchHttp_capped {exchange : String → Response} {allowPlaintext : Bool} {url : String}
    (hsecure : requireSecure allowPlaintext url = .ok ()) (h : (exchange url).Delivers body)
    (maxLength : UInt64) :
    Capped maxLength body (fetchHttp exchange allowPlaintext url maxLength) := by
  rw [fetchHttp, hsecure]
  exact h.bodyOf_capped url maxLength

/-! ### Files -/

/-- Under the greatest ceiling there is no byte past it to be read, but no body is longer either. -/
theorem readUpTo_capped (maxLength : UInt64) (hlength : body.length < UInt64.size) :
    Capped maxLength body (readUpTo maxLength body) := by
  by_cases hwithin : body.length ≤ maxLength.toNat
  · have hwhole : body.take (onePast maxLength).toNat = body :=
      List.take_of_length_le (Nat.le_trans hwithin (le_onePast maxLength))
    simp only [readUpTo, hwhole, if_neg (Nat.not_lt.2 hwithin)]
    exact .whole hwithin
  · have hpast : maxLength.toNat < (onePast maxLength).toNat := lt_onePast (by omega)
    have hcut : maxLength.toNat < (body.take (onePast maxLength).toNat).length := by
      rw [List.length_take]
      omega
    simp only [readUpTo, if_pos hcut]
    exact .refused hcut (List.length_take_le' ..)

theorem fetchFile_capped {φ : Type} {fs : FileSystem φ} {d d' : φ} {path : String}
    (hread : fs.read (localPath path) d = (.ok body, d')) (hlength : body.length < UInt64.size)
    (maxLength : UInt64) : Capped maxLength body (fetchFile fs path maxLength d).1 := by
  simp only [fetchFile, hread]
  exact readUpTo_capped maxLength hlength

/-! ### Any transfer -/

theorem collect_reportsAbove (maxLength : UInt64) (chunks : List Bytes) :
    FailsWith (FetchError.ReportsAbove maxLength) (collect maxLength 0 chunks) := by
  rcases collect_cases maxLength chunks (Nat.zero_le _) with
    ⟨-, hcollect⟩ | ⟨before, chunk, after, -, -, habove, hcollect⟩
  · rw [hcollect]
    exact .ok
  · rw [hcollect]
    exact .error ⟨rfl, habove⟩

theorem statusError?_reportsAbove (maxLength : UInt64) {resource : String} {status : Nat}
    {e : FetchError} (h : statusError? resource status = some e) : e.ReportsAbove maxLength := by
  cases e with
  | lengthExceeded => grind [statusError?]
  | _ => trivial

/-- Whatever a response is like, a body is refused as too long only with a length above the ceiling.
-/
theorem bodyOf_reportsAbove (resource : String) (maxLength : UInt64) (r : Response) :
    FailsWith (FetchError.ReportsAbove maxLength) (bodyOf resource maxLength r) := by
  have hcollected : FailsWith (FetchError.ReportsAbove maxLength) (do
      let body ← collect maxLength 0 r.chunks
      if r.broken then
        throw (.transport "connection closed before the message completed")
      return body) :=
    (collect_reportsAbove maxLength r.chunks).bind fun _ => .ite_bind (.error trivial) .ok
  refine .ite_bind (.error trivial) ?_
  dsimp only
  cases hstatus : statusError? resource r.status with
  | some e => exact .error (statusError?_reportsAbove maxLength hstatus)
  | none =>
    cases r.declared with
    | none => exact hcollected
    | some declared =>
      by_cases hlong : maxLength.toNat < declared
      · simp only [if_pos hlong]
        exact .error ⟨rfl, hlong⟩
      · simp only [if_neg hlong]
        exact hcollected

theorem fetchHttp_reportsAbove (exchange : String → Response) (allowPlaintext : Bool)
    (url : String) (maxLength : UInt64) : FailsWith (FetchError.ReportsAbove maxLength)
      (fetchHttp exchange allowPlaintext url maxLength) := by
  have hsecure : FailsWith (FetchError.ReportsAbove maxLength)
      (requireSecure allowPlaintext url) := .ite (.error trivial) .ok
  exact hsecure.bind fun _ => bodyOf_reportsAbove url maxLength (exchange url)

theorem readUpTo_reportsAbove (maxLength : UInt64) (bs : Bytes) :
    FailsWith (FetchError.ReportsAbove maxLength) (readUpTo maxLength bs) := by
  unfold readUpTo
  dsimp only
  split
  · exact .error ⟨rfl, ‹_›⟩
  · exact .ok

theorem fetchFile_reportsAbove {φ : Type} (fs : FileSystem φ) (path : String) (maxLength : UInt64)
    (d : φ) :
    FailsWith (FetchError.ReportsAbove maxLength) (fetchFile fs path maxLength d).1 := by
  unfold fetchFile
  split
  · exact readUpTo_reportsAbove maxLength _
  · exact .error trivial
  · exact .error trivial

/-! ### Both ways -/

/-- **Both ways to move bytes keep to the same ceiling.** A body that a response delivers is given
whole when it is no longer than the ceiling, in whatever pieces it comes and whether its length is
declared or not. Otherwise what is reported is the ceiling and a length above it. A file with the
same content, of a length that 64 bits can tell, is given in exactly the same cases, and refused in
the same way in all others. -/
theorem fetchHttp_fetchFile_capped (exchange : String → Response) {allowPlaintext : Bool}
    {url : String} (maxLength : UInt64) {body : Bytes}
    (hsecure : requireSecure allowPlaintext url = .ok ())
    (hdelivers : (exchange url).Delivers body) :
    Capped maxLength body (fetchHttp exchange allowPlaintext url maxLength) ∧
    ∀ (φ : Type) (fs : FileSystem φ) (path : String) (d d' : φ),
      fs.read (localPath path) d = (.ok body, d') → body.length < UInt64.size →
        Capped maxLength body (fetchFile fs path maxLength d).1 ∧
        ∀ bs, fetchHttp exchange allowPlaintext url maxLength = .ok bs ↔
          (fetchFile fs path maxLength d).1 = .ok bs := by
  have hhttp := fetchHttp_capped hsecure hdelivers maxLength
  refine ⟨hhttp, fun φ fs path d d' hread hlength => ?_⟩
  have hfile := fetchFile_capped hread hlength maxLength
  exact ⟨hfile, fun bs => hhttp.eq_ok_iff.trans hfile.eq_ok_iff.symm⟩

namespace Digits

/-- Ten bytes, in three pieces of which one is empty, and in a file. -/
def pieces : List Bytes := [Bytes.ofText "0123", [], Bytes.ofText "456789"]

def response : Response := { status := 200, declared := none, chunks := pieces, broken := false }

def tree : FileTree := ⟨.ofList [("digits", .file pieces.flatten)]⟩

end Digits

open Digits in
/-- A ceiling of ten bytes lets ten bytes pass, and one of nine does not. -/
theorem fetchHttp_fetchFile_capped_digits :
    (fetchHttp (fun _ => response) true "http://a.example/digits" 10 = .ok pieces.flatten ∧
      (fetchFile FileTree.system "file:///digits" 10 tree).1 = .ok pieces.flatten) ∧
    fetchHttp (fun _ => response) true "http://a.example/digits" 9 =
      .error (.lengthExceeded 9 10) ∧
    (fetchFile FileTree.system "file:///digits" 9 tree).1 = .error (.lengthExceeded 9 10) := by
  have hsecure : requireSecure true "http://a.example/digits" = .ok () := rfl
  have hdelivers : response.Delivers pieces.flatten := ⟨by decide, rfl, rfl, .inl rfl⟩
  have hread : FileTree.system.read (localPath "file:///digits") tree =
      (.ok pieces.flatten, tree) := rfl
  obtain ⟨hhttp, hfile⟩ := fetchHttp_fetchFile_capped (fun _ => response) 10 hsecure hdelivers
  obtain ⟨hhttp', hfile'⟩ := fetchHttp_fetchFile_capped (fun _ => response) 9 hsecure hdelivers
  obtain ⟨-, hsame⟩ := hfile _ FileTree.system "file:///digits" tree tree hread (by decide)
  obtain ⟨hfile', -⟩ := hfile' _ FileTree.system "file:///digits" tree tree hread (by decide)
  have hten := hhttp.eq_ok_iff.2 ⟨rfl, by decide⟩
  exact ⟨⟨hten, (hsame _).1 hten⟩, hhttp'.eq_error_of_length_eq rfl,
    hfile'.eq_error_of_length_eq rfl⟩

end Transport

end SecureUpdate
