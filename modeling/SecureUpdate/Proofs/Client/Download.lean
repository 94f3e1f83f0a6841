import SecureUpdate.Client.Download
import SecureUpdate.Proofs.Chain
import SecureUpdate.Proofs.Files.Tree
import SecureUpdate.Proofs.Mirror.Failover
import SecureUpdate.Proofs.Mirror.Order

/-!
What a download leaves behind. The bytes of a target are checked before anything is written, and
what is written is moved over the destination as a whole. So after a download the destination holds
bytes that its description fits, and whoever looks finds them there; or the download has failed, and
no file has changed.

Main statement: `download_atomic`.
-/

namespace SecureUpdate

variable {ν κ φ σ L : Type}

/-! ### The description of a target -/

/-- Whether the description of a target fits bytes: they are as long as declared, and have every
declared digest, in either case of letters; and there is a declared digest. -/
structure Target.Fits (p : Primitives) (t : Target) (bs : Bytes) : Prop where
  length_eq : bs.length = t.length.toNat
  declared : t.hashes.entries ≠ []
  digests : ∀ e ∈ t.hashes.entries, ∃ actual,
    Hashes.digest? p e.1 bs = some actual ∧ Hashes.lowerCase actual = Hashes.lowerCase e.2

theorem Hashes.agrees_iff {p : Primitives} {bs : Bytes} {algorithm declared : String} :
    agrees p bs algorithm declared = true ↔ ∃ actual,
      digest? p algorithm bs = some actual ∧ lowerCase actual = lowerCase declared := by
  unfold agrees
  cases digest? p algorithm bs with
  | some actual => simp
  | none => simp

/-- The check of bytes passes exactly when the description fits. -/
theorem Target.check_eq_ok_iff {p : Primitives} {t : Target} {bs : Bytes} {u : Unit} :
    t.check p bs = .ok u ↔ t.Fits p bs := by
  have hempty : t.hashes.isEmpty = true ↔ t.hashes.entries = [] := List.isEmpty_iff
  have hdigests : t.hashes.firstMismatch p bs = none ↔ ∀ e ∈ t.hashes.entries, ∃ actual,
      Hashes.digest? p e.1 bs = some actual ∧ Hashes.lowerCase actual = Hashes.lowerCase e.2 := by
    rw [Hashes.firstMismatch_eq_none_iff]
    exact forall₂_congr fun _ _ => Hashes.agrees_iff
  unfold check
  constructor
  · intro h
    split at h
    · cases h
    · split at h
      · cases h
      · split at h
        · cases h
        · exact ⟨not_not.1 ‹_›, fun he => ‹¬ _› (hempty.2 he), hdigests.1 ‹_›⟩
  · intro h
    rw [if_neg (not_not.2 h.length_eq), if_neg fun he => h.declared (hempty.1 he),
      hdigests.2 h.digests]

/-! ### What is looked at and what is written -/

namespace Client

variable {c : Client ν κ} {fs : FileSystem φ} {t : Target} {p : Primitives}
  {destination path : String} {bs : Bytes} {d d' : φ} {w w' : World ν κ} {e : TrustError}

/-- Whoever looks at a file that can be read finds the target exactly when its bytes pass. -/
theorem holdsTarget_eq_ok_true_iff (h : fs.Gives path bs d) :
    (holdsTarget p fs t path d).1 = .ok true ↔ t.check p bs = .ok () := by
  obtain ⟨d', hsize, hread⟩ := h
  unfold holdsTarget
  rw [hsize]
  dsimp only
  split
  · -- the size alone tells that the bytes do not pass
    rename_i hlength
    refine ⟨nofun, fun hcheck => absurd (Target.check_eq_ok_iff.1 hcheck).length_eq hlength⟩
  · cases hfile : fs.read path d' with
    | mk r d'' =>
      rw [hfile] at hread
      cases hread
      dsimp only
      rw [Except.ok.injEq, Chain.isOk_iff]

/-- What is retrieved for a target has passed its check. -/
theorem fetchTarget_ok {committed : Option Trust}
    (h : c.fetchTarget committed t w = (.ok bs, w')) : t.check c.primitives bs = .ok () := by
  unfold fetchTarget at h
  cases hfetch : c.mirrorList.fetchVerified c.fetcher (Verifier.ofCheck (t.check c.primitives))
      (.target t.path (c.storedName committed t)) (onePast t.length) w.net () with
  | mk r rest =>
    simp only [hfetch] at h
    cases r with
    | error e => cases h
    | ok bs' =>
      cases h
      obtain ⟨s, hpassed⟩ := MirrorList.fetchVerified_ok (a := (w.net, ())) hfetch
      exact congrArg Prod.fst hpassed

section Writing

variable [DecidableEq L] {view : FileView φ L} (hfs : fs.Atomic view)
include hfs

/-- A file is written as a whole, or no file changes. -/
theorem writeFile_cases {r : Except TrustError Unit} (h : writeFile fs destination bs d = (r, d')) :
    (r = .ok () ∧ view.content d' =
        Function.update (view.content d) (view.place destination) (some bs) ∧
      fs.Gives destination bs d') ∨
    ∃ e, r = .error e ∧ view.content d' = view.content d := by
  unfold writeFile at h
  have hdirs := hfs.createDirs (FileTree.parent destination) d
  cases hcreate : fs.createDirs (FileTree.parent destination) d with
  | mk rc d₁ =>
    rw [hcreate] at hdirs
    simp only [hcreate] at h
    cases rc with
    | error e =>
      cases h
      exact .inr ⟨_, rfl, hdirs⟩
    | ok _ =>
      dsimp only at h
      cases hreplace : fs.replace (FileTree.parent destination) destination bs d₁ with
      | mk rr d₂ =>
        rw [hreplace] at h
        rcases hfs.replace_cases hreplace with ⟨rfl, hcontent, hgives⟩ | ⟨e, rfl, hsame⟩
        · cases h
          exact .inl ⟨rfl, hdirs ▸ hcontent, hgives⟩
        · cases e <;>
          · cases h
            exact .inr ⟨_, rfl, hsame.trans hdirs⟩

/-- A download writes bytes that pass, or fails and changes no file. -/
theorem download_cases {s s' : Session ν κ} {r : Except TrustError Unit}
    (h : c.download fs t destination s d = (r, s', d')) :
    (r = .ok () ∧ t.length ≤ c.limits.targetSizeCap ∧ ∃ bs, t.check c.primitives bs = .ok () ∧
        view.content d' = Function.update (view.content d) (view.place destination) (some bs) ∧
        fs.Gives destination bs d') ∨
    ∃ e, r = .error e ∧ view.content d' = view.content d := by
  unfold download at h
  split at h
  · cases h
    exact .inr ⟨_, rfl, rfl⟩
  · rename_i hceiling
    cases hfetch : c.fetchTarget s.committed t s.world with
    | mk rf w =>
      rw [hfetch] at h
      cases rf with
      | error e =>
        cases h
        exact .inr ⟨_, rfl, rfl⟩
      | ok bs =>
        dsimp only at h
        cases hwrite : writeFile fs destination bs d with
        | mk rw d₁ =>
          rw [hwrite] at h
          rcases writeFile_cases hfs hwrite with ⟨rfl, hcontent, hgives⟩ | ⟨e, rfl, hsame⟩
          · cases h
            exact .inl ⟨rfl, UInt64.not_lt.1 hceiling, bs, fetchTarget_ok hfetch, hcontent, hgives⟩
          · cases h
            exact .inr ⟨e, rfl, hsame⟩

/-- A download is verified and atomic, whatever the mirrors do and whichever steps on files fail. If
it succeeds, the destination holds bytes that the description of the target fits and that are within
the ceiling, no other file has changed, and the target is found at the destination. If it fails, no
file has changed. And wherever there is a file that can be read, the target is found there exactly
when the bytes of the file pass its check. -/
theorem download_atomic (c : Client ν κ) (t : Target) (destination : String) (s : Session ν κ)
    (d : φ) :
    let done := c.download fs t destination s d
    (done.1 = .ok () → ∃ bs, view.content done.2.2 =
        Function.update (view.content d) (view.place destination) (some bs) ∧
      t.Fits c.primitives bs ∧ t.length ≤ c.limits.targetSizeCap ∧
      (holdsTarget c.primitives fs t destination done.2.2).1 = .ok true) ∧
    (∀ e, done.1 = .error e → view.content done.2.2 = view.content d) ∧
    ∀ path bs d, fs.Gives path bs d →
      ((holdsTarget c.primitives fs t path d).1 = .ok true ↔ t.check c.primitives bs = .ok ()) := by
  intro done
  have hdone : c.download fs t destination s d = (done.1, done.2.1, done.2.2) := rfl
  refine ⟨fun hok => ?_, fun e he => ?_, fun path bs d => holdsTarget_eq_ok_true_iff⟩
  · rcases download_cases hfs hdone with ⟨-, hceiling, bs, hcheck, hcontent, hgives⟩ | ⟨e, he, -⟩
    · exact ⟨bs, hcontent, Target.check_eq_ok_iff.1 hcheck, hceiling,
        (holdsTarget_eq_ok_true_iff hgives).2 hcheck⟩
    · cases he.symm.trans hok
  · rcases download_cases hfs hdone with ⟨hok, -⟩ | ⟨e', -, hsame⟩
    · cases hok.symm.trans he
    · exact hsame

end Writing

namespace Replaced

open FileSystem

/-- A target of one byte, whose digest is declared in other letters than it is computed in. -/
def target : Target :=
  { path := "a", length := 1, hashes := .ofList [("sha256", "AB")], custom := none }

/-- A client of two mirrors: the first one serves another byte under the path of the target. -/
def client : Client (List (String × UInt64)) (Dict Bytes) :=
  served [.ofUrl "https://a.example", .ofUrl "https://b.example"]
    [("https://a.example/targets/a", [0]), ("https://b.example/targets/a", [0xAB])] []

def session : Session (List (String × UInt64)) (Dict Bytes) := ⟨none, [], .empty, []⟩

/-- Files among which the destination holds one byte already, where the next steps go as told. -/
def files (next : List Bool) : FileTree × List Bool :=
  ((FileTree.empty.withFile "out/a" [7]).toOption.getD .empty, next)

/-- How the download goes. -/
def run (next : List Bool) :
    Except TrustError Unit × Session (List (String × UInt64)) (Dict Bytes) × FileTree × List Bool :=
  client.download FileTree.system.unsteady target "out/a" session (files next)

def view : FileView (FileTree × List Bool) (Option String) := FileTree.view.beside (List Bool)

end Replaced

open Replaced in
/-- A byte is replaced by what the second mirror serves. When all goes well but the last step, which
is to move the temporary file, it stays. -/
theorem download_atomic_replaced :
    ((run []).1 = .ok () ∧ (∃ bs, view.content (run []).2.2 =
        Function.update (view.content (files [])) (view.place "out/a") (some bs) ∧
          target.Fits .transparent bs) ∧
      (holdsTarget .transparent FileTree.system.unsteady target "out/a" (run []).2.2).1 =
        .ok true) ∧
    (∃ e, (run [true, true, true, true, false]).1 = .error e ∧
      view.content (run [true, true, true, true, false]).2.2 =
        view.content (files [true, true, true, true, false])) := by
  have hfs : FileTree.system.unsteady.Atomic view := FileTree.system_atomic.unsteady
  have hruns : (run []).1.isOk = true ∧ (run [true, true, true, true, false]).1.isOk = false := by
    decide +kernel
  obtain ⟨hok, hfails⟩ := hruns
  have hdone : (run []).1 = .ok () := Chain.isOk_iff.1 hok
  refine ⟨⟨hdone, ?_⟩, ?_⟩
  · obtain ⟨bs, hcontent, hfits, -, hholds⟩ :=
      (download_atomic hfs client target "out/a" session (files [])).1 hdone
    exact ⟨⟨bs, hcontent, hfits⟩, hholds⟩
  · cases he : (run [true, true, true, true, false]).1 with
    | ok _ =>
      rw [he] at hfails
      cases hfails
    | error e => exact ⟨e, rfl, (download_atomic hfs client target "out/a" session
        (files [true, true, true, true, false])).2.1 e he⟩

end Client

end SecureUpdate
