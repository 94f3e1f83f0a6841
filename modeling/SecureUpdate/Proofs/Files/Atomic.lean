import Mathlib.Logic.Function.Basic
import SecureUpdate.Files.System

/-!
What files are relied on for. Any step may fail. Directories and temporary files come into being
beside what is there, a file is written at its own place only, and a file is moved at once or not at
all. Under these laws the content of a file is replaced as a whole, or nothing changes. Files that
keep the laws keep them when some of their steps are made to fail.

Main statements: `Atomic.replace_cases`, `Atomic.unsteady`.
-/

namespace SecureUpdate

variable {φ L : Type}

/-- A way to look at files. Different paths may name one place. -/
structure FileView (φ L : Type) where
  /-- The place that a path names. -/
  place : (path : String) → L
  /-- The bytes of the file at a place, if there is one. -/
  content : φ → L → Option Bytes
  /-- Whether a path can be followed to its place, where a file may or may not be. -/
  Leads : φ → (path : String) → Prop

/-- Whether no file changes, except at one place. -/
def FileView.SameBut (view : FileView φ L) (place : L) (d d' : φ) : Prop :=
  ∀ other, other ≠ place → view.content d' other = view.content d other

namespace FileView

variable {view : FileView φ L} {place : L} {d d' d'' : φ}

theorem SameBut.of_eq (h : view.content d' = view.content d) : view.SameBut place d d' :=
  fun other _ => congrFun h other

theorem SameBut.trans (h : view.SameBut place d d') (h' : view.SameBut place d' d'') :
    view.SameBut place d d'' := fun other hne => (h' other hne).trans (h other hne)

/-- What was free is as it was once it is free again. -/
theorem SameBut.update_none [DecidableEq L] (h : view.SameBut place d d')
    (hfree : view.content d place = none) :
    Function.update (view.content d') place none = view.content d := by
  funext other
  by_cases hother : other = place
  · rw [hother, Function.update_self, hfree]
  · rw [Function.update_of_ne hother, h other hother]

/-- The same view where something else is kept beside the files. -/
def beside (view : FileView φ L) (α : Type) : FileView (φ × α) L where
  place := view.place
  content d := view.content d.1
  Leads d := view.Leads d.1

end FileView

namespace FileSystem

/-- Whether a path leads to a file that can be read, and to which bytes. -/
def Gives (fs : FileSystem φ) (path : String) (bs : Bytes) (d : φ) : Prop :=
  ∃ d', fs.size path d = (.ok bs.length, d') ∧ (fs.read path d').1 = .ok bs

/-! ### The laws -/

variable [DecidableEq L]

/-- Files of which each step may fail, and which are moved at once or not at all. A temporary file
is a new one, and it can be removed as long as its path leads to it. -/
structure Atomic (fs : FileSystem φ) (view : FileView φ L) : Prop where
  createDirs : ∀ dir d, view.content (fs.createDirs dir d).2 = view.content d
  createTemp_error : ∀ {dir d e d'}, fs.createTemp dir d = (.error e, d') →
    view.content d' = view.content d
  createTemp_ok : ∀ {dir d temp d'}, fs.createTemp dir d = (.ok temp, d') →
    view.content d (view.place temp) = none ∧ view.SameBut (view.place temp) d d' ∧
      view.Leads d' temp
  write : ∀ path bs d, view.SameBut (view.place path) d (fs.write path bs d).2
  write_leads : ∀ path bs {d other}, view.Leads d other → view.Leads (fs.write path bs d).2 other
  write_ok : ∀ {path bs d d'}, fs.write path bs d = (.ok (), d') →
    view.content d' (view.place path) = some bs
  sync : ∀ path d, view.content (fs.sync path d).2 = view.content d
  sync_leads : ∀ path {d other}, view.Leads d other → view.Leads (fs.sync path d).2 other
  rename_error : ∀ {source destination d e d'}, fs.rename source destination d = (.error e, d') →
    view.content d' = view.content d ∧ ∀ other, view.Leads d other → view.Leads d' other
  rename_ok : ∀ {source destination d d'}, fs.rename source destination d = (.ok (), d') →
    view.content d' = Function.update (Function.update (view.content d) (view.place source) none)
      (view.place destination) (view.content d (view.place source)) ∧ view.Leads d' destination
  remove : ∀ {path d}, view.Leads d path →
    view.content (fs.remove path d).2 = Function.update (view.content d) (view.place path) none
  gives : ∀ {path bs d}, view.Leads d path → view.content d (view.place path) = some bs →
    fs.Gives path bs d

/-! ### Replacement -/

variable {fs : FileSystem φ} {view : FileView φ L} {dir temp destination : String} {bs : Bytes}
  {d d' : φ} {r : Except ReplaceError Unit}

namespace Atomic

/-- A temporary file becomes the destination, with the new content, or it stays where it is. -/
theorem fillAndMove_cases (h : fs.Atomic view) (hleads : view.Leads d temp)
    (hrun : fs.fillAndMove temp destination bs d = (r, d')) :
    (r = .ok () ∧ view.content d' = Function.update
        (Function.update (view.content d) (view.place temp) none) (view.place destination)
        (some bs) ∧ view.Leads d' destination) ∨
    ∃ e, r = .error e ∧ view.SameBut (view.place temp) d d' ∧ view.Leads d' temp := by
  unfold fillAndMove at hrun
  have hwrite := h.write temp bs d
  have hwritten : view.Leads (fs.write temp bs d).2 temp := h.write_leads temp bs hleads
  cases hw : fs.write temp bs d with
  | mk rw d₁ =>
    rw [hw] at hrun hwrite hwritten
    cases rw with
    | error e =>
      cases hrun
      exact .inr ⟨_, rfl, hwrite, hwritten⟩
    | ok _ =>
      have hsync := h.sync temp d₁
      have hsynced : view.Leads (fs.sync temp d₁).2 temp := h.sync_leads temp hwritten
      dsimp only at hrun
      cases hs : fs.sync temp d₁ with
      | mk rs d₂ =>
        rw [hs] at hrun hsync hsynced
        have hsame : view.SameBut (view.place temp) d d₂ := hwrite.trans (.of_eq hsync)
        cases rs with
        | error e =>
          cases hrun
          exact .inr ⟨_, rfl, hsame, hsynced⟩
        | ok _ =>
          dsimp only at hrun
          cases hr : fs.rename temp destination d₂ with
          | mk rr d₃ =>
            rw [hr] at hrun
            cases rr with
            | error e =>
              cases hrun
              obtain ⟨hkept, hleads'⟩ := h.rename_error hr
              exact .inr ⟨_, rfl, hsame.trans (.of_eq hkept), hleads' temp hsynced⟩
            | ok _ =>
              cases hrun
              obtain ⟨hmoved, hthere⟩ := h.rename_ok hr
              have hfilled : view.content d₂ (view.place temp) = some bs := by
                rw [hsync]
                exact h.write_ok hw
              have hgone : Function.update (view.content d₂) (view.place temp) none =
                  Function.update (view.content d) (view.place temp) none := by
                funext other
                by_cases hother : other = view.place temp
                · rw [hother, Function.update_self, Function.update_self]
                · rw [Function.update_of_ne hother, Function.update_of_ne hother,
                    hsame other hother]
              refine .inl ⟨rfl, ?_, hthere⟩
              rw [hmoved, hfilled, hgone]

/-- The content of a file is replaced as a whole, and nothing else changes, or nothing changes. -/
theorem replace_cases (h : fs.Atomic view) (hrun : fs.replace dir destination bs d = (r, d')) :
    (r = .ok () ∧ view.content d' =
        Function.update (view.content d) (view.place destination) (some bs) ∧
      fs.Gives destination bs d') ∨
    ∃ e, r = .error e ∧ view.content d' = view.content d := by
  unfold replace at hrun
  cases ht : fs.createTemp dir d with
  | mk rt d₁ =>
    rw [ht] at hrun
    cases rt with
    | error e =>
      cases hrun
      exact .inr ⟨_, rfl, h.createTemp_error ht⟩
    | ok temp =>
      obtain ⟨hfree, hsame, hleads⟩ := h.createTemp_ok ht
      dsimp only at hrun
      cases hf : fs.fillAndMove temp destination bs d₁ with
      | mk rf d₂ =>
        rw [hf] at hrun
        rcases h.fillAndMove_cases hleads hf with ⟨rfl, hmoved, hthere⟩ | ⟨e, rfl, hfilled, hstays⟩
        · cases hrun
          have hcontent : view.content d' =
              Function.update (view.content d) (view.place destination) (some bs) := by
            rw [hmoved, hsame.update_none hfree]
          refine .inl ⟨rfl, hcontent, h.gives hthere ?_⟩
          rw [hcontent, Function.update_self]
        · cases hrun
          refine .inr ⟨e, rfl, ?_⟩
          rw [h.remove hstays, (hsame.trans hfilled).update_none hfree]

end Atomic

/-! ### Steps that are made to fail -/

/-- A step that fails when it is told to, by a list of what is to become of the next steps. -/
def falter {α : Type} (step : FileStep φ α) : FileStep (φ × List Bool) α := fun d =>
  if d.2.head? = some false then (.error (.other "unsteady"), d.1, d.2.tail)
  else ((step d.1).1, (step d.1).2, d.2.tail)

/-- A step that takes no notice of that list. -/
def goOn {α : Type} (step : FileStep φ α) : FileStep (φ × List Bool) α := fun d =>
  ((step d.1).1, (step d.1).2, d.2)

/-- The same files, where steps fail when they are told to, except those that only look or clear
away. -/
def unsteady (fs : FileSystem φ) : FileSystem (φ × List Bool) where
  createDirs dir := falter (fs.createDirs dir)
  createTemp dir := falter (fs.createTemp dir)
  write path bs := falter (fs.write path bs)
  sync path := falter (fs.sync path)
  rename source destination := falter (fs.rename source destination)
  remove path := goOn (fs.remove path)
  size path := goOn (fs.size path)
  read path := goOn (fs.read path)

/-- A step that may be made to fail does nothing, or goes as it would. -/
theorem falter_cases {α : Type} (step : FileStep φ α) (d : φ × List Bool) {d' : φ × List Bool}
    {r : Except FileError α} (h : falter step d = (r, d')) :
    ((∃ e, r = .error e) ∧ d'.1 = d.1) ∨ step d.1 = (r, d'.1) := by
  unfold falter at h
  split at h
  · cases h
    exact .inl ⟨⟨_, rfl⟩, rfl⟩
  · cases h
    exact .inr rfl

/-- Files keep the laws when steps are made to fail. -/
theorem Atomic.unsteady (h : fs.Atomic view) : fs.unsteady.Atomic (view.beside (List Bool)) where
  createDirs dir d := by
    rcases falter_cases (fs.createDirs dir) d rfl with ⟨-, hsame⟩ | hstep
    · exact congrArg view.content hsame
    · have hlaw := h.createDirs dir d.1
      rwa [hstep] at hlaw
  createTemp_error hstep := by
    rcases falter_cases _ _ hstep with ⟨-, hsame⟩ | hstep
    · exact congrArg view.content hsame
    · exact h.createTemp_error hstep
  createTemp_ok hstep := by
    rcases falter_cases _ _ hstep with ⟨⟨e, he⟩, -⟩ | hstep
    · cases he
    · exact h.createTemp_ok hstep
  write path bs d := by
    rcases falter_cases (fs.write path bs) d rfl with ⟨-, hsame⟩ | hstep
    · exact .of_eq (congrArg view.content hsame)
    · have hlaw := h.write path bs d.1
      rwa [hstep] at hlaw
  write_leads path bs {d other} hleads := by
    rcases falter_cases (fs.write path bs) d rfl with ⟨-, hsame⟩ | hstep
    · exact (congrArg (view.Leads · other) hsame).mpr hleads
    · have hlaw := h.write_leads path bs hleads
      rwa [hstep] at hlaw
  write_ok hstep := by
    rcases falter_cases _ _ hstep with ⟨⟨e, he⟩, -⟩ | hstep
    · cases he
    · exact h.write_ok hstep
  sync path d := by
    rcases falter_cases (fs.sync path) d rfl with ⟨-, hsame⟩ | hstep
    · exact congrArg view.content hsame
    · have hlaw := h.sync path d.1
      rwa [hstep] at hlaw
  sync_leads path {d other} hleads := by
    rcases falter_cases (fs.sync path) d rfl with ⟨-, hsame⟩ | hstep
    · exact (congrArg (view.Leads · other) hsame).mpr hleads
    · have hlaw := h.sync_leads path hleads
      rwa [hstep] at hlaw
  rename_error hstep := by
    rcases falter_cases _ _ hstep with ⟨-, hsame⟩ | hstep
    · exact ⟨congrArg view.content hsame, fun other hleads =>
        (congrArg (view.Leads · other) hsame).mpr hleads⟩
    · exact h.rename_error hstep
  rename_ok hstep := by
    rcases falter_cases _ _ hstep with ⟨⟨e, he⟩, -⟩ | hstep
    · cases he
    · exact h.rename_ok hstep
  remove hleads := h.remove hleads
  gives {path bs d} hleads hcontent := by
    obtain ⟨d', hsize, hread⟩ := h.gives hleads hcontent
    refine ⟨(d', d.2), ?_, hread⟩
    change goOn (fs.size path) d = _
    rw [goOn, hsize]

end FileSystem

end SecureUpdate
