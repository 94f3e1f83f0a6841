import SecureUpdate.Files.Tree
import SecureUpdate.Proofs.Chain
import SecureUpdate.Proofs.Files.Atomic

/-!
Files held in memory keep the laws of files. A path names the components that are left when its
steps are taken, whatever is there, and it leads to them when there is a directory before each of
them. What writes a file changes no directory, so it leads no path astray.

Main statement: `system_atomic`.
-/

namespace SecureUpdate.FileTree

open Chain

variable {t t' : FileTree} {path other name : String} {components components' : List String}
  {bs : Bytes} {names' : List String}

/-! ### Places -/

/-- One component further, whatever is there. -/
def further (components : List String) (name : String) : List String :=
  if name = "" ∨ name = "." then components
  else if name = ".." then components.tail
  else name :: components

/-- The components that a path names. -/
def named (path : String) : List String := (names path).foldl further []

/-- The key under which the entry of some components stands; the root has none. -/
def keyOf (components : List String) : Option String :=
  if components.isEmpty then none else some (pathOf components)

/-- The bytes of the file that is an entry. -/
def fileOf : Option FileEntry → Option Bytes
  | some (.file bs) => some bs
  | _ => none

/-- A tree as files. -/
def view : FileView FileTree (Option String) where
  place path := keyOf (named path)
  content t place := place.bind fun key => fileOf (t.entries.get? key)
  Leads t path := ∃ components, t.resolve path = .ok components

theorem content_keyOf (t : FileTree) (components : List String) :
    view.content t (keyOf components) = fileOf (t.get? components) := by
  unfold keyOf get?
  split <;> rfl

theorem keyOf_of_get? (h : t.get? components ≠ some .directory) :
    keyOf components = some (pathOf components) := by
  unfold get? at h
  unfold keyOf
  split
  · rw [if_pos ‹_›] at h
    exact absurd rfl h
  · rfl

/-! ### Paths -/

theorem requireDirectory_eq_ok_iff {u : Unit} :
    t.requireDirectory components = .ok u ↔ t.get? components = some .directory := by
  unfold requireDirectory
  split <;> simp_all

theorem descend_ok (h : t.descend components name = .ok components') :
    t.get? components = some .directory ∧ components' = further components name := by
  obtain ⟨_, hdirectory, h⟩ := bind_eq_ok_iff.1 h
  refine ⟨requireDirectory_eq_ok_iff.1 hdirectory, ?_⟩
  unfold further
  split at h
  · cases h
    rw [if_pos ‹_›]
  · rw [if_neg ‹_›]
    split at h
    · cases h
      rw [if_pos ‹_›]
    · rw [if_neg ‹_›]
      split at h
      · cases h
      · cases h
        rfl

theorem foldlM_descend_ok
    (h : names'.foldlM t.descend components = .ok components') :
    components' = names'.foldl further components := by
  induction names' generalizing components with
  | nil =>
    cases h
    rfl
  | cons name names' ih =>
    rw [List.foldlM_cons] at h
    obtain ⟨next, hnext, h⟩ := bind_eq_ok_iff.1 h
    obtain ⟨-, rfl⟩ := descend_ok hnext
    exact ih h

/-- A path that leads somewhere leads to what it names. -/
theorem resolve_ok (h : t.resolve path = .ok components) : components = named path := by
  obtain ⟨_, -, h⟩ := bind_eq_ok_iff.1 h
  split at h
  · cases h
  · exact foldlM_descend_ok h

/-- Whether all directories of a tree are directories of another one. -/
def Keeps (t t' : FileTree) : Prop :=
  ∀ components, t.get? components = some .directory → t'.get? components = some .directory

theorem Keeps.descend (h : Keeps t t') (hok : t.descend components name = .ok components') :
    t'.descend components name = .ok components' := by
  obtain ⟨_, hdirectory, hrest⟩ := bind_eq_ok_iff.1 hok
  exact bind_eq_ok_iff.2 ⟨(), requireDirectory_eq_ok_iff.2
    (h components (requireDirectory_eq_ok_iff.1 hdirectory)), hrest⟩

theorem Keeps.foldlM_descend (h : Keeps t t')
    (hok : names'.foldlM t.descend components = .ok components') :
    names'.foldlM t'.descend components = .ok components' := by
  induction names' generalizing components with
  | nil => exact hok
  | cons name names' ih =>
    rw [List.foldlM_cons] at hok ⊢
    obtain ⟨next, hnext, hok⟩ := bind_eq_ok_iff.1 hok
    exact bind_eq_ok_iff.2 ⟨next, h.descend hnext, ih hok⟩

/-- As long as directories stay, a path leads where it led. -/
theorem Keeps.resolve (h : Keeps t t') (hok : t.resolve path = .ok components) :
    t'.resolve path = .ok components := by
  obtain ⟨u, hpath, hok⟩ := bind_eq_ok_iff.1 hok
  refine bind_eq_ok_iff.2 ⟨u, hpath, ?_⟩
  split at hok
  · cases hok
  · rw [if_neg ‹_›]
    exact h.foldlM_descend hok

/-! ### Entries -/

/-- Whether two trees differ at most in the entry of some components, which is a certain one or none
in the second. -/
def Differs (t t' : FileTree) (components : List String) (entry : Option FileEntry) : Prop :=
  ∀ key, t'.entries.get? key =
    if pathOf components = key then entry else t.entries.get? key

theorem differs_putEntry (t : FileTree) (components : List String) (e : FileEntry) :
    Differs t (t.putEntry components e) components (some e) :=
  SortedMap.get?_insert t.entries (pathOf components) e

theorem differs_erase (t : FileTree) (components : List String) :
    Differs t ⟨t.entries.erase (pathOf components)⟩ components none :=
  SortedMap.get?_erase t.entries (pathOf components)

variable {entry : Option FileEntry}

/-- What changes where there is no directory changes no directory. -/
theorem Differs.keeps (h : Differs t t' components entry)
    (hfile : t.get? components ≠ some .directory) : Keeps t t' := by
  intro above habove
  unfold get? at *
  split
  · rfl
  · rename_i hroot
    rw [if_neg hroot] at habove
    have hne : pathOf components ≠ pathOf above := by
      intro heq
      rw [heq, habove] at hfile
      split at hfile <;> exact hfile rfl
    rw [h, if_neg hne]
    exact habove

/-- What it does to the files. -/
theorem Differs.content (h : Differs t t' components entry)
    (hfile : t.get? components ≠ some .directory) : view.content t' =
      Function.update (view.content t) (keyOf components) (fileOf entry) := by
  rw [keyOf_of_get? hfile]
  funext place
  cases place with
  | none => rfl
  | some key =>
    have hkey : view.content t' (some key) = fileOf (t'.entries.get? key) := rfl
    by_cases hplace : pathOf components = key
    · rw [hkey, h, if_pos hplace, hplace, Function.update_self]
    · have hother : some key ≠ some (pathOf components) :=
        fun heq => hplace (Option.some.inj heq).symm
      rw [hkey, h, if_neg hplace, Function.update_of_ne hother]
      rfl

/-- What takes an entry away makes no directory. -/
theorem Differs.get?_ne (h : Differs t t' components none)
    (hother : t.get? components' ≠ some .directory) : t'.get? components' ≠ some .directory := by
  unfold get? at *
  split
  · rename_i hroot
    rwa [if_pos hroot] at hother
  · rename_i hroot
    rw [if_neg hroot] at hother
    rw [h]
    split
    · exact nofun
    · exact hother

/-! ### The steps -/

section Steps

variable {α : Type} {e : FileError} {a : α}

/-- A step that fails leaves the tree as it is. -/
theorem step_error {f : FileTree → Except FileError (α × FileTree)}
    (h : step f t = (.error e, t')) : t' = t := by
  unfold step at h
  split at h
  · cases h
  · cases h
    rfl

theorem step_ok {f : FileTree → Except FileError (α × FileTree)} (h : step f t = (.ok a, t')) :
    f t = .ok (a, t') := by
  unfold step at h
  split at h
  · cases h
    assumption
  · cases h

theorem change_ok {f : FileTree → Except FileError FileTree} {u : Unit}
    (h : change f t = (.ok u, t')) : f t = .ok t' := by
  obtain ⟨t₁, hf, h⟩ := bind_eq_ok_iff.1 (step_ok h)
  cases h
  exact hf

/-- What holds before a change, and after it where it succeeds, holds. -/
theorem change_state {f : FileTree → Except FileError FileTree} {P : FileTree → Prop} (h : P t)
    (hok : ∀ t', f t = .ok t' → P t') : P (change f t).2 := by
  cases hrun : change f t with
  | mk r t' =>
    cases r with
    | ok u => exact hok t' (change_ok hrun)
    | error e =>
      rw [step_error hrun]
      exact h

theorem change_of_ok {f : FileTree → Except FileError FileTree} (h : f t = .ok t') :
    change f t = (.ok (), t') := by
  simp only [change, step, h]
  rfl

theorem change_of_error {f : FileTree → Except FileError FileTree} (h : f t = .error e) :
    change f t = (.error e, t) := by
  simp only [change, step, h]
  rfl

theorem look_ok {f : FileTree → Except FileError α} (h : f t = .ok a) :
    look f t = (.ok a, t) := by
  simp only [look, step, h]
  rfl

/-- To look changes nothing. -/
theorem look_state (f : FileTree → Except FileError α) (t : FileTree) : (look f t).2 = t := by
  unfold look step
  cases h : f t <;> simp only [h] <;> rfl

end Steps

/-- To create directories changes no file. -/
theorem content_createAlong (t : FileTree) (components names' : List String) :
    view.content (t.createAlong components names').2 = view.content t := by
  induction names' generalizing t components with
  | nil => rfl
  | cons name names' ih =>
    rw [createAlong]
    split
    · rename_i t₁ below hcreate
      rw [ih]
      obtain ⟨components', -, hcreate⟩ := bind_eq_ok_iff.1 hcreate
      split at hcreate
      · cases hcreate
        rfl
      · cases hcreate
      · rename_i hfree
        cases hcreate
        have hfile : t.get? below ≠ some .directory := by
          rw [hfree]
          exact nofun
        rw [(differs_putEntry t below .directory).content hfile]
        funext place
        by_cases hplace : place = keyOf below
        · rw [hplace, Function.update_self, content_keyOf, hfree]
          rfl
        · rw [Function.update_of_ne hplace]
    · rfl

theorem content_ok (h : t.content path = .ok bs) :
    t.resolve path = .ok (named path) ∧ t.get? (named path) = some (.file bs) := by
  obtain ⟨components, hresolve, h⟩ := bind_eq_ok_iff.1 h
  cases resolve_ok hresolve
  split at h
  · cases h
    exact ⟨hresolve, ‹_›⟩
  · cases h
  · cases h

/-- What a path that leads somewhere leads to is the file that is there, if there is one. -/
theorem content_of_leads (h : view.Leads t path) :
    view.content t (view.place path) = (t.content path).toOption := by
  obtain ⟨components, hresolve⟩ := h
  cases resolve_ok hresolve
  rw [show view.place path = keyOf (named path) from rfl, content_keyOf]
  unfold FileTree.content
  rw [hresolve]
  simp only [bind, Except.bind]
  cases t.get? (named path) with
  | none => rfl
  | some entry => cases entry <;> rfl

theorem sizeOf_of_content (h : t.content path = .ok bs) : t.sizeOf path = .ok bs.length := by
  obtain ⟨hresolve, hfile⟩ := content_ok h
  unfold sizeOf
  rw [hresolve]
  simp only [bind, Except.bind, hfile]
  rfl

theorem createNew_ok (h : t.createNew path = .ok t') :
    t.resolve path = .ok (named path) ∧ t.get? (named path) = none ∧
      Differs t t' (named path) (some (.file [])) := by
  obtain ⟨components, hresolve, h⟩ := bind_eq_ok_iff.1 h
  cases resolve_ok hresolve
  split at h
  · cases h
    exact ⟨hresolve, ‹_›, differs_putEntry t _ _⟩
  · cases h

theorem createTempIn_ok {dir temp : String} (h : t.createTempIn dir = .ok (temp, t')) :
    t.createNew temp = .ok t' := by
  obtain ⟨components, -, h⟩ := bind_eq_ok_iff.1 h
  obtain ⟨_, -, h⟩ := bind_eq_ok_iff.1 h
  split at h
  · obtain ⟨t₁, hnew, h⟩ := bind_eq_ok_iff.1 h
    cases h
    exact hnew
  · cases h

theorem putFile_ok (h : t.putFile path bs = .ok t') :
    t.get? (named path) ≠ some .directory ∧ Differs t t' (named path) (some (.file bs)) := by
  obtain ⟨components, hresolve, h⟩ := bind_eq_ok_iff.1 h
  cases resolve_ok hresolve
  split at h
  · cases h
  · cases h
    exact ⟨‹_›, differs_putEntry t _ _⟩

theorem takeFile_ok (h : t.takeFile path = .ok t') :
    t.get? (named path) ≠ some .directory ∧ Differs t t' (named path) none := by
  obtain ⟨bs, hcontent, h⟩ := bind_eq_ok_iff.1 h
  obtain ⟨hresolve, hfile⟩ := content_ok hcontent
  rw [hresolve] at h
  cases h
  exact ⟨by rw [hfile]; exact nofun, differs_erase t _⟩

/-- A file that can be read can be taken away. -/
theorem takeFile_of_content (h : t.content path = .ok bs) : ∃ t', t.takeFile path = .ok t' := by
  unfold takeFile
  rw [h, (content_ok h).1]
  exact ⟨_, rfl⟩

theorem takeFile_of_error {e : FileError} (h : t.content path = .error e) :
    t.takeFile path = .error e := by
  unfold takeFile
  rw [h]
  rfl

theorem moveFile_ok {destination : String} (h : t.moveFile path destination = .ok t') :
    ∃ bs t₁, t.content path = .ok bs ∧ t.takeFile path = .ok t₁ ∧
      t.resolve destination = .ok (named destination) ∧
      t.get? (named destination) ≠ some .directory ∧
      Differs t₁ t' (named destination) (some (.file bs)) := by
  obtain ⟨bs, hcontent, h⟩ := bind_eq_ok_iff.1 h
  obtain ⟨components, hresolve, h⟩ := bind_eq_ok_iff.1 h
  cases resolve_ok hresolve
  split at h
  · cases h
  · obtain ⟨t₁, htaken, h⟩ := bind_eq_ok_iff.1 h
    cases h
    exact ⟨bs, t₁, hcontent, htaken, hresolve, ‹_›, differs_putEntry t₁ _ _⟩

/-! ### The laws -/

/-- Files held in memory keep the laws. -/
theorem system_atomic : system.Atomic view where
  createDirs dir t := by
    simp only [system]
    split
    · exact content_createAlong t [] _
    · rfl
  createTemp_error {dir t e t'} h := by
    have hrun : step (fun t => t.createTempIn dir) t = (.error e, t') := h
    rw [step_error hrun]
  createTemp_ok {dir t temp t'} h := by
    have hrun : step (fun t => t.createTempIn dir) t = (.ok temp, t') := h
    obtain ⟨hleads, hfree, hdiffers⟩ := createNew_ok (createTempIn_ok (step_ok hrun))
    have hfile : t.get? (named temp) ≠ some .directory := by
      rw [hfree]
      exact (Option.some_ne_none _).symm
    refine ⟨(content_keyOf t _).trans (congrArg fileOf hfree), fun place hplace => ?_,
      named temp, (hdiffers.keeps hfile).resolve hleads⟩
    rw [hdiffers.content hfile]
    exact Function.update_of_ne hplace ..
  write path bs t := by
    refine change_state (P := fun t' => view.SameBut (view.place path) t t')
      (.of_eq rfl) fun t' h => ?_
    obtain ⟨hfile, hdiffers⟩ := putFile_ok h
    intro place hplace
    rw [hdiffers.content hfile]
    exact Function.update_of_ne hplace ..
  write_leads path bs t other hleads := by
    refine change_state (P := fun t' => view.Leads t' other) hleads fun t' h => ?_
    obtain ⟨hfile, hdiffers⟩ := putFile_ok h
    obtain ⟨components, hresolve⟩ := hleads
    exact ⟨components, (hdiffers.keeps hfile).resolve hresolve⟩
  write_ok {path bs t t'} h := by
    have hrun : change (fun t => t.putFile path bs) t = (.ok (), t') := h
    obtain ⟨hfile, hdiffers⟩ := putFile_ok (change_ok hrun)
    rw [hdiffers.content hfile]
    exact Function.update_self ..
  sync path t := congrArg view.content (look_state _ t)
  sync_leads path t other hleads := (congrArg (view.Leads · other) (look_state _ t)).mpr hleads
  rename_error {source destination t e t'} h := by
    have hrun : change (fun t => t.moveFile source destination) t = (.error e, t') := h
    rw [step_error hrun]
    exact ⟨rfl, fun _ => id⟩
  rename_ok {source destination t t'} h := by
    have hrun : change (fun t => t.moveFile source destination) t = (.ok (), t') := h
    obtain ⟨bs, t₁, hcontent, htaken, hresolve, hfile, hputs⟩ := moveFile_ok (change_ok hrun)
    obtain ⟨hsource, htakes⟩ := takeFile_ok htaken
    have hfile₁ := htakes.get?_ne hfile
    refine ⟨?_, named destination, (hputs.keeps hfile₁).resolve
      ((htakes.keeps hsource).resolve hresolve)⟩
    have hbs : view.content t (view.place source) = some bs :=
      (content_keyOf t _).trans (congrArg fileOf (content_ok hcontent).2)
    rw [hputs.content hfile₁, htakes.content hsource, hbs]
    rfl
  remove {path t} hleads := by
    change view.content (change (fun t => t.takeFile path) t).2 = _
    have hplace := content_of_leads hleads
    cases hcontent : t.content path with
    | ok bs =>
      obtain ⟨t', htaken⟩ := takeFile_of_content hcontent
      obtain ⟨hfile, hdiffers⟩ := takeFile_ok htaken
      rw [change_of_ok htaken]
      exact hdiffers.content hfile
    | error e =>
      -- nothing is taken away where there is no file
      rw [hcontent] at hplace
      rw [change_of_error (takeFile_of_error hcontent)]
      exact (Function.update_eq_self_iff.2 hplace.symm).symm
  gives {path bs t} hleads hcontent := by
    have hplace := content_of_leads hleads
    rw [hcontent] at hplace
    cases hread : t.content path with
    | error e =>
      rw [hread] at hplace
      cases hplace
    | ok bs' =>
      rw [hread] at hplace
      cases hplace
      have hsized : look (fun t => t.sizeOf path) t = (.ok bs.length, t) :=
        look_ok (sizeOf_of_content hread)
      have hgiven : look (fun t => t.content path) t = (.ok bs, t) := look_ok hread
      exact ⟨t, hsized, congrArg Prod.fst hgiven⟩

end SecureUpdate.FileTree
