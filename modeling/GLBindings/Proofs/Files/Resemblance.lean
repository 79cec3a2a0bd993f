/-
# Trees that differ in what files hold

Where two trees have the same folders, and files in the same places (`Tree.Resembles`), a path leads
in the one where it leads in the other (`Resembles.locate`).  So folders are made and files written
in both or in neither, for the same reason, and after it the trees resemble each other again
(`Resembles.ensureFolders`, `Resembles.write`).  What files may hold in one tree and in the other is
left open.
-/
import GLBindings.Proofs.Files.Writing

namespace GLBindings.Files

set_option autoImplicit false

/-- There is a folder in both places, or a file, or nothing; what files hold is related. -/
inductive SamePlace (same : List UInt8 → List UInt8 → Prop) :
    Option Entry → Option Entry → Prop where
  | nothing : SamePlace same none none
  | folder : SamePlace same (some .folder) (some .folder)
  | file {bytes bytes' : List UInt8} (related : same bytes bytes') :
      SamePlace same (some (.file bytes)) (some (.file bytes'))

namespace Tree

variable {same : List UInt8 → List UInt8 → Prop} {tree tree' : Tree}

/-- The trees have the same folders and related files. -/
def Resembles (same : List UInt8 → List UInt8 → Prop) (tree tree' : Tree) : Prop :=
  ∀ location, SamePlace same (tree.entry? location) (tree'.entry? location)

/-- An operation fails on both trees for one reason, or leaves trees that resemble each other. -/
inductive EndsAlike (same : List UInt8 → List UInt8 → Prop) :
    Except FileError Tree → Except FileError Tree → Prop where
  | failed (error : FileError) : EndsAlike same (.error error) (.error error)
  | done {tree tree' : Tree} (like : tree.Resembles same tree') :
      EndsAlike same (.ok tree) (.ok tree')

/-- The same for operations that may have changed something when they fail. -/
structure StopsAlike {ε : Type} (same : List UInt8 → List UInt8 → Prop)
    (stop stop' : Tree × Option ε) : Prop where
  trees : stop.1.Resembles same stop'.1
  failures : stop'.2 = stop.2

/-- Nothing above the folder has to be made where it fails for another reason, or not at all. -/
theorem ensureFolders_of_ne {path : Path} (other : tree.makeFolder path ≠ .error .notFound) :
    tree.ensureFolders path = tree.ensureFolder path := by
  rw [ensureFolders]
  split
  · rename_i missing
    exact absurd missing other
  · rfl

theorem Resembles.refl (related : ∀ bytes, same bytes bytes) (tree : Tree) :
    tree.Resembles same tree := by
  intro location
  cases tree.entry? location with
  | none => exact .nothing
  | some entry =>
      cases entry with
      | file bytes => exact .file (related bytes)
      | folder => exact .folder

namespace Resembles

/-! ## Places -/

/-- Paths lead to the same places in trees that resemble each other. -/
theorem follow (like : tree.Resembles same tree') (components : List String)
    (location : Location) : tree'.follow location components = tree.follow location components := by
  induction components generalizing location with
  | nil => rfl
  | cons component rest ih =>
      rw [Tree.follow, Tree.follow]
      have place := like location
      generalize tree.entry? location = entry, tree'.entry? location = entry' at place
      cases place with
      | nothing => rfl
      | folder => simp only [ih]
      | file => rfl

theorem locate (like : tree.Resembles same tree') (path : Path) :
    tree'.locate path = tree.locate path := by
  simp only [Tree.locate, like.follow]

theorem set (like : tree.Resembles same tree') {location : Location}
    (below : isAbove location = false) {entry entry' : Entry}
    (place : SamePlace same (some entry) (some entry')) :
    (tree.set location entry).Resembles same (tree'.set location entry') := by
  intro other
  by_cases here : other = location
  · rw [here, entry?_set_self below, entry?_set_self below]
    exact place
  · rw [entry?_set_of_ne here, entry?_set_of_ne here]
    exact like other

/-! ## Operations -/

/-- Writing related bytes to one path ends alike. -/
theorem write (like : tree.Resembles same tree') (path : Path) {bytes bytes' : List UInt8}
    (related : same bytes bytes') :
    EndsAlike same (tree.write path bytes) (tree'.write path bytes') := by
  rw [Tree.write, Tree.write, like.locate]
  cases tree.locate path with
  | error failure => exact .failed failure
  | ok location =>
      have below : tree.entry? location ≠ some .folder → isAbove location = false :=
        isAbove_eq_false
      have place := like location
      simp only [bind, Except.bind]
      generalize tree.entry? location = entry, tree'.entry? location = entry' at place below
      cases place with
      | nothing => exact .done (like.set (below (by simp)) (.file related))
      | folder => exact .failed .isFolder
      | file => exact .done (like.set (below (by simp)) (.file related))

theorem makeFolder (like : tree.Resembles same tree') (path : Path) :
    EndsAlike same (tree.makeFolder path) (tree'.makeFolder path) := by
  rw [Tree.makeFolder, Tree.makeFolder, like.locate]
  cases tree.locate path with
  | error failure => exact .failed failure
  | ok location =>
      have below : tree.entry? location ≠ some .folder → isAbove location = false :=
        isAbove_eq_false
      have place := like location
      simp only [bind, Except.bind]
      generalize tree.entry? location = entry, tree'.entry? location = entry' at place below
      cases place with
      | nothing => exact .done (like.set (below (by simp)) .folder)
      | folder => exact .failed .alreadyExists
      | file => exact .failed .alreadyExists

theorem hasFolder (like : tree.Resembles same tree') (path : Path) :
    tree'.hasFolder path = tree.hasFolder path := by
  rw [Tree.hasFolder, Tree.hasFolder, at?, at?, like.locate]
  cases tree.locate path with
  | error failure => rfl
  | ok location =>
      have place := like location
      dsimp only
      generalize tree.entry? location = entry, tree'.entry? location = entry' at place
      cases place with
      | nothing => rfl
      | folder => rfl
      | file => rfl

theorem ensureFolder (like : tree.Resembles same tree') (path : Path) :
    StopsAlike same (tree.ensureFolder path) (tree'.ensureFolder path) := by
  have ends := like.makeFolder path
  rw [Tree.ensureFolder, Tree.ensureFolder, like.hasFolder]
  generalize tree.makeFolder path = made, tree'.makeFolder path = made' at ends
  cases ends with
  | failed error => exact ⟨like, rfl⟩
  | done madeLike => exact ⟨madeLike, rfl⟩

theorem makeFolder_eq_error_iff (like : tree.Resembles same tree') {path : Path}
    {error : FileError} :
    tree'.makeFolder path = .error error ↔ tree.makeFolder path = .error error := by
  have ends := like.makeFolder path
  generalize tree.makeFolder path = made, tree'.makeFolder path = made' at ends
  cases ends with
  | failed => rfl
  | done => simp

theorem ensureFolders (like : tree.Resembles same tree') (path : Path) :
    StopsAlike same (tree.ensureFolders path) (tree'.ensureFolders path) := by
  fun_induction Tree.ensureFolders tree path with
  | case1 path missing top =>
      rw [Tree.ensureFolders, like.makeFolder_eq_error_iff.2 missing]
      simp only [top, dif_pos]
      exact ⟨like, rfl⟩
  | case2 path missing below made parent ih =>
      -- The folders above have been made sure of alike, and this one is next.
      rw [parent] at ih
      rw [Tree.ensureFolders, like.makeFolder_eq_error_iff.2 missing]
      simp only [below, dif_neg, not_false_iff]
      generalize tree'.ensureFolders path.parent = stop at ih
      obtain ⟨made', failure⟩ := stop
      obtain ⟨trees, failures⟩ := ih
      cases failures
      exact trees.ensureFolder path
  | case3 path missing below made failure parent ih =>
      rw [parent] at ih
      rw [Tree.ensureFolders, like.makeFolder_eq_error_iff.2 missing]
      simp only [below, dif_neg, not_false_iff]
      generalize tree'.ensureFolders path.parent = stop at ih
      obtain ⟨made', failure'⟩ := stop
      obtain ⟨trees, failures⟩ := ih
      cases failures
      exact ⟨trees, rfl⟩
  | case4 path other =>
      have other' : tree'.makeFolder path ≠ .error .notFound :=
        fun missing => other (like.makeFolder_eq_error_iff.1 missing)
      rw [ensureFolders_of_ne other']
      exact like.ensureFolder path

end Resembles

end Tree

end GLBindings.Files
