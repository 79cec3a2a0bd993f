/-
# What writing leaves in place

A text without slashes that is no run of dots names something in a folder (`IsName`), so the place
that such a path leads to is known without looking at any files (`target_child`).  Making folders
and writing files to some places changes nothing but that folders are new and that the files at the
places are others (`Tree.Gains`).  So what has been written can be read back as long as nothing else
is written to the same place (`Tree.Keeps.read`).  Making sure of a folder that is there changes
nothing (`Tree.ensureFolders_of_hasFolder`), nor does writing again what a file holds
(`Tree.exists_write_of_read`).
-/
import GLBindings.Files.Tree

namespace GLBindings.Files

set_option autoImplicit false

/-! ## Names -/

/-- The text names a file or folder in the folder that it is looked up from. -/
structure IsName (text : String) : Prop where
  slashless : '/' ∉ text.toList
  nonempty : text ≠ ""
  notHere : text ≠ "."
  notAbove : text ≠ ".."

theorem slashPieces_of_not_mem {cs : List Char} (slashless : '/' ∉ cs) : slashPieces cs = [cs] := by
  induction cs with
  | nil => rfl
  | cons c rest ih =>
      rw [List.mem_cons, not_or] at slashless
      rw [slashPieces.eq_3 _ _ (Ne.symm slashless.1), ih slashless.2]

theorem rootOf_of_not_mem {cs : List Char} (slashless : '/' ∉ cs) : rootOf cs = "" := by
  rw [rootOf.eq_def]
  split
  · exact absurd List.mem_cons_self slashless
  · exact absurd List.mem_cons_self slashless
  · exact absurd List.mem_cons_self slashless
  · rfl

/-- A name means the path with that one component. -/
theorem ofString_of_isName {name : String} (isName : IsName name) :
    Path.ofString name = { components := [name] } := by
  rw [Path.ofString, rootOf_of_not_mem isName.slashless, slashPieces_of_not_mem isName.slashless]
  simp [String.ofList_toList, isName.nonempty, isName.notHere]

/-- A name leads from a folder to what the folder has under the name. -/
theorem child_of_isName {name : String} (isName : IsName name) (path : Path) :
    path.child name = { path with components := path.components ++ [name] } := by
  rw [Path.child, ofString_of_isName isName, Path.join, if_pos rfl]

/-- Files with different names or in different folders have different paths. -/
theorem child_inj {name name' : String} (isName : IsName name) (isName' : IsName name')
    {path path' : Path} : path.child name = path'.child name' ↔ path = path' ∧ name = name' := by
  rw [child_of_isName isName, child_of_isName isName']
  constructor
  · intro same
    obtain ⟨root, components⟩ := Path.mk.inj same
    obtain ⟨front, last⟩ := List.append_inj' components rfl
    exact ⟨congr (congrArg Path.mk root) front, List.singleton_inj.1 last⟩
  · rintro ⟨rfl, rfl⟩
    rfl

/-! ## Places -/

/-- Where the path leads, if it leads anywhere. -/
def Path.target (path : Path) : Location :=
  path.components.foldl Tree.enter (if path.root = "" then [] else ["/"])

theorem target_child {name : String} (isName : IsName name) (path : Path) :
    (path.child name).target = path.target ++ [name] := by
  rw [child_of_isName isName, Path.target, List.foldl_append]
  exact if_neg isName.notAbove

namespace Tree

/-- Where following the components succeeds, the tree has no say in where they lead. -/
theorem eq_of_follow {tree : Tree} {components : List String} {location found : Location}
    (follows : tree.follow location components = .ok found) :
    found = components.foldl enter location := by
  induction components generalizing location with
  | nil => exact (Except.ok.inj follows).symm
  | cons component rest ih =>
      rw [follow] at follows
      split at follows
      · split at follows
        · exact ih follows
        · cases follows
      · cases follows
      · cases follows

theorem locate_eq_ok_iff {tree : Tree} {path : Path} {location : Location} :
    tree.locate path = .ok location ↔
      path.toString.toList.contains '\x00' = false ∧ path.toString.utf8ByteSize < 4096 ∧
        tree.follow (if path.root = "" then [] else ["/"]) path.components = .ok location := by
  rw [locate]
  split
  · rename_i impossible
    simp only [impossible, reduceCtorEq, Bool.true_eq_false, false_and]
  · rename_i possible
    rw [Bool.not_eq_true] at possible
    split
    · rename_i short
      simp only [possible, short, true_and]
    · rename_i long
      simp [long]

/-- A path leads to one target in every tree where it leads anywhere. -/
theorem eq_target_of_locate {tree : Tree} {path : Path} {location : Location}
    (located : tree.locate path = .ok location) : location = path.target :=
  eq_of_follow (locate_eq_ok_iff.1 located).2.2

/-! ## What stays -/

/-- All that is in the one tree is in the other, but perhaps for files at the places. -/
def Keeps (tree tree' : Tree) (places : List Location) : Prop :=
  ∀ location entry, tree.entry? location = some entry → entry = .folder ∨ location ∉ places →
    tree'.entry? location = some entry

namespace Keeps

variable {tree tree' : Tree} {places : List Location}

/-- What could be followed still can, where everything has been kept. -/
theorem follow (keeps : tree.Keeps tree' places) {components : List String}
    {location found : Location} (follows : tree.follow location components = .ok found) :
    tree'.follow location components = .ok found := by
  induction components generalizing location with
  | nil => exact follows
  | cons component rest ih =>
      rw [Tree.follow] at follows
      split at follows
      · rename_i folder
        rw [Tree.follow, keeps _ _ folder (.inl rfl)]
        dsimp only
        split at follows
        · rename_i short
          rw [if_pos short]
          exact ih follows
        · cases follows
      · cases follows
      · cases follows

theorem locate (keeps : tree.Keeps tree' places) {path : Path} {location : Location}
    (located : tree.locate path = .ok location) : tree'.locate path = .ok location := by
  obtain ⟨possible, short, follows⟩ := locate_eq_ok_iff.1 located
  exact locate_eq_ok_iff.2 ⟨possible, short, keeps.follow follows⟩

end Keeps

theorem read_eq_ok_iff {tree : Tree} {path : Path} {bytes : List UInt8} :
    tree.read path = .ok bytes ↔
      ∃ location, tree.locate path = .ok location ∧
        tree.entry? location = some (.file bytes) := by
  rw [read]
  cases tree.locate path with
  | error failure => simp [bind, Except.bind]
  | ok location =>
      simp only [bind, Except.bind, Except.ok.injEq, exists_eq_left']
      split
      · rename_i held
        simp [held]
      · rename_i held
        simp [held]
      · rename_i held
        simp [held]

/-- What can be read is read again as long as its place is none of those written to. -/
theorem Keeps.read {tree tree' : Tree} {places : List Location} (keeps : tree.Keeps tree' places)
    {path : Path} {bytes : List UInt8} (holds : tree.read path = .ok bytes)
    (free : path.target ∉ places) : tree'.read path = .ok bytes := by
  obtain ⟨location, located, held⟩ := read_eq_ok_iff.1 holds
  rw [← eq_target_of_locate located] at free
  exact read_eq_ok_iff.2 ⟨location, keeps.locate located, keeps _ _ held (.inr free)⟩

/-! ## One place -/

theorem entry?_of_isAbove {tree : Tree} {location : Location} (above : isAbove location = true) :
    tree.entry? location = some .folder :=
  if_pos above

theorem isAbove_eq_false {tree : Tree} {location : Location}
    (noFolder : tree.entry? location ≠ some .folder) : isAbove location = false := by
  rw [← Bool.not_eq_true]
  exact fun above => noFolder (entry?_of_isAbove above)

theorem lookup_filter_ne {location other : Location} (differ : other ≠ location)
    (entries : List (Location × Entry)) :
    (entries.filter (·.1 != location)).lookup other = entries.lookup other := by
  induction entries with
  | nil => rfl
  | cons first rest ih =>
      obtain ⟨place, entry⟩ := first
      by_cases same : place = location
      · subst same
        have otherPlace : (other == place) = false := by simpa using differ
        rw [List.filter_cons_of_neg (by simp), ih, List.lookup_cons, otherPlace]
      · rw [List.filter_cons_of_pos (by simpa using same), List.lookup_cons, List.lookup_cons, ih]

theorem entry?_set_of_ne {tree : Tree} {location other : Location} (differ : other ≠ location)
    (entry : Entry) : Tree.entry? (tree.set location entry) other = tree.entry? other := by
  have otherPlace : (other == location) = false := by simpa using differ
  unfold entry? set
  rw [List.lookup_cons, otherPlace]
  simp only [lookup_filter_ne differ]

theorem entry?_set_self {tree : Tree} {location : Location} (below : isAbove location = false)
    (entry : Entry) : Tree.entry? (tree.set location entry) location = some entry := by
  unfold entry? set
  rw [below, List.lookup_cons, beq_self_eq_true]
  rfl

/-! ## What is new -/

/-- What may become of an entry: it stays, or there was none and a folder is made, or a file is
written over what is no folder. -/
inductive Gain (written : Prop) : Option Entry → Option Entry → Prop where
  | same (entry : Option Entry) : Gain written entry entry
  | folder : Gain written none (some .folder)
  | file {old : Option Entry} (isWritten : written) (noFolder : old ≠ some .folder)
      (bytes : List UInt8) : Gain written old (some (.file bytes))

namespace Gain

variable {written more : Prop} {old next last : Option Entry}

theorem mono (gain : Gain written old next) (weaker : written → more) : Gain more old next := by
  cases gain with
  | same => exact .same _
  | folder => exact .folder
  | file isWritten noFolder bytes => exact .file (weaker isWritten) noFolder bytes

theorem trans (first : Gain written old next) (second : Gain more next last) :
    Gain (written ∨ more) old last := by
  cases second with
  | same => exact first.mono .inl
  | folder =>
      cases first with
      | same => exact .folder
  | file isWritten noFolder bytes =>
      cases first with
      | same => exact .file (.inr isWritten) noFolder bytes
      | folder => exact absurd rfl noFolder
      | file _ noFolder' _ => exact .file (.inr isWritten) noFolder' bytes

/-- Where nothing is written the same files are there. -/
theorem file_iff (gain : Gain written old next) (free : ¬ written) (bytes : List UInt8) :
    next = some (.file bytes) ↔ old = some (.file bytes) := by
  cases gain with
  | same => rfl
  | folder => simp
  | file isWritten => exact absurd isWritten free

/-- What stays is all but a file that is written over. -/
theorem eq_some (gain : Gain written old next) {entry : Entry} (there : old = some entry)
    (kept : entry = .folder ∨ ¬ written) : next = some entry := by
  cases gain with
  | same => exact there
  | folder => cases there
  | file isWritten noFolder bytes =>
      rcases kept with rfl | free
      · exact absurd there noFolder
      · exact absurd isWritten free

end Gain

/-- The one tree becomes the other when files are written at the places and folders are made. -/
def Gains (tree tree' : Tree) (places : List Location) : Prop :=
  ∀ location, Gain (location ∈ places) (tree.entry? location) (tree'.entry? location)

namespace Gains

variable {tree tree' tree'' : Tree} {places more : List Location}

theorem refl (tree : Tree) (places : List Location) : tree.Gains tree places :=
  fun _ => .same _

/-- Gains add up. -/
theorem trans (first : tree.Gains tree' places) (second : tree'.Gains tree'' more) :
    tree.Gains tree'' (places ++ more) :=
  fun location => ((first location).trans (second location)).mono List.mem_append.2

/-- What only gains loses nothing. -/
theorem keeps (gains : tree.Gains tree' places) : tree.Keeps tree' places :=
  fun location _ there kept => (gains location).eq_some there kept

end Gains

/-! ## Steps -/

/-- A file is written where there was no folder, and nothing else changes. -/
theorem write_eq_ok {tree written : Tree} {path : Path} {bytes : List UInt8}
    (writes : tree.write path bytes = .ok written) :
    ∃ location, tree.locate path = .ok location ∧ tree.entry? location ≠ some .folder ∧
      written = tree.set location (.file bytes) := by
  rw [write] at writes
  cases located : tree.locate path with
  | error failure =>
      rw [located] at writes
      cases writes
  | ok location =>
      rw [located] at writes
      simp only [bind, Except.bind] at writes
      split at writes
      · cases writes
      · rename_i noFolder
        exact ⟨location, rfl, noFolder, (Except.ok.inj writes).symm⟩

/-- Writing a file leaves everything else as it was. -/
theorem gains_write {tree written : Tree} {path : Path} {bytes : List UInt8}
    (writes : tree.write path bytes = .ok written) : tree.Gains written [path.target] := by
  obtain ⟨location, located, noFolder, rfl⟩ := write_eq_ok writes
  obtain rfl := eq_target_of_locate located
  intro other
  by_cases same : other = path.target
  · subst same
    rw [entry?_set_self (isAbove_eq_false noFolder)]
    exact .file (List.mem_singleton_self _) noFolder bytes
  · rw [entry?_set_of_ne same]
    exact .same _

/-- What has just been written can be read. -/
theorem read_of_write {tree written : Tree} {path : Path} {bytes : List UInt8}
    (writes : tree.write path bytes = .ok written) : written.read path = .ok bytes := by
  have keeps := (gains_write writes).keeps
  obtain ⟨location, located, noFolder, rfl⟩ := write_eq_ok writes
  exact read_eq_ok_iff.2
    ⟨location, keeps.locate located, entry?_set_self (isAbove_eq_false noFolder) _⟩

/-- A folder is made where there was nothing, and nothing else changes. -/
theorem makeFolder_eq_ok {tree made : Tree} {path : Path} (makes : tree.makeFolder path = .ok made) :
    ∃ location, tree.locate path = .ok location ∧ tree.entry? location = none ∧
      made = tree.set location .folder := by
  rw [makeFolder] at makes
  cases located : tree.locate path with
  | error failure =>
      rw [located] at makes
      cases makes
  | ok location =>
      rw [located] at makes
      simp only [bind, Except.bind] at makes
      split at makes
      · cases makes
      · rename_i vacant
        exact ⟨location, rfl, vacant, (Except.ok.inj makes).symm⟩

theorem entry?_made {tree : Tree} {location : Location} (vacant : tree.entry? location = none) :
    Tree.entry? (tree.set location .folder) location = some .folder := by
  have noFolder : tree.entry? location ≠ some .folder := by simp [vacant]
  exact entry?_set_self (isAbove_eq_false noFolder) _

theorem gains_makeFolder {tree made : Tree} {path : Path} (makes : tree.makeFolder path = .ok made) :
    tree.Gains made [] := by
  obtain ⟨location, -, vacant, rfl⟩ := makeFolder_eq_ok makes
  intro other
  by_cases same : other = location
  · subst same
    rw [entry?_made vacant, vacant]
    exact .folder
  · rw [entry?_set_of_ne same]
    exact .same _

theorem gains_ensureFolder (tree : Tree) (path : Path) :
    tree.Gains (tree.ensureFolder path).1 [] := by
  rw [ensureFolder]
  split
  · rename_i made
    exact gains_makeFolder made
  · exact Gains.refl tree []

/-- Making sure of folders writes no file, even where it fails on the way. -/
theorem gains_ensureFolders (tree : Tree) (path : Path) :
    tree.Gains (tree.ensureFolders path).1 [] := by
  fun_induction ensureFolders tree path with
  | case1 path missing top => exact Gains.refl tree []
  | case2 path missing below made parent ih =>
      rw [parent] at ih
      exact ih.trans (gains_ensureFolder made path)
  | case3 path missing below made failure parent ih =>
      rw [parent] at ih
      exact ih
  | case4 path other => exact gains_ensureFolder tree path

/-! ## Folders -/

theorem hasFolder_iff {tree : Tree} {path : Path} :
    tree.hasFolder path = true ↔
      ∃ location, tree.locate path = .ok location ∧ tree.entry? location = some .folder := by
  rw [hasFolder, beq_iff_eq, at?]
  cases tree.locate path with
  | error failure => simp
  | ok location => simp

/-- A folder that is there stays there. -/
theorem Keeps.hasFolder {tree tree' : Tree} {places : List Location}
    (keeps : tree.Keeps tree' places) {path : Path} (has : tree.hasFolder path = true) :
    tree'.hasFolder path = true := by
  obtain ⟨location, located, there⟩ := hasFolder_iff.1 has
  exact hasFolder_iff.2 ⟨location, keeps.locate located, keeps _ _ there (.inl rfl)⟩

theorem hasFolder_of_makeFolder {tree made : Tree} {path : Path}
    (makes : tree.makeFolder path = .ok made) : made.hasFolder path = true := by
  have keeps := (gains_makeFolder makes).keeps
  obtain ⟨location, located, vacant, rfl⟩ := makeFolder_eq_ok makes
  exact hasFolder_iff.2 ⟨location, keeps.locate located, entry?_made vacant⟩

/-- A folder that has been made sure of is there. -/
theorem hasFolder_of_ensureFolder {tree made : Tree} {path : Path}
    (ensures : tree.ensureFolder path = (made, none)) : made.hasFolder path = true := by
  rw [ensureFolder] at ensures
  split at ensures
  · rename_i makes
    cases ensures
    exact hasFolder_of_makeFolder makes
  · obtain ⟨rfl, noFailure⟩ := Prod.mk.inj ensures
    split at noFailure
    · assumption
    · cases noFailure

/-- Where making sure of a folder succeeds, the folder is there. -/
theorem hasFolder_of_ensureFolders {tree made : Tree} {path : Path}
    (ensures : tree.ensureFolders path = (made, none)) : made.hasFolder path = true := by
  rw [ensureFolders] at ensures
  split at ensures
  · split at ensures
    · cases ensures
    · split at ensures
      · exact hasFolder_of_ensureFolder ensures
      · cases ensures
  · exact hasFolder_of_ensureFolder ensures

/-- Making sure of a folder that is there changes nothing. -/
theorem ensureFolders_of_hasFolder {tree : Tree} {path : Path} (has : tree.hasFolder path = true) :
    tree.ensureFolders path = (tree, none) := by
  obtain ⟨location, located, there⟩ := hasFolder_iff.1 has
  have already : tree.makeFolder path = .error .alreadyExists := by
    rw [makeFolder, located]
    simp only [bind, Except.bind, there]
  rw [ensureFolders, already]
  simp only [ensureFolder, already, has, if_true]

/-! ## Trees with the same entries -/

/-- The same is found everywhere in both trees. -/
def Alike (tree tree' : Tree) : Prop := ∀ location, tree'.entry? location = tree.entry? location

namespace Alike

variable {tree tree' tree'' : Tree}

theorem refl (tree : Tree) : tree.Alike tree := fun _ => rfl

theorem trans (first : tree.Alike tree') (second : tree'.Alike tree'') : tree.Alike tree'' :=
  fun location => (second location).trans (first location)

theorem keeps (alike : tree.Alike tree') : tree.Keeps tree' [] :=
  fun location _ there _ => (alike location).trans there

end Alike

/-- Writing again what a file holds changes nothing. -/
theorem exists_write_of_read {tree : Tree} {path : Path} {bytes : List UInt8}
    (holds : tree.read path = .ok bytes) :
    ∃ written, tree.write path bytes = .ok written ∧ tree.Alike written := by
  obtain ⟨location, located, held⟩ := read_eq_ok_iff.1 holds
  refine ⟨tree.set location (.file bytes), ?_, ?_⟩
  · rw [write, located]
    simp only [bind, Except.bind, held]
  · have noFolder : tree.entry? location ≠ some .folder := by simp [held]
    intro other
    by_cases same : other = location
    · rw [same, entry?_set_self (isAbove_eq_false noFolder), held]
    · rw [entry?_set_of_ne same]

end Tree

end GLBindings.Files
