/-
# What aliases rebind

A module binds the names of the ctypes classes that it needs, and then declares aliases, each of
which binds its name to the class of pointers.  Running these lines one after the other
(`Scope.run`) says what every name stands for in the rest of the module.  No alias is declared for
a keyword that ctypes knows, but the keyword is compared before blanks in it become underscores,
and the maker of prototypes is no class that it is compared with.  So two kinds of types take a
name away from what was imported under it: one spelled like a class with a blank in place of the
underscore, such as `c int32`, and one spelled `CFUNCTYPE`.  Every other imported name, and
`c_void_p` in any case, keeps what it stands for (`boundTo_eq_self_iff`).
-/
import GLBindings.Proofs.Bindings.Bound
import GLBindings.Proofs.Bindings.Names
import GLBindings.Proofs.Registry.Invariant
import Mathlib.Logic.Function.Basic

namespace GLBindings.Bindings

set_option autoImplicit false

/-! ## Running lines -/

/-- What names stand for: each for the object that ctypes has under some name, or for nothing. -/
abbrev Scope := String → Option String

/-- An imported name stands for the object that ctypes has under it. -/
def Scope.bind (scope : Scope) (name : String) : Scope := Function.update scope name (some name)

/-- A line that declares an alias binds its name to what `c_void_p` stands for, and any other line
binds the names that it imports. -/
def Scope.step (scope : Scope) (line : String) : Scope :=
  match aliasIn? line with
  | some name => Function.update scope name (scope pointerCtype)
  | none => (importedBy line).foldl Scope.bind scope

/-- The lines are run in order. -/
def Scope.run (scope : Scope) (lines : List String) : Scope := lines.foldl Scope.step scope

/-- What a name stands for in a module for the commands, below its imports and aliases. -/
def boundTo (commands : List Command) (prototypes : Bool) : Scope :=
  Scope.run (fun _ => none) (ctypesImports commands prototypes ++ typeAliases commands)

/-- Imported names stand for themselves, and all others for what they stood for before. -/
theorem foldl_bind (scope : Scope) (names : List String) (name : String) :
    names.foldl Scope.bind scope name = if name ∈ names then some name else scope name := by
  induction names generalizing scope with
  | nil => rfl
  | cons first others ih =>
      rw [List.foldl_cons, ih, Scope.bind, Function.update_apply]
      by_cases later : name ∈ others
      · simp [later]
      · by_cases same : name = first
        · simp [same]
        · simp [later, same]

theorem Scope.run_append (scope : Scope) (lines more : List String) :
    scope.run (lines ++ more) = (scope.run lines).run more :=
  List.foldl_append

/-- Lines that neither import nor declare anything change nothing. -/
theorem Scope.run_eq_self {scope : Scope} {lines : List String}
    (idle : ∀ line ∈ lines, aliasIn? line = none ∧ importedBy line = []) :
    scope.run lines = scope := by
  induction lines with
  | nil => rfl
  | cons first others ih =>
      rw [List.forall_mem_cons] at idle
      have unchanged : scope.step first = scope := by
        rw [Scope.step, idle.1.1, idle.1.2]
        rfl
      rw [Scope.run, List.foldl_cons, unchanged]
      exact ih idle.2

/-- The import line binds the imported names and nothing else. -/
theorem run_ctypesImports (scope : Scope) (commands : List Command) (prototypes : Bool)
    (name : String) :
    scope.run (ctypesImports commands prototypes) name =
      if name ∈ importedNames commands prototypes then some name else scope name := by
  have names := names_of_ctypesImports commands prototypes
  rw [ctypesImports] at names ⊢
  cases needed : importedNames commands prototypes with
  | nil => simp [Scope.run]
  | cons first others =>
      rw [needed] at names
      dsimp only at names ⊢
      rw [List.flatMap_singleton] at names
      have noAlias : aliasIn? ("from ctypes import " ++ ", ".intercalate (first :: others)) =
          none := by
        simp [aliasIn?, String.toList_append, List.isPrefixOf]
      rw [Scope.run, List.foldl_cons, List.foldl_nil, Scope.step, noAlias]
      dsimp only
      rw [names, foldl_bind]

/-- An alias line binds its own name to what pointers stand for, which it leaves as it is. -/
theorem step_aliasLine (scope : Scope) (keyword name : String) :
    scope.step (aliasLine keyword) name =
      if name = aliasName keyword then scope pointerCtype else scope name := by
  rw [Scope.step, aliasIn?_aliasLine]
  dsimp only
  rw [Function.update_apply]

/-- Aliases stand for what the class of pointers stood for, and no other name is touched. -/
theorem run_aliasLines (scope : Scope) (keywords : List String) (name : String) :
    scope.run (keywords.map aliasLine) name =
      if name ∈ keywords.map aliasName then scope pointerCtype else scope name := by
  induction keywords generalizing scope with
  | nil => rfl
  | cons first others ih =>
      rw [List.map_cons, Scope.run, List.foldl_cons, ← Scope.run, ih, step_aliasLine,
        step_aliasLine, ite_self, List.map_cons]
      by_cases later : name ∈ others.map aliasName
      · rw [if_pos later, if_pos (List.mem_cons_of_mem _ later)]
      · simp [later]

/-- The alias lines bind the names of the aliases and nothing else. -/
theorem run_typeAliases (scope : Scope) (commands : List Command) (name : String) :
    scope.run (typeAliases commands) name =
      if name ∈ (aliasKeywords commands).map aliasName then scope pointerCtype
      else scope name := by
  rw [typeAliases]
  cases aliasKeywords commands with
  | nil => rfl
  | cons first others =>
      have heading : ∀ line ∈ ["", "", "# Opaque types"],
          aliasIn? line = none ∧ importedBy line = [] := by decide +kernel
      dsimp only
      rw [Scope.run_append, Scope.run_eq_self heading, run_aliasLines]

/-- An imported name stands for pointers if it is the name of an alias, and for itself if not. -/
theorem boundTo_imported {commands : List Command} {prototypes : Bool} {name : String}
    (imported : name ∈ importedNames commands prototypes) :
    boundTo commands prototypes name =
      some (if name ∈ (aliasKeywords commands).map aliasName then pointerCtype else name) := by
  rw [boundTo, Scope.run_append, run_typeAliases, run_ctypesImports, run_ctypesImports,
    if_pos imported]
  split
  · rename_i aliased
    have needed : aliasKeywords commands ≠ [] := by
      intro none
      rw [none] at aliased
      cases aliased
    have pointer : pointerCtype ∈ importedNames commands prototypes := by
      rw [importedNames, List.mem_append, mem_importedCtypes_iff]
      exact .inr (.inr ⟨needed, rfl⟩)
    rw [if_pos pointer]
  · rfl

/-! ## Names that are taken away -/

/-- The name with a blank for each underscore. -/
def blanked (name : String) : String :=
  String.ofList (name.toList.map fun c => if c = '_' then ' ' else c)

/-- An unrecognized type takes the name away from what is imported under it: its keyword is the
name with blanks for underscores, and stands alone. -/
structure TakesName (t : TypeRef) (name : String) : Prop where
  base : t.base = .unrecognized
  shape : t.shape = .plain
  spelling : t.spelling = blanked name

instance (t : TypeRef) (name : String) : Decidable (TakesName t name) :=
  decidable_of_iff (t.base = .unrecognized ∧ t.shape = .plain ∧ t.spelling = blanked name)
    ⟨fun h => ⟨h.1, h.2.1, h.2.2⟩, fun h => ⟨h.base, h.shape, h.spelling⟩⟩

theorem underscored_eq_self {cs : List Char} (absent : '_' ∉ underscored cs) :
    underscored cs = cs := by
  apply map_ite_eq_self
  intro blank
  exact absent (List.mem_map.2 ⟨' ', blank, rfl⟩)

/-- Texts that become one with a single underscore differ by a blank in its place, if at all. -/
theorem eq_or_eq_of_underscored {cs ds : List Char} (single : ds.count '_' ≤ 1)
    (same : underscored cs = ds) :
    cs = ds ∨ cs = ds.map fun c => if c = '_' then ' ' else c := by
  induction cs generalizing ds with
  | nil => exact .inl same
  | cons c rest ih =>
      have shape : ds = (if c = ' ' then '_' else c) :: underscored rest := same.symm
      by_cases taken : c = ' ' ∨ c = '_'
      · -- the only underscore stands here, so nothing changes in the rest
        have absent : '_' ∉ underscored rest := by
          have first : ds = '_' :: underscored rest := by
            rcases taken with rfl | rfl <;> simpa using shape
          rw [first, List.count_cons_self] at single
          exact List.count_eq_zero.1 (by omega)
        have kept := underscored_eq_self absent
        rw [kept] at absent shape
        have unchanged : (rest.map fun c => if c = '_' then ' ' else c) = rest :=
          map_ite_eq_self absent
        rcases taken with rfl | rfl
        · right
          rw [shape]
          simp [unchanged]
        · left
          rw [shape]
          simp
      · rw [not_or] at taken
        rw [if_neg taken.1] at shape
        subst shape
        rw [List.count_cons_of_ne taken.2] at single
        rw [List.map_cons, if_neg taken.2]
        exact (ih single rfl).imp (congrArg (c :: ·)) (congrArg (c :: ·))

/-- What the names that can be imported are like: no name that is made from another, and at most one
underscore in all but `c_void_p`. -/
theorem importable_plain : ∀ name ∈ "CFUNCTYPE" :: knownCtypes,
    name ∉ reservedWords ∧ name.toList.getLast? ≠ some '_' ∧
      (name ≠ pointerCtype → name.toList.count '_' ≤ 1) := by
  decide +kernel

/-- Blanks can take the place of their underscores, and then they are no classes of ctypes. -/
theorem importable_blanked : ∀ name ∈ "CFUNCTYPE" :: knownCtypes,
    underscored name.toList = name.toList ∧
      underscored (blanked name).toList = name.toList ∧ blanked name ∉ knownCtypes := by
  decide +kernel

/-- The keyword of an alias that has an imported name is that name, or has a blank in it. -/
theorem aliasName_eq_iff {t : TypeRef} (spelled : t.SpelledInWords) {name : String}
    (importable : name ∈ "CFUNCTYPE" :: knownCtypes) (other : name ≠ pointerCtype) :
    aliasName t.spelling = name ↔ t.spelling = name ∨ t.spelling = blanked name := by
  obtain ⟨free, unmarked, single⟩ := importable_plain name importable
  obtain ⟨unblanked, filled, -⟩ := importable_blanked name importable
  obtain ⟨words, -, spelling, lexemes⟩ := spelled
  rw [spelling, aliasName_intercalate fun w member => (lexemes w member).isWord, ← spelling,
    unreserved_eq_iff free unmarked, ← String.toList_inj, String.toList_ofList]
  constructor
  · intro same
    rcases eq_or_eq_of_underscored (single other) same with equal | apart
    · exact .inl (String.toList_injective equal)
    · right
      rw [blanked, ← apart, String.ofList_toList]
  · rintro (equal | apart)
    · rw [equal, unblanked]
    · rw [apart, filled]

theorem ctype_of_unrecognized {t : TypeRef} (unrecognized : t.base = .unrecognized)
    (plain : t.shape = .plain) : ctype t = t.spelling := by
  rw [ctype, if_pos plain, unrecognized]
  rfl

/-- A keyword that gets an alias spells an unrecognized type that stands alone. -/
theorem mem_aliasKeywords_iff_exists {commands : List Command} {keyword : String} :
    keyword ∈ aliasKeywords commands ↔ keyword ∉ knownCtypes ∧
      ∃ t ∈ mentionedTypes commands, t.base = .unrecognized ∧ t.shape = .plain ∧
        t.spelling = keyword := by
  rw [mem_aliasKeywords_iff, and_comm, unrecognizedNames]
  refine and_congr_right fun unknown => ?_
  simp only [List.mem_map, List.mem_filter, beq_iff_eq]
  constructor
  · rintro ⟨t, ⟨mentioned, unrecognized⟩, rfl⟩
    have plain : t.shape = .plain := by
      by_contra pointer
      exact unknown (by rw [ctype, if_neg pointer]; decide)
    exact ⟨t, mentioned, unrecognized, plain, (ctype_of_unrecognized unrecognized plain).symm⟩
  · rintro ⟨t, mentioned, unrecognized, plain, rfl⟩
    exact ⟨t, ⟨mentioned, unrecognized⟩, ctype_of_unrecognized unrecognized plain⟩

/-- The names that can be imported and are names of aliases, in terms of the types. -/
theorem mem_aliasNames_iff {commands : List Command}
    (spelled : ∀ t ∈ mentionedTypes commands, t.SpelledInWords) {name : String}
    (importable : name ∈ "CFUNCTYPE" :: knownCtypes) (other : name ≠ pointerCtype) :
    name ∈ (aliasKeywords commands).map aliasName ↔
      ∃ t ∈ mentionedTypes commands, TakesName t name := by
  simp only [List.mem_map, mem_aliasKeywords_iff_exists]
  constructor
  · rintro ⟨_, ⟨unknown, t, mentioned, base, shape, rfl⟩, named⟩
    refine ⟨t, mentioned, base, shape, ?_⟩
    rcases (aliasName_eq_iff (spelled t mentioned) importable other).1 named with equal | apart
    · -- a class of ctypes gets no alias, so the name is that of the maker of prototypes
      rw [equal] at unknown
      rcases List.mem_cons.1 importable with maker | known
      · rw [equal, maker]
        decide +kernel
      · exact absurd known unknown
    · exact apart
  · rintro ⟨t, mentioned, takes⟩
    have unknown := (importable_blanked name importable).2.2
    refine ⟨t.spelling, ⟨?_, t, mentioned, takes.base, takes.shape, rfl⟩, ?_⟩
    · rw [takes.spelling]
      exact unknown
    · exact (aliasName_eq_iff (spelled t mentioned) importable other).2 (.inr takes.spelling)

/-- The class of a type that ctypes knows is always imported. -/
theorem mem_importedNames_of_type {commands : List Command} {t : TypeRef}
    (mentioned : t ∈ mentionedTypes commands) (known : ctype t ∈ knownCtypes)
    (prototypes : Bool) : ctype t ∈ importedNames commands prototypes := by
  rw [importedNames, List.mem_append, mem_importedCtypes_iff]
  exact .inr (.inl ⟨t, mentioned, rfl, known⟩)

theorem importable_of_mem_importedNames {commands : List Command} {prototypes : Bool}
    {name : String} (imported : name ∈ importedNames commands prototypes) :
    name ∈ "CFUNCTYPE" :: knownCtypes := by
  rw [importedNames, List.mem_append] at imported
  rcases imported with maker | known
  · split at maker
    · rw [List.mem_singleton.1 maker]
      exact List.mem_cons_self
    · cases maker
  · exact List.mem_cons_of_mem _ (knownCtypes_of_mem_importedCtypes known)

/-- The types of commands that have been read are spelled in words. -/
theorem spelledInWords_of_read {commands : List Command}
    (read : ∀ c ∈ commands, ∃ e, Registry.readCommand e = .ok c) :
    ∀ t ∈ mentionedTypes commands, t.SpelledInWords := by
  intro t mentioned
  obtain ⟨c, hc, inside⟩ := mem_mentionedTypes_iff.1 mentioned
  obtain ⟨e, made⟩ := read c hc
  exact Registry.forall_types_of_readCommand Declaration.spelledInWords_of_parse made t inside

/-- **Of the names that a module imports, the aliases take away those that a type is spelled like,
up to a blank for the underscore, and no others; what they take away stands for pointers.** -/
theorem boundTo_eq_self_iff {commands : List Command}
    (read : ∀ c ∈ commands, ∃ e, Registry.readCommand e = .ok c) (prototypes : Bool) :
    ∀ name ∈ (ctypesImports commands prototypes).flatMap importedBy,
      (boundTo commands prototypes name = some name ↔
        name = "c_void_p" ∨ ∀ t ∈ mentionedTypes commands, ¬ TakesName t name) ∧
      (boundTo commands prototypes name = some name ∨
        boundTo commands prototypes name = some "c_void_p") := by
  intro name imported
  rw [names_of_ctypesImports] at imported
  have importable := importable_of_mem_importedNames imported
  rw [boundTo_imported imported]
  by_cases other : name = pointerCtype
  · -- An alias that takes this name binds it to itself.
    subst other
    simp [pointerCtype]
  · have aliased := mem_aliasNames_iff (spelledInWords_of_read read) importable other
    by_cases taken : ∃ t ∈ mentionedTypes commands, TakesName t name
    · rw [if_pos (aliased.2 taken)]
      refine ⟨iff_of_false ?_ ?_, .inr rfl⟩
      · intro same
        exact other (Option.some.inj same).symm
      · rintro (pointer | free)
        · exact other pointer
        · obtain ⟨t, mentioned, takes⟩ := taken
          exact free t mentioned takes
    · rw [if_neg (mt aliased.1 taken)]
      refine ⟨iff_of_true rfl (.inr ?_), .inl rfl⟩
      intro t mentioned takes
      exact taken ⟨t, mentioned, takes⟩

/-! ## A class and the maker of prototypes lose their names -/

namespace Sample

open Xml (Element Node)

def declares (kind keyword name : String) : Node :=
  .element ⟨kind, [], [.element ⟨"ptype", [], [.text keyword]⟩, .text " ",
    .element ⟨"name", [], [.text name]⟩]⟩

/-- A command that takes a `c int32`, a `CFUNCTYPE`, and numbers. -/
def displacingElement : Element := ⟨"command", [], [
  declares "proto" "void" "glMix",
  declares "param" "c int32" "x",
  declares "param" "GLint" "y",
  declares "param" "GLfloat" "z",
  declares "param" "CFUNCTYPE" "make"]⟩

def displacing : Command where
  name := "glMix"
  result := { base := .void, spelling := "void" }
  parameters := [
    { type := { base := .unrecognized, spelling := "c int32" }, name := "x" },
    { type := { base := .int32, spelling := "GLint" }, name := "y" },
    { type := { base := .float32, spelling := "GLfloat" }, name := "z" },
    { type := { base := .unrecognized, spelling := "CFUNCTYPE" }, name := "make" }]

theorem readCommand_displacing : Registry.readCommand displacingElement = .ok displacing := by
  decide +kernel

theorem read_displacing : ∀ c ∈ [displacing], ∃ e, Registry.readCommand e = .ok c := by
  rw [List.forall_mem_singleton]
  exact ⟨displacingElement, readCommand_displacing⟩

end Sample

theorem boundTo_eq_self_iff_sample :
    (∀ c ∈ [Sample.displacing], ∃ e, Registry.readCommand e = .ok c) ∧
      "c_float" ∈ (ctypesImports [Sample.displacing] true).flatMap importedBy ∧
      boundTo [Sample.displacing] true "c_float" = some "c_float" := by
  have imported : "c_float" ∈ (ctypesImports [Sample.displacing] true).flatMap importedBy := by
    rw [names_of_ctypesImports]
    exact mem_importedNames_of_type (t := { base := .float32, spelling := "GLfloat" })
      (by decide) (by decide) true
  refine ⟨Sample.read_displacing, imported, ?_⟩
  rw [(boundTo_eq_self_iff Sample.read_displacing true _ imported).1]
  exact .inr (by decide +kernel)

/-- Below its aliases the module has neither the class for numbers nor the maker of prototypes. -/
theorem boundTo_displaced :
    (∀ c ∈ [Sample.displacing], ∃ e, Registry.readCommand e = .ok c) ∧
      ∀ name ∈ ["c_int32", "CFUNCTYPE"],
        name ∈ (ctypesImports [Sample.displacing] true).flatMap importedBy ∧
        boundTo [Sample.displacing] true name = some "c_void_p" := by
  refine ⟨Sample.read_displacing, ?_⟩
  have imported : ∀ name ∈ ["c_int32", "CFUNCTYPE"],
      name ∈ importedNames [Sample.displacing] true := by
    simp only [List.forall_mem_cons]
    refine ⟨?_, List.mem_cons_self, by simp⟩
    exact mem_importedNames_of_type (t := { base := .int32, spelling := "GLint" })
      (by decide) (by decide) true
  have taken : ∀ name ∈ ["c_int32", "CFUNCTYPE"], name ≠ pointerCtype ∧
      ∃ t ∈ mentionedTypes [Sample.displacing], TakesName t name := by
    decide +kernel
  intro name member
  obtain ⟨other, takes⟩ := taken name member
  have aliased := mem_aliasNames_iff (spelledInWords_of_read Sample.read_displacing)
    (importable_of_mem_importedNames (imported name member)) other
  rw [names_of_ctypesImports, boundTo_imported (imported name member), if_pos (aliased.2 takes)]
  exact ⟨imported name member, rfl⟩

end GLBindings.Bindings
