/-
# Unused declarations

A registry declares more than any profile of it offers.  What no version offers might as well not
be declared: taking such declarations out of a document, any of them (`WithoutUnused`), changes
nothing of the specification that is loaded from it (`load_withoutUnused`).  For the names that are
offered the shorter document puts the same on file (`Agrees`), though a name may have several
declarations that are told apart by api or by order, and nothing else is ever looked up.
-/
import GLBindings.Proofs.Declaration.WellFormed
import GLBindings.Proofs.Load

namespace GLBindings

open Registry (Kind)
open Xml (Element Node)

set_option autoImplicit false

/-! ## Taking entries out -/

/-- The second list is the first without some of the entries that the condition holds of. -/
inductive LeavesOut {α : Type} (gone : α → Prop) : List α → List α → Prop where
  | nil : LeavesOut gone [] []
  | keep {l rest : List α} (a : α) (others : LeavesOut gone l rest) :
      LeavesOut gone (a :: l) (a :: rest)
  | drop {l rest : List α} {a : α} (dropped : gone a) (others : LeavesOut gone l rest) :
      LeavesOut gone (a :: l) rest

namespace LeavesOut

variable {α β : Type} {gone : α → Prop} {l rest : List α}

theorem refl (gone : α → Prop) (l : List α) : LeavesOut gone l l := by
  induction l with
  | nil => exact .nil
  | cons a l ih => exact .keep a ih

theorem mono {lost : α → Prop} (leaves : LeavesOut gone l rest)
    (weaker : ∀ a, gone a → lost a) : LeavesOut lost l rest := by
  induction leaves with
  | nil => exact .nil
  | keep a _ ih => exact .keep a ih
  | drop dropped _ ih => exact .drop (weaker _ dropped) ih

theorem append {more left : List α} (first : LeavesOut gone l rest)
    (second : LeavesOut gone more left) : LeavesOut gone (l ++ more) (rest ++ left) := by
  induction first with
  | nil => exact second
  | keep a _ ih => exact .keep a ih
  | drop dropped _ ih => exact .drop dropped ih

theorem filter (leaves : LeavesOut gone l rest) (p : α → Bool) :
    LeavesOut gone (l.filter p) (rest.filter p) := by
  induction leaves with
  | nil => exact .nil
  | keep a _ ih =>
      by_cases picked : p a = true
      · rw [List.filter_cons_of_pos picked, List.filter_cons_of_pos picked]
        exact .keep a ih
      · rw [List.filter_cons_of_neg picked, List.filter_cons_of_neg picked]
        exact ih
  | @drop _ _ a dropped _ ih =>
      by_cases picked : p a = true
      · rw [List.filter_cons_of_pos picked]
        exact .drop dropped ih
      · rw [List.filter_cons_of_neg picked]
        exact ih

theorem filterMap {f : α → Option β} {lost : β → Prop} (leaves : LeavesOut gone l rest)
    (only : ∀ a, gone a → ∀ b, f a = some b → lost b) :
    LeavesOut lost (l.filterMap f) (rest.filterMap f) := by
  induction leaves with
  | nil => exact .nil
  | keep a _ ih =>
      cases made : f a with
      | none =>
          rw [List.filterMap_cons_none made, List.filterMap_cons_none made]
          exact ih
      | some b =>
          rw [List.filterMap_cons_some made, List.filterMap_cons_some made]
          exact .keep b ih
  | @drop _ _ a dropped _ ih =>
      cases made : f a with
      | none =>
          rw [List.filterMap_cons_none made]
          exact ih
      | some b =>
          rw [List.filterMap_cons_some made]
          exact .drop (only a dropped b made) ih

end LeavesOut

/-! ## Documents without some declarations -/

namespace Registry

def Kind.group : Kind → String
  | .constant => "enums"
  | .command => "commands"

def Kind.declared? : Kind → Element → Option String
  | .constant, e => e.attribute? "name"
  | .command, e => (e.child? "proto").bind Declaration.declaredName

def declarationsOf (kind : Kind) (root : Element) : List Element :=
  (root.childrenNamed kind.group).flatMap (·.childrenNamed kind.tag)

/-- A group of declarations may lose some of them; any other element stays. -/
inductive Trimmed (gone : Kind → Element → Prop) : Element → Element → Prop where
  | same (e : Element) : Trimmed gone e e
  | group {e trimmed : Element} (kind : Kind) (isGroup : e.name = kind.group)
      (stillGroup : trimmed.name = kind.group)
      (declarations : LeavesOut (gone kind) e.children trimmed.children) : Trimmed gone e trimmed

end Registry

open Registry (Trimmed declarationsOf)

def Spec.Uses (spec : Spec) (kind : Kind) (name : String) : Prop :=
  ∃ v ∈ spec.versions, name ∈ v.names kind

instance (spec : Spec) (kind : Kind) (name : String) : Decidable (spec.Uses kind name) :=
  inferInstanceAs (Decidable (∃ v ∈ spec.versions, _))

/-- The element declares a thing of the kind under a name that no version offers. -/
def IsUnused (spec : Spec) (kind : Kind) (e : Element) : Prop :=
  e.name = kind.tag ∧ ∀ name ∈ kind.declared? e, ¬ spec.Uses kind name

instance (spec : Spec) (kind : Kind) (e : Element) : Decidable (IsUnused spec kind e) :=
  inferInstanceAs (Decidable (_ ∧ _))

/-- The second document is the first without some of the declarations of names that no version
offers.  What text is left between the elements plays no part. -/
def WithoutUnused (spec : Spec) (root trimmed : Element) : Prop :=
  List.Forall₂ (Trimmed (IsUnused spec)) root.children trimmed.children

namespace Registry

theorem group_injective : Function.Injective Kind.group := by
  intro kind other same
  cases kind <;> cases other
  · rfl
  · exact absurd same (by decide)
  · exact absurd same (by decide)
  · rfl

section Trimmed

variable {gone : Kind → Element → Prop} {root trimmed : Element}

/-- What stands beside the groups of declarations is the same. -/
theorem childrenNamed_eq_of_trimmed
    (shorter : List.Forall₂ (Trimmed gone) root.children trimmed.children) {tag : String}
    (other : ∀ kind : Kind, kind.group ≠ tag) :
    trimmed.childrenNamed tag = root.childrenNamed tag := by
  rw [Element.childrenNamed, Element.childrenNamed]
  generalize root.children = elements at shorter ⊢
  generalize trimmed.children = others at shorter ⊢
  induction shorter with
  | nil => rfl
  | cons first _ ih =>
      cases first with
      | same => rw [List.filter_cons, List.filter_cons, ih]
      | group kind isGroup stillGroup =>
          rw [List.filter_cons_of_neg (by simpa [stillGroup] using other kind),
            List.filter_cons_of_neg (by simpa [isGroup] using other kind), ih]

/-- Trimming groups touches no other part of a document. -/
theorem child?_eq_of_trimmed
    (shorter : List.Forall₂ (Trimmed gone) root.children trimmed.children) {tag : String}
    (other : ∀ kind : Kind, kind.group ≠ tag) : trimmed.child? tag = root.child? tag := by
  have same := childrenNamed_eq_of_trimmed shorter other
  rw [Element.child?, Element.child?, ← List.head?_filter, ← List.head?_filter]
  exact congrArg List.head? same

/-- With respect to one kind an element is a group on both sides, or on neither. -/
theorem Trimmed.group_or_other {e f : Element} (first : Trimmed gone e f) (kind : Kind) :
    e.name = kind.group ∧ f.name = kind.group ∧
        LeavesOut (gone kind) (e.childrenNamed kind.tag) (f.childrenNamed kind.tag) ∨
      e.name ≠ kind.group ∧ f.name ≠ kind.group := by
  cases first with
  | same =>
      by_cases own : e.name = kind.group
      · exact .inl ⟨own, own, .refl _ _⟩
      · exact .inr ⟨own, own⟩
  | group other isGroup stillGroup declarations =>
      by_cases own : other = kind
      · subst own
        exact .inl ⟨isGroup, stillGroup, declarations.filter _⟩
      · have differ : other.group ≠ kind.group := fun same => own (group_injective same)
        exact .inr ⟨isGroup ▸ differ, stillGroup ▸ differ⟩

/-- Of the declarations of a kind only those are missing that may. -/
theorem leavesOut_declarationsOf
    (shorter : List.Forall₂ (Trimmed gone) root.children trimmed.children) (kind : Kind) :
    LeavesOut (gone kind) (declarationsOf kind root) (declarationsOf kind trimmed) := by
  rw [declarationsOf, declarationsOf, Element.childrenNamed, Element.childrenNamed]
  generalize root.children = elements at shorter ⊢
  generalize trimmed.children = others at shorter ⊢
  induction shorter with
  | nil => exact .nil
  | @cons e f _ _ first _ ih =>
      rcases first.group_or_other kind with ⟨isGroup, stillGroup, declarations⟩ | ⟨other, stillOther⟩
      · rw [List.filter_cons_of_pos (by simpa using isGroup),
          List.filter_cons_of_pos (by simpa using stillGroup), List.flatMap_cons,
          List.flatMap_cons]
        exact declarations.append ih
      · rw [List.filter_cons_of_neg (by simpa using other),
          List.filter_cons_of_neg (by simpa using stillOther)]
        exact ih

end Trimmed

/-! ## The same on file -/

/-- Both registries have the same on file under the names that are used. -/
structure Agrees (used : Kind → String → Prop) (registry other : Registry) : Prop where
  constants : ∀ name, used .constant name →
    other.constants.find? name = registry.constants.find? name
  commands : ∀ name, used .command name →
    other.commands.find? name = registry.commands.find? name

/-- Declarations of other constants make no difference to those of a name that is used. -/
theorem find?_foldl_declareConstant {used : String → Prop}
    {declared rest : List (Option String × Constant)}
    (leaves : LeavesOut (fun entry => ¬ used entry.2.name) declared rest)
    {constants others : Keyed String (Keyed (Option String) Constant)}
    (agree : ∀ name, used name → others.find? name = constants.find? name) :
    ∀ name, used name → (rest.foldl declareConstant others).find? name =
      (declared.foldl declareConstant constants).find? name := by
  induction leaves generalizing constants others with
  | nil => exact agree
  | keep entry _ ih =>
      apply ih
      intro name isUsed
      rw [find?_declareConstant, find?_declareConstant]
      by_cases own : name = entry.2.name
      · subst own
        rw [agree _ isUsed]
      · rw [if_neg own, if_neg own]
        exact agree name isUsed
  | drop dropped _ ih =>
      apply ih
      intro name isUsed
      -- What is left out declares a name that is not used, and so not this one.
      rw [find?_declareConstant, if_neg]
      · exact agree name isUsed
      · rintro rfl
        exact dropped isUsed

/-- Declarations of other commands make no difference to those of a name that is used, and without
some of them the rest can still be read. -/
theorem find?_readEachCommand {used : String → Prop} {elements rest : List Element}
    (leaves : LeavesOut (fun e => ∀ command, readCommand e = .ok command → ¬ used command.name)
      elements rest) {registry other : Registry}
    (agree : ∀ name, used name → other.commands.find? name = registry.commands.find? name)
    (succeeds : (registry.readEachCommand elements).failure = none) :
    (other.readEachCommand rest).failure = none ∧
      ∀ name, used name → (other.readEachCommand rest).registry.commands.find? name =
        (registry.readEachCommand elements).registry.commands.find? name := by
  induction leaves generalizing registry other with
  | nil => exact ⟨rfl, agree⟩
  | keep e _ ih =>
      rw [readEachCommand] at succeeds ⊢
      rw [readEachCommand]
      cases read : readCommand e with
      | error failure => simp [read] at succeeds
      | ok command =>
          rw [read] at succeeds
          refine ih ?_ succeeds
          intro name isUsed
          rw [Keyed.find?_put, Keyed.find?_put, agree name isUsed]
  | @drop _ _ e dropped _ ih =>
      rw [readEachCommand] at succeeds ⊢
      cases read : readCommand e with
      | error failure => simp [read] at succeeds
      | ok command =>
          rw [read] at succeeds
          refine ih ?_ succeeds
          intro name isUsed
          rw [Keyed.find?_put, if_neg]
          · exact agree name isUsed
          · rintro rfl
            exact dropped command read isUsed

/-- A command is filed under the name that its element declares. -/
theorem declared?_of_readCommand {e : Element} {command : Command}
    (read : readCommand e = .ok command) : Kind.command.declared? e = some command.name := by
  rw [readCommand] at read
  split at read
  · cases read
  · rename_i prototype found
    simp only [bind_eq_ok_iff, mapError_eq_ok_iff, Declaration.parse] at read
    obtain ⟨⟨result, name⟩, ⟨parts, apart, type, -, named⟩, parameters, -, made⟩ := read
    cases named
    cases made
    have declared := Declaration.declaredName_of_split apart
    rw [Kind.declared?, found]
    exact declared

variable {spec : Spec} {root trimmed : Element}

/-- For the names that are used the shorter document declares the same. -/
theorem agrees_declarations (shorter : WithoutUnused spec root trimmed)
    (succeeds : (declarations root).failure = none) :
    (declarations trimmed).failure = none ∧
      Agrees spec.Uses (declarations root).registry (declarations trimmed).registry := by
  have constants : LeavesOut (fun entry => ¬ spec.Uses .constant entry.2.name)
      (declaredConstants root) (declaredConstants trimmed) := by
    refine (leavesOut_declarationsOf shorter .constant).filterMap ?_
    intro e unused entry declared
    simp only [constantOf?, Option.bind_eq_bind, Option.bind_eq_some_iff] at declared
    obtain ⟨name, named, value, -, made⟩ := declared
    split at made
    · cases made
    · cases made
      exact unused.2 name named
  have commands : LeavesOut (fun e => ∀ command, readCommand e = .ok command →
      ¬ spec.Uses .command command.name) (commandElements root) (commandElements trimmed) := by
    have leaves := leavesOut_declarationsOf shorter .command
    refine leaves.mono ?_
    intro e unused command read
    exact unused.2 _ (declared?_of_readCommand read)
  have first : ((({} : Registry).readNotice trimmed).readConstants trimmed).commands =
      ((({} : Registry).readNotice root).readConstants root).commands := by
    obtain ⟨notice, same⟩ := exists_readNotice_eq {} root
    obtain ⟨notice', same'⟩ := exists_readNotice_eq {} trimmed
    rw [readConstants, readConstants, same, same']
  obtain ⟨noFailure, found⟩ :=
    find?_readEachCommand commands (fun name _ => by rw [first]) succeeds
  refine ⟨noFailure, ?_, found⟩
  rw [constants_declarations, constants_declarations]
  exact find?_foldl_declareConstant constants fun name _ => rfl

/-! ## The same versions -/

section Agrees

variable {used : Kind → String → Prop} {registry other : Registry}

theorem Agrees.lookupConstant (agrees : Agrees used registry other) {name : String}
    (isUsed : used .constant name) (api : Option String) :
    other.lookupConstant api (some name) = registry.lookupConstant api (some name) := by
  rw [Registry.lookupConstant, Registry.lookupConstant, Option.bind_some, Option.bind_some,
    agrees.constants name isUsed]

theorem Agrees.lookupCommand (agrees : Agrees used registry other) {name : String}
    (isUsed : used .command name) :
    other.lookupCommand (some name) = registry.lookupCommand (some name) := by
  rw [Registry.lookupCommand, Registry.lookupCommand, Option.bind_some, Option.bind_some,
    agrees.commands name isUsed]

/-- A version that offers only names that are used is made of the same things. -/
theorem Agrees.version (agrees : Agrees used registry other) (keyed : registry.WellKeyed)
    {api : Api} {number : String} {names : Names} {v : Version}
    (made : registry.version api number names = .ok v)
    (uses : ∀ kind, ∀ name ∈ v.names kind, used kind name) :
    other.version api number names = .ok v := by
  rw [version_eq_ok_iff] at made ⊢
  obtain ⟨family, name, hnumber, constants, commands⟩ := made
  refine ⟨family, name, hnumber, ?_, ?_⟩
  · apply forall₂_imp_of_mem constants
    intro name constant member found
    obtain rfl := keyed.name_of_lookupConstant found
    have isUsed := uses .constant _ (List.mem_map_of_mem member)
    rw [agrees.lookupConstant isUsed, found]
  · apply forall₂_imp_of_mem commands
    intro name command member found
    obtain rfl := keyed.name_of_lookupCommand found
    have isUsed := uses .command _ (List.mem_map_of_mem member)
    rw [agrees.lookupCommand isUsed, found]

end Agrees

/-- The shorter document adds the same versions. -/
theorem Adds.of_agrees {registry other : Registry} {profile : String}
    (adds : Adds registry profile root spec.versions) (keyed : registry.WellKeyed)
    (agrees : Agrees spec.Uses registry other)
    (features : trimmed.childrenNamed "feature" = root.childrenNamed "feature") :
    Adds other profile trimmed spec.versions := by
  rw [Adds, featuresOf, features]
  apply forall₂_imp_of_mem adds
  intro snapshot v member made
  exact agrees.version keyed made fun kind name offered => ⟨v, member, offered⟩

end Registry

/-- **Declarations of what no version offers can be taken out without changing the
specification.** -/
theorem load_withoutUnused {bytes shorterBytes : List UInt8} {profile : String}
    {root trimmed : Element} {spec : Spec} (document : Xml.readDocument bytes = .ok root)
    (loaded : Spec.load bytes profile = .ok spec) (shorter : WithoutUnused spec root trimmed)
    (document' : Xml.readDocument shorterBytes = .ok trimmed) :
    Spec.load shorterBytes profile = .ok spec := by
  obtain ⟨succeeds, adds, notice⟩ := (load_eq_ok_iff_adds document).1 loaded
  obtain ⟨succeeds', agrees⟩ := Registry.agrees_declarations shorter succeeds
  have keyed := (Registry.reached_declarations root).wellKeyed
  have features : trimmed.childrenNamed "feature" = root.childrenNamed "feature" :=
    Registry.childrenNamed_eq_of_trimmed shorter fun kind => by cases kind <;> decide
  have comment : trimmed.child? "comment" = root.child? "comment" :=
    Registry.child?_eq_of_trimmed shorter fun kind => by cases kind <;> decide
  refine (load_eq_ok_iff_adds document').2 ⟨succeeds', adds.of_agrees keyed agrees features, ?_⟩
  rw [notice, Registry.notice_declarations, Registry.notice_declarations, Registry.readNotice,
    Registry.readNotice, comment]

/-! ## A document that declares too much -/

namespace Sample

open Registry.Sample (entry command block feature)

def constant (name value : String) : Node :=
  .element ⟨"enum", [("name", name), ("value", value)], []⟩

def constantFor (name value api : String) : Node :=
  .element ⟨"enum", [("name", name), ("value", value), ("api", api)], []⟩

/-- What the document requires, some of it only to remove it. -/
def features : List Node := [
  feature "gl" "1.0" [
    block "require" "core" [entry "enum" "GL_ONE", entry "enum" "GL_OLD", entry "command" "f"],
    block "remove" "core" [entry "enum" "GL_OLD"]]]

/-- The constant that is offered has two values, and another is declared before and between them. -/
def wideRoot : Element := ⟨"registry", [], [
  .element ⟨"enums", [], [
    constant "GL_OLD" "7", constantFor "GL_ONE" "2" "gles1", constantFor "GL_OLD" "8" "gl",
    constant "GL_ONE" "1"]⟩,
  .element ⟨"commands", [], [command "void " "g", command "void " "f"]⟩] ++
  features⟩

def narrowRoot : Element := ⟨"registry", [], [
  .element ⟨"enums", [], [
    constantFor "GL_ONE" "2" "gles1", constantFor "GL_OLD" "8" "gl", constant "GL_ONE" "1"]⟩,
  .element ⟨"commands", [], [command "void " "f"]⟩] ++
  features⟩

def featureTexts : List String := [
  "<feature api='gl' number='1.0'>",
  "<require profile='core'>", "<enum name='GL_ONE'></enum>", "<enum name='GL_OLD'></enum>",
  "<command name='f'></command>", "</require>",
  "<remove profile='core'>", "<enum name='GL_OLD'></enum>", "</remove></feature>"]

def wideCharacters : List Char := ([
  "<registry>", "<enums>", "<enum name='GL_OLD' value='7'></enum>",
  "<enum name='GL_ONE' value='2' api='gles1'></enum>",
  "<enum name='GL_OLD' value='8' api='gl'></enum>", "<enum name='GL_ONE' value='1'></enum>",
  "</enums>",
  "<commands>", "<command><proto>", "void <name>g</name>", "</proto></command>",
  "<command><proto>", "void <name>f</name>", "</proto></command>", "</commands>"] ++
  featureTexts ++ ["</registry>"]).flatMap String.toList

def narrowCharacters : List Char := ([
  "<registry>", "<enums>", "<enum name='GL_ONE' value='2' api='gles1'></enum>",
  "<enum name='GL_OLD' value='8' api='gl'></enum>", "<enum name='GL_ONE' value='1'></enum>",
  "</enums>",
  "<commands>", "<command><proto>", "void <name>f</name>", "</proto></command>", "</commands>"] ++
  featureTexts ++ ["</registry>"]).flatMap String.toList

def narrowSpec : Spec where
  versions := [
    { family := "GL", name := "GL10", number := "1.0"
      constants := [{ name := "GL_ONE", value := "1" }]
      commands := [{ name := "f", result := { base := .void, spelling := "void" } }] }]

theorem readDocument_wide : Xml.readDocument (Xml.utf8Bytes wideCharacters) = .ok wideRoot := by
  apply Xml.readDocument_utf8Bytes
  · decide +kernel
  · decide +kernel
  · decide +kernel

theorem readDocument_narrow :
    Xml.readDocument (Xml.utf8Bytes narrowCharacters) = .ok narrowRoot := by
  apply Xml.readDocument_utf8Bytes
  · decide +kernel
  · decide +kernel
  · decide +kernel

theorem load_wide : Spec.load (Xml.utf8Bytes wideCharacters) = .ok narrowSpec :=
  load_of_read readDocument_wide (by decide +kernel)

theorem withoutUnused_narrowRoot : WithoutUnused narrowSpec wideRoot narrowRoot := by
  refine .cons (.group .constant rfl rfl ?_) (.cons (.group .command rfl rfl ?_)
    (List.forall₂_same.2 fun e _ => .same e))
  · exact .drop (by decide +kernel) (.keep _ (.keep _ (.keep _ .nil)))
  · exact .drop (by decide +kernel) (.keep _ .nil)

end Sample

theorem load_withoutUnused_sample :
    Xml.readDocument (Xml.utf8Bytes Sample.wideCharacters) = .ok Sample.wideRoot ∧
      Xml.readDocument (Xml.utf8Bytes Sample.narrowCharacters) = .ok Sample.narrowRoot ∧
      WithoutUnused Sample.narrowSpec Sample.wideRoot Sample.narrowRoot ∧
      Spec.load (Xml.utf8Bytes Sample.wideCharacters) = .ok Sample.narrowSpec ∧
      Spec.load (Xml.utf8Bytes Sample.narrowCharacters) = .ok Sample.narrowSpec :=
  ⟨Sample.readDocument_wide, Sample.readDocument_narrow, Sample.withoutUnused_narrowRoot,
    Sample.load_wide, load_withoutUnused Sample.readDocument_wide Sample.load_wide
      Sample.withoutUnused_narrowRoot Sample.readDocument_narrow⟩

end GLBindings
