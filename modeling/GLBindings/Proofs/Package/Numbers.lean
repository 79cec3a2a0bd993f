/-
# Numbers of versions and their files

A version's file is named by its family and its number, the dots of the number left out.  In a loaded
specification whose numbers are decimal digits around one dot, no file is written twice exactly when
the numbers of a family still differ without their dots (`nodup_writtenPaths_of_load`).  Different
numbers with equally many digits before the dot do; `1.11` and `11.1` do not, and the module of the
first is lost (`writtenPaths_collide`).
-/
import GLBindings.Proofs.Load
import GLBindings.Proofs.Package.Placing

namespace GLBindings

open Bindings (Generator moduleName writtenPaths)
open Registry (Api eligible versionName IsVersionOf)
open Xml (Element)

set_option autoImplicit false

/-! ## Numbers -/

def withoutDots (number : String) : String :=
  String.ofList (number.toList.filter (· != '.'))

/-- The number is decimal digits, a dot and decimal digits. -/
def IsDecimalNumber (number : String) : Prop :=
  ∃ whole part : List Char, number.toList = whole ++ '.' :: part ∧ whole ≠ [] ∧ part ≠ [] ∧
    ∀ c ∈ whole ++ part, Text.isDecimal c = true

def wholeDigits (number : String) : Nat := (number.toList.takeWhile (· != '.')).length

theorem not_mem_of_isDecimal {cs : List Char} (digits : ∀ c ∈ cs, Text.isDecimal c = true)
    {mark : Char} (other : Text.isDecimal mark = false) : mark ∉ cs := by
  intro member
  have digit := digits mark member
  rw [other] at digit
  cases digit

theorem isDecimal_dot : Text.isDecimal '.' = false := by decide +kernel

theorem split_dot {whole : List Char} (digits : ∀ c ∈ whole, Text.isDecimal c = true)
    (part : List Char) :
    (whole ++ '.' :: part).takeWhile (· != '.') = whole ∧
      (whole ++ '.' :: part).dropWhile (· != '.') = '.' :: part := by
  have plain : '.' ∉ whole := not_mem_of_isDecimal digits isDecimal_dot
  exact ⟨takeWhile_bne_append plain part, dropWhile_bne_append plain part⟩

/-- Whether a number is decimal can be told from what comes before its first dot and after it. -/
theorem isDecimalNumber_iff {number : String} :
    IsDecimalNumber number ↔
      number.toList.takeWhile (· != '.') ≠ [] ∧ (number.toList.dropWhile (· != '.')).tail ≠ [] ∧
      (number.toList.takeWhile (· != '.') ++ (number.toList.dropWhile (· != '.')).tail).all
        Text.isDecimal = true := by
  rw [List.all_eq_true]
  constructor
  · rintro ⟨whole, part, written, some, some', digits⟩
    obtain ⟨front, back⟩ := split_dot (List.forall_mem_append.1 digits).1 part
    rw [written, front, back]
    exact ⟨some, some', digits⟩
  · rintro ⟨some, some', digits⟩
    refine ⟨_, _, ?_, some, some', digits⟩
    have split := List.takeWhile_append_dropWhile (p := (· != '.')) (l := number.toList)
    cases rest : number.toList.dropWhile (· != '.') with
    | nil =>
        rw [rest] at some'
        exact absurd rfl some'
    | cons c part =>
        have ends := List.head?_dropWhile_not (· != '.') number.toList
        have dot : c = '.' := by simpa [rest] using ends
        rw [rest, dot] at split
        exact split.symm

instance (number : String) : Decidable (IsDecimalNumber number) :=
  decidable_of_iff _ isDecimalNumber_iff.symm

theorem withoutDots_eq {number : String} {whole part : List Char}
    (written : number.toList = whole ++ '.' :: part)
    (digits : ∀ c ∈ whole ++ part, Text.isDecimal c = true) :
    withoutDots number = String.ofList (whole ++ part) := by
  have plain : (whole ++ part).filter (· != '.') = whole ++ part :=
    List.filter_eq_self.2 (bne_of_not_mem (not_mem_of_isDecimal digits isDecimal_dot))
  rw [withoutDots, written, ← plain, List.filter_append, List.filter_append,
    List.filter_cons_of_neg (by simp)]

/-- Without its dot a number is digits alone. -/
theorem isDecimal_of_mem_withoutDots {number : String} (decimal : IsDecimalNumber number) :
    ∀ c ∈ (withoutDots number).toList, Text.isDecimal c = true := by
  obtain ⟨whole, part, written, -, -, digits⟩ := decimal
  rwa [withoutDots_eq written digits, String.toList_ofList]

/-- Where the dots stand in the same place they may be left out. -/
theorem eq_of_withoutDots {number other : String} (decimal : IsDecimalNumber number)
    (decimal' : IsDecimalNumber other) (even : wholeDigits number = wholeDigits other)
    (same : withoutDots number = withoutDots other) : number = other := by
  obtain ⟨whole, part, written, -, -, digits⟩ := decimal
  obtain ⟨whole', part', written', -, -, digits'⟩ := decimal'
  have length : whole.length = whole'.length := by
    rw [List.forall_mem_append] at digits digits'
    rw [wholeDigits, wholeDigits, written, written', (split_dot digits.1 part).1,
      (split_dot digits'.1 part').1] at even
    exact even
  rw [withoutDots_eq written digits, withoutDots_eq written' digits'] at same
  obtain ⟨front, back⟩ := List.append_inj (String.ofList_injective same) length
  apply String.toList_injective
  rw [written, written', front, back]

/-! ## Modules of numbered versions -/

/-- The version is named as those of a registry are, by a decimal number. -/
structure IsNumbered (v : Version) : Prop where
  family : v.family = "GL" ∨ v.family = "GLES"
  name : v.name = v.family ++ withoutDots v.number
  number : IsDecimalNumber v.number

/-- The module of a numbered version is called after its family and its digits. -/
theorem IsNumbered.moduleName_eq {v : Version} (numbered : IsNumbered v) :
    moduleName v.name = Text.lower v.family ++ withoutDots v.number := by
  have digits := isDecimal_of_mem_withoutDots numbered.number
  rw [numbered.name, moduleName, Text.lower, Text.lower, String.toList_append]
  rcases numbered.family with family | family
  · rw [family]
    apply String.toList_injective
    simp [Text.lowerAfter, Text.lowerChar, Text.lowerAfter_of_isDecimal digits]
  · rw [family]
    apply String.toList_injective
    simp [Text.lowerAfter, Text.lowerChar, Text.lowerAfter_of_isDecimal digits]

theorem IsNumbered.free {v : Version} (numbered : IsNumbered v) :
    moduleName v.name ≠ "interop" ∧ moduleName v.name ≠ "__init__" := by
  have first : ∀ family, family = "GL" ∨ family = "GLES" →
      (Text.lower family).toList.head? = some 'g' := by
    rintro family (rfl | rfl) <;> decide +kernel
  have begins : (moduleName v.name).toList.head? = some 'g' := by
    rw [numbered.moduleName_eq, String.toList_append, List.head?_append,
      first v.family numbered.family]
    rfl
  constructor
  · intro same
    rw [same] at begins
    exact absurd begins (by decide)
  · intro same
    rw [same] at begins
    exact absurd begins (by decide)

theorem IsNumbered.slashless {v : Version} (numbered : IsNumbered v) :
    '/' ∉ v.family.toList ∧ '/' ∉ v.name.toList := by
  have family : '/' ∉ v.family.toList := by
    rcases numbered.family with family | family <;> rw [family] <;> decide
  have number : '/' ∉ (withoutDots v.number).toList :=
    not_mem_of_isDecimal (isDecimal_of_mem_withoutDots numbered.number) (by decide +kernel)
  rw [numbered.name, String.toList_append, List.mem_append, not_or]
  exact ⟨family, family, number⟩

theorem named_of_isNumbered {spec : Spec} (numbered : ∀ v ∈ spec.versions, IsNumbered v) :
    spec.Named where
  families := by
    have known : ∀ family ∈ spec.families, family ∈ ["GL", "GLES"] := by
      intro family member
      obtain ⟨v, inside, rfl⟩ := mem_families_iff.1 member
      rcases (numbered v inside).family with family | family <;> simp [family]
    have apart : ∀ family ∈ ["GL", "GLES"], ∀ other ∈ ["GL", "GLES"],
        Text.lower family = Text.lower other → family = other := by decide +kernel
    refine List.Nodup.map_on ?_ ?_
    · intro family member other member'
      exact apart family (known family member) other (known other member')
    · rw [families_eq]
      exact nodup_eraseDups _
  free v member := (numbered v member).free
  slashless v member := (numbered v member).slashless
  folders v member := by
    rcases (numbered v member).family with family | family <;> rw [family] <;> decide

/-- Things are told apart within each kind when no two of a kind are the same. -/
theorem nodup_map_filter_iff {α : Type} {kind name : α → String} {l : List α} :
    (∀ key, ((l.filter (kind · == key)).map name).Nodup) ↔
      l.Pairwise fun a b => kind a = kind b → name a ≠ name b := by
  simp only [List.Nodup, List.pairwise_map, List.pairwise_filter, beq_iff_eq]
  constructor
  · intro each
    rw [List.pairwise_iff_forall_sublist]
    intro a b pair same
    exact List.pairwise_iff_forall_sublist.1 (each (kind b)) pair same rfl
  · intro apart key
    refine apart.imp ?_
    rintro a b differ rfl same
    exact differ same.symm

/-- Modules are told apart as numbers without dots are. -/
theorem nodup_versionModules_iff {g : Generator}
    (numbered : ∀ v ∈ g.spec.versions, IsNumbered v) :
    (∀ family ∈ g.spec.families, (g.versionModules family).Nodup) ↔
      g.spec.versions.Pairwise fun v w => v.family = w.family →
        withoutDots v.number ≠ withoutDots w.number := by
  have every : (∀ family ∈ g.spec.families, (g.versionModules family).Nodup) ↔
      ∀ family, (g.versionModules family).Nodup := by
    refine ⟨fun each family => ?_, fun each family _ => each family⟩
    by_cases member : family ∈ g.spec.families
    · exact each family member
    · have none : versionsIn g.spec.versions family = [] := by
        rw [versionsIn, List.filter_eq_nil_iff]
        intro v inside own
        exact member (mem_families_iff.2 ⟨v, inside, beq_iff_eq.1 own⟩)
      rw [Generator.versionModules, none]
      exact List.nodup_nil
  rw [every]
  refine nodup_map_filter_iff.trans (List.Pairwise.iff_of_mem ?_)
  intro v w hv hw
  refine imp_congr_right fun same => not_congr ?_
  rw [(numbered v hv).moduleName_eq, (numbered w hw).moduleName_eq, same, String.append_right_inj]

/-! ## Features of a document -/

def familyOf (e : Element) : Option String :=
  ((e.attribute? "api").bind Api.ofName?).map Api.family

/-- The number of a feature, its dots left out. -/
def digitsOf (e : Element) : Option String := (e.attribute? "number").map withoutDots

theorem familyOf_eq {e : Element} {v : Version} (own : IsVersionOf e v) :
    familyOf e = some v.family := by
  obtain ⟨-, ⟨api, family⟩ | ⟨api, family⟩ | ⟨api, family⟩, -⟩ := own <;>
    rw [familyOf, api, family] <;> rfl

theorem digitsOf_eq {e : Element} {v : Version} (own : IsVersionOf e v) :
    digitsOf e = some (withoutDots v.number) := by
  rw [digitsOf, own.1]
  rfl

theorem pairwise_iff_of_forall₂ {α β : Type} {R : α → β → Prop} {S : α → α → Prop}
    {T : β → β → Prop} (same : ∀ a a' b b', R a b → R a' b' → (S a a' ↔ T b b')) {l : List α}
    {l' : List β} (related : List.Forall₂ R l l') : l.Pairwise S ↔ l'.Pairwise T := by
  induction related with
  | nil => simp
  | @cons a b rest rest' first others ih =>
      rw [List.pairwise_cons, List.pairwise_cons, ih]
      refine and_congr_left fun _ => ⟨fun all b' member => ?_, fun all a' member => ?_⟩
      · obtain ⟨a', member', related⟩ := exists_mem_of_forall₂ others member
        exact (same a a' b b' first related).1 (all a' member')
      · obtain ⟨b', member', related⟩ := exists_mem_of_forall₂ others.flip member
        exact (same a a' b b' first related).2 (all b' member')

def HaveDecimalNumbers (features : List Element) : Prop :=
  ∀ e ∈ features, ∃ number ∈ e.attribute? "number", IsDecimalNumber number

instance (features : List Element) : Decidable (HaveDecimalNumbers features) :=
  inferInstanceAs (Decidable (∀ e ∈ features, _))

theorem isNumbered_of_isVersionOf {features : List Element} {versions : List Version}
    (numbered : HaveDecimalNumbers features)
    (related : List.Forall₂ IsVersionOf features versions) : ∀ v ∈ versions, IsNumbered v := by
  intro v member
  obtain ⟨e, inside, own⟩ := exists_mem_of_forall₂ related member
  obtain ⟨number, bears, decimal⟩ := numbered e inside
  obtain rfl : v.number = number := Option.some.inj (own.1.symm.trans bears)
  refine ⟨?_, own.2.2, decimal⟩
  rcases own.2.1 with ⟨-, family⟩ | ⟨-, family⟩ | ⟨-, family⟩
  · exact .inl family
  · exact .inr family
  · exact .inr family

/-- Different numbers with the dot in the same place have different digits. -/
theorem digitsOf_ne {e e' : Element} {number other : String}
    (bears : e.attribute? "number" = some number) (bears' : e'.attribute? "number" = some other)
    (decimal : IsDecimalNumber number) (decimal' : IsDecimalNumber other)
    (differ : e.attribute? "number" ≠ e'.attribute? "number")
    (even : (e.attribute? "number").map wholeDigits = (e'.attribute? "number").map wholeDigits) :
    digitsOf e ≠ digitsOf e' := by
  rw [bears, bears'] at differ even
  rw [digitsOf, digitsOf, bears, bears']
  intro same
  have equal := eq_of_withoutDots decimal decimal' (Option.some.inj even) (Option.some.inj same)
  exact differ (congrArg some equal)

/-- **No file of a loaded specification is written twice exactly when in each family the numbers
differ without their dots**, as different numbers with the dot in the same place do. -/
theorem nodup_writtenPaths_of_load {bytes : List UInt8} {profile : String} {g : Generator}
    {root : Element} (document : Xml.readDocument bytes = .ok root)
    (loaded : Spec.load bytes profile = .ok g.spec)
    (numbered : HaveDecimalNumbers (eligible root)) (output : Files.Path) :
    ((writtenPaths (g.steps output)).Nodup ↔
      (eligible root).Pairwise fun e e' => familyOf e = familyOf e' → digitsOf e ≠ digitsOf e') ∧
    (((eligible root).Pairwise fun e e' => familyOf e = familyOf e' →
        e.attribute? "number" ≠ e'.attribute? "number" ∧
          (e.attribute? "number").map wholeDigits = (e'.attribute? "number").map wholeDigits) →
      (writtenPaths (g.steps output)).Nodup) := by
  obtain ⟨root', registry, document', -, adds⟩ := exists_adds_of_load loaded
  obtain rfl : root = root' := Except.ok.inj (document.symm.trans document')
  have related := adds.forall₂_isVersionOf
  have versions := isNumbered_of_isVersionOf numbered related
  have apart : (writtenPaths (g.steps output)).Nodup ↔
      (eligible root).Pairwise fun e e' => familyOf e = familyOf e' → digitsOf e ≠ digitsOf e' := by
    rw [Generator.nodup_writtenPaths_iff (named_of_isNumbered versions),
      nodup_versionModules_iff versions]
    refine (pairwise_iff_of_forall₂ ?_ related).symm
    intro e e' v v' own own'
    rw [familyOf_eq own, familyOf_eq own', digitsOf_eq own, digitsOf_eq own', Option.some_inj,
      Ne, Option.some_inj]
  -- With the dot in the same place it can be put back into the digits.
  refine ⟨apart, fun even => apart.2 (even.imp_of_mem ?_)⟩
  intro e e' member member' differ same
  obtain ⟨number, bears, decimal⟩ := numbered e member
  obtain ⟨other, bears', decimal'⟩ := numbered e' member'
  exact digitsOf_ne bears bears' decimal decimal' (differ same).1 (differ same).2

/-- Two versions of one family with numbers `1.0` and `2.0` have a file each. -/
theorem nodup_writtenPaths_of_load_sample :
    Spec.load Sample.bytes = .ok Sample.spec ∧ HaveDecimalNumbers (eligible Sample.root) ∧
      (writtenPaths (Generator.steps { spec := Sample.spec } { components := ["out"] })).Nodup := by
  have numbered : HaveDecimalNumbers (eligible Sample.root) := by decide +kernel
  refine ⟨Sample.load_bytes, numbered, ?_⟩
  refine (nodup_writtenPaths_of_load (g := { spec := Sample.spec }) Sample.readDocument_bytes
    Sample.load_bytes numbered { components := ["out"] }).2 ?_
  decide +kernel

/-! ## Numbers that collide -/

namespace Sample

/-- Two versions of one api, with numbers that have the same digits. -/
def collidingRoot : Element := ⟨"registry", [], [
  Registry.Sample.feature "gl" "1.11" [], Registry.Sample.feature "gl" "11.1" []]⟩

def collidingCharacters : List Char := [
  "<registry>", "<feature api='gl' number='1.11'>", "</feature>",
  "<feature api='gl' number='11.1'>", "</feature>", "</registry>"].flatMap String.toList

def collidingBytes : List UInt8 := Xml.utf8Bytes collidingCharacters

def collidingSpec : Spec where
  versions := [
    { family := "GL", name := "GL111", number := "1.11" },
    { family := "GL", name := "GL111", number := "11.1" }]

theorem readDocument_collidingBytes : Xml.readDocument collidingBytes = .ok collidingRoot := by
  apply Xml.readDocument_utf8Bytes
  · decide +kernel
  · decide +kernel
  · decide +kernel

theorem load_collidingBytes : Spec.load collidingBytes = .ok collidingSpec :=
  load_of_read readDocument_collidingBytes (by decide +kernel)

def collidingSteps : List Bindings.Step :=
  Generator.steps { spec := collidingSpec } { components := ["out"] }

end Sample

/-- The numbers `1.11` and `11.1` are different, and the two versions go to one file. -/
theorem writtenPaths_collide :
    Xml.readDocument Sample.collidingBytes = .ok Sample.collidingRoot ∧
    Spec.load Sample.collidingBytes = .ok Sample.collidingSpec ∧
    HaveDecimalNumbers (eligible Sample.collidingRoot) ∧
    (eligible Sample.collidingRoot).Pairwise (fun e e' => familyOf e = familyOf e' →
      e.attribute? "number" ≠ e'.attribute? "number") ∧
    (Bindings.takeSteps {} Sample.collidingSteps).2 = none ∧
    ¬ (writtenPaths Sample.collidingSteps).Nodup := by
  refine ⟨Sample.readDocument_collidingBytes, Sample.load_collidingBytes, ?_, ?_, ?_, ?_⟩
  · decide +kernel
  · decide +kernel
  · decide +kernel
  · decide +kernel

end GLBindings
