/-
# Bound names

The types in a generated module go by names that the module has bound: by its import line, or by
one of its alias lines.  Both are read back here from the text of the lines (`importedBy`,
`aliasIn?`), and neither kind of line loses or invents a name (`names_of_ctypesImports`,
`names_of_typeAliases`).  `bindsTypes` says that together they bind every type name that a
module writes down, and that the import line binds nothing that is not needed.
-/
import GLBindings.Proofs.Bindings.AliasLines

namespace GLBindings.Bindings

set_option autoImplicit false

/-! ## Reading lines back -/

def importedBy (line : String) : List String :=
  match line.toList.dropPrefix? "from ctypes import ".toList with
  | none => []
  | some names => (names.splitOn ',').map fun name => String.ofList (name.dropWhile (· == ' '))

/-- The name that a line declares to be a pointer, if it is an alias line. -/
def aliasIn? (line : String) : Option String :=
  if (" = " ++ pointerCtype).toList.isPrefixOf (line.toList.dropWhile (· != ' ')) then
    some (String.ofList (line.toList.takeWhile (· != ' ')))
  else none

/-! ## The import line -/

/-- A name that can stand in a list of names. -/
def IsListable (name : List Char) : Prop := ',' ∉ name ∧ name.head? ≠ some ' '

instance (name : List Char) : Decidable (IsListable name) := inferInstanceAs (Decidable (_ ∧ _))

/-- A comma and a blank between names are a comma between names of which all but the first have a
blank in front. -/
theorem intercalate_comma_blank (first : List Char) (others : List (List Char)) :
    [',', ' '].intercalate (first :: others) =
      [','].intercalate (first :: others.map (' ' :: ·)) := by
  induction others generalizing first with
  | nil => rfl
  | cons second others ih =>
      rw [List.intercalate_cons_cons, ih, List.map_cons, List.intercalate_cons_cons]
      cases others with
      | nil => simp
      | cons third others => simp

theorem dropWhile_blank {name : List Char} (listable : IsListable name) :
    name.dropWhile (· == ' ') = name := by
  cases name with
  | nil => rfl
  | cons c rest =>
      rw [List.dropWhile_cons_of_neg]
      intro blank
      exact listable.2 (congrArg some (by simpa using blank))

/-- The names on an import line are read back from it. -/
theorem importedBy_line {names : List String} (some : names ≠ [])
    (listable : ∀ name ∈ names, IsListable name.toList) :
    importedBy ("from ctypes import " ++ ", ".intercalate names) = names := by
  cases names with
  | nil => exact absurd rfl some
  | cons first others =>
      rw [List.forall_mem_cons] at listable
      have written : ("from ctypes import " ++ ", ".intercalate (first :: others)).toList =
          "from ctypes import ".toList ++
            [','].intercalate (first.toList :: (others.map String.toList).map (' ' :: ·)) := by
        rw [String.toList_append, String.toList_intercalate, List.map_cons,
          ← intercalate_comma_blank]
        rfl
      have whole : ∀ name ∈ first.toList :: (others.map String.toList).map (' ' :: ·),
          ',' ∉ name := by
        rw [List.forall_mem_cons]
        refine ⟨listable.1.1, ?_⟩
        simp only [List.mem_map]
        rintro _ ⟨_, ⟨name, member, rfl⟩, rfl⟩ comma
        rcases List.mem_cons.1 comma with blank | inside
        · exact absurd blank (by decide)
        · exact (listable.2 name member).1 inside
      have front : ("from ctypes import " ++ ", ".intercalate (first :: others)).toList.dropPrefix?
          "from ctypes import ".toList =
            Option.some ([','].intercalate
              (first.toList :: (others.map String.toList).map (' ' :: ·))) := by
        rw [List.dropPrefix?_eq_some_iff]
        exact ⟨_, written, beq_self_eq_true _⟩
      rw [importedBy, front]
      dsimp only
      rw [List.splitOn_intercalate ',' whole (List.cons_ne_nil _ _), List.map_cons,
        dropWhile_blank listable.1, String.ofList_toList, List.map_map, List.map_map]
      have each : ∀ name ∈ others,
          String.ofList ((' ' :: name.toList).dropWhile (· == ' ')) = name := by
        intro name member
        rw [List.dropWhile_cons_of_pos (by simp), dropWhile_blank (listable.2 name member),
          String.ofList_toList]
      exact congrArg (first :: ·) ((List.map_congr_left each).trans (List.map_id others))

theorem isListable_of_mem_importable :
    ∀ name ∈ "CFUNCTYPE" :: knownCtypes, IsListable name.toList := by
  decide

/-- What ctypes is asked for: the known classes of the mentioned types, and the class of pointers if
there are aliases. -/
theorem mem_importedCtypes_iff {commands : List Command} {name : String} :
    name ∈ importedCtypes commands ↔
      (∃ t ∈ mentionedTypes commands, ctype t = name ∧ name ∈ knownCtypes) ∨
        (aliasKeywords commands ≠ [] ∧ name = pointerCtype) := by
  rw [importedCtypes, mem_sortedNames_iff, List.mem_append]
  apply or_congr
  · rw [List.mem_filter, List.mem_map]
    simp only [List.contains_eq_mem, decide_eq_true_eq]
    constructor
    · rintro ⟨⟨t, mentioned, named⟩, known⟩
      exact ⟨t, mentioned, named, known⟩
    · rintro ⟨t, mentioned, named, known⟩
      exact ⟨⟨t, mentioned, named⟩, known⟩
  · split
    · rename_i none
      simp [none]
    · rename_i some
      simp [some]

theorem knownCtypes_of_mem_importedCtypes {commands : List Command} {name : String}
    (imported : name ∈ importedCtypes commands) : name ∈ knownCtypes := by
  rcases mem_importedCtypes_iff.1 imported with ⟨_, _, _, known⟩ | ⟨-, rfl⟩
  · exact known
  · decide

/-- The import line names exactly what a module imports. -/
theorem names_of_ctypesImports (commands : List Command) (prototypes : Bool) :
    (ctypesImports commands prototypes).flatMap importedBy = importedNames commands prototypes := by
  rw [ctypesImports]
  cases needed : importedNames commands prototypes with
  | nil => rfl
  | cons first others =>
      dsimp only
      rw [List.flatMap_singleton, importedBy_line (List.cons_ne_nil _ _)]
      rw [← needed]
      intro name member
      apply isListable_of_mem_importable
      rw [importedNames, List.mem_append] at member
      rcases member with prototype | ctype
      · cases prototypes with
        | true =>
            obtain rfl := List.mem_singleton.1 prototype
            exact List.mem_cons_self
        | false => cases prototype
      · exact List.mem_cons_of_mem _ (knownCtypes_of_mem_importedCtypes ctype)

/-! ## The alias lines -/

/-- An alias line is told from all others, and its name is read back. -/
theorem aliasIn?_aliasLine (keyword : String) :
    aliasIn? (aliasLine keyword) = some (aliasName keyword) := by
  have plain : ∀ c ∈ (aliasName keyword).toList, (c != ' ') = true := by
    intro c member
    rw [bne_iff_ne]
    rintro rfl
    have word := isWord_of_mem_aliasName keyword _ member
    rw [isWord_space] at word
    cases word
  have value : ∃ note, (aliasValue keyword).toList = (" = " ++ pointerCtype).toList ++ note := by
    rw [aliasValue, String.toList_append]
    exact ⟨_, rfl⟩
  obtain ⟨note, value⟩ := value
  have blank : (aliasValue keyword).toList = ' ' :: (aliasValue keyword).toList.tail := by
    rw [value]
    rfl
  have name : (aliasLine keyword).toList.takeWhile (· != ' ') = (aliasName keyword).toList := by
    rw [aliasLine_eq, String.toList_append, List.takeWhile_append_of_pos plain, blank,
      List.takeWhile_cons_of_neg (by simp), List.append_nil]
  have rest : (aliasLine keyword).toList.dropWhile (· != ' ') = (aliasValue keyword).toList := by
    rw [aliasLine_eq, String.toList_append, List.dropWhile_append_of_pos plain, blank,
      List.dropWhile_cons_of_neg (by simp)]
  rw [aliasIn?, name, rest, value, if_pos, String.ofList_toList]
  rw [List.isPrefixOf_iff_prefix]
  exact List.prefix_append _ _

/-- The alias lines declare exactly the aliases that a module needs. -/
theorem names_of_typeAliases (commands : List Command) :
    (typeAliases commands).filterMap aliasIn? = (aliasKeywords commands).map aliasName := by
  have each : ∀ keywords : List String,
      (keywords.map aliasLine).filterMap aliasIn? = keywords.map aliasName := by
    intro keywords
    induction keywords with
    | nil => rfl
    | cons keyword others ih =>
        rw [List.map_cons, List.filterMap_cons_some (aliasIn?_aliasLine keyword), ih, List.map_cons]
  rw [typeAliases]
  cases aliasKeywords commands with
  | nil => rfl
  | cons first others =>
      dsimp only
      have heading : ["", "", "# Opaque types"].filterMap aliasIn? = [] := by decide
      rw [List.filterMap_append, heading, List.nil_append, each]

/-! ## Type names -/

/-- Every base type that is recognized goes by a name of ctypes, or by `None`. -/
theorem known_of_baseCtype {base : BaseType} {name : String} (named : baseCtype base = some name) :
    name ∈ knownCtypes ∨ name = "None" := by
  cases base <;> cases named <;> decide

theorem baseCtype_eq_none_iff {base : BaseType} : baseCtype base = none ↔ base = .unrecognized := by
  cases base <;> simp [baseCtype]

/-- A type that ctypes does not know is an unrecognized keyword. -/
theorem base_of_ctype {t : TypeRef} (unknown : ctype t ∉ knownCtypes) (some : ctype t ≠ "None") :
    t.base = .unrecognized := by
  rw [ctype] at unknown some
  split at unknown
  · rename_i plain
    rw [if_pos plain] at some
    cases named : baseCtype t.base with
    | none => exact baseCtype_eq_none_iff.1 named
    | some name =>
        rw [named, Option.getD_some] at unknown some
        exact absurd (known_of_baseCtype named) (not_or.2 ⟨unknown, some⟩)
  · exact absurd (by decide) unknown

/-- What ctypes knows goes by its own name. -/
theorem ctypeName_of_known {t : TypeRef} (known : ctype t ∈ knownCtypes) :
    ctypeName t = ctype t :=
  if_pos (.inl known)

/-- What ctypes does not know goes by its alias, unless it is no value at all. -/
theorem ctypeName_eq {t : TypeRef} (unknown : ctype t ∉ knownCtypes) (some : ctype t ≠ "None") :
    ctypeName t = aliasName (ctype t) :=
  if_neg (not_or.2 ⟨unknown, some⟩)

theorem mem_mentionedTypes_iff {commands : List Command} {t : TypeRef} :
    t ∈ mentionedTypes commands ↔ ∃ c ∈ commands, t ∈ c.types :=
  List.mem_flatMap

/-- A type that a module mentions goes by a name that it imports, by an alias, or by `None`. -/
theorem ctypeName_bound {commands : List Command} {t : TypeRef}
    (mentioned : t ∈ mentionedTypes commands) :
    ctypeName t ∈ importedCtypes commands ∨
      ctypeName t ∈ (aliasKeywords commands).map aliasName ∨ ctypeName t = "None" := by
  by_cases known : ctype t ∈ knownCtypes
  · left
    rw [ctypeName_of_known known, mem_importedCtypes_iff]
    exact .inl ⟨t, mentioned, rfl, known⟩
  · right
    by_cases none : ctype t = "None"
    · right
      exact (if_pos (.inr none)).trans none
    · left
      rw [ctypeName_eq known none]
      apply List.mem_map_of_mem
      rw [mem_aliasKeywords_iff, unrecognizedNames, List.mem_map]
      refine ⟨⟨t, List.mem_filter.2 ⟨mentioned, ?_⟩, rfl⟩, known⟩
      rw [base_of_ctype known none]
      rfl

/-- What a module imports and the aliases it declares are what its commands' types need. -/
structure BindsTypes (commands : List Command) (prototypes : Bool)
    (imported aliases : List String) : Prop where
  /-- Every type goes by a bound name, or has no values. -/
  bound : ∀ c ∈ commands, ∀ t ∈ c.types,
    ctypeName t ∈ imported ∨ ctypeName t ∈ aliases ∨ ctypeName t = "None"
  /-- The name that aliases are declared with is bound. -/
  pointer : aliases ≠ [] → "c_void_p" ∈ imported
  /-- Nothing is imported in vain. -/
  needed : ∀ name ∈ imported, name = "CFUNCTYPE" ∨
    (∃ c ∈ commands, ∃ t ∈ c.types, ctypeName t = name) ∨ (name = "c_void_p" ∧ aliases ≠ [])
  /-- The maker of prototypes comes first, and only where it is wanted; the rest is sorted. -/
  listed : ∃ classes, imported = (if prototypes then ["CFUNCTYPE"] else []) ++ classes ∧
    "CFUNCTYPE" ∉ classes ∧ classes.Pairwise (· < ·)

/-- **Every type name that a module writes down is bound, and it imports no other.** -/
theorem bindsTypes (commands : List Command) (prototypes : Bool) :
    BindsTypes commands prototypes ((ctypesImports commands prototypes).flatMap importedBy)
      ((typeAliases commands).filterMap aliasIn?) := by
  rw [names_of_ctypesImports, names_of_typeAliases]
  refine ⟨?_, ?_, ?_, ?_⟩
  · intro c hc t ht
    have mentioned := mem_mentionedTypes_iff.2 ⟨c, hc, ht⟩
    rw [importedNames, List.mem_append]
    rcases ctypeName_bound mentioned with imported | declared | none
    · exact .inl (.inr imported)
    · exact .inr (.inl declared)
    · exact .inr (.inr none)
  · intro some
    rw [importedNames, List.mem_append, mem_importedCtypes_iff]
    exact .inr (.inr ⟨fun none => some (by rw [none]; rfl), rfl⟩)
  · intro name imported
    rw [importedNames, List.mem_append] at imported
    rcases imported with prototype | imported
    · left
      split at prototype
      · exact List.mem_singleton.1 prototype
      · cases prototype
    · right
      rcases mem_importedCtypes_iff.1 imported with ⟨t, mentioned, rfl, known⟩ | ⟨some, rfl⟩
      · left
        obtain ⟨c, hc, ht⟩ := mem_mentionedTypes_iff.1 mentioned
        exact ⟨c, hc, t, ht, ctypeName_of_known known⟩
      · right
        refine ⟨rfl, ?_⟩
        rwa [Ne, List.map_eq_nil_iff]
  · refine ⟨importedCtypes commands, rfl, ?_, ascending_sortedNames _⟩
    intro imported
    exact absurd (knownCtypes_of_mem_importedCtypes imported) (by decide)

end GLBindings.Bindings
