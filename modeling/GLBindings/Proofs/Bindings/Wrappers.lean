/-
# Wrappers

A command shows its types twice: in its prototype, and in the annotations of the method that calls
it.  Whatever the types are spelled like, the two are the same list of words, and the method
returns something exactly where its annotation says so (`annotations_of_wrapper`).  The method
names its parameters twice as well, where it takes them and where it passes them on; these are the
same names in the same order, and they are different from each other and from `self` unless the
registry repeats a name, uses `self`, or has both a reserved word and the same word with an
underscore (`distinct_parameterNames_iff`).

Both are said of the text of the method.  A name that holds a comma, or a command with a
parenthesis in its name, leaves no way to tell from a line alone where names begin and end
(`IsLegible`), so the lines are also given as they are written from lists of names
(`signatureLine`, `callLine`).
-/
import GLBindings.Bindings.Module
import GLBindings.Proofs.Bindings.Names
import GLBindings.Proofs.Text.Listing

namespace GLBindings.Bindings

set_option autoImplicit false

/-! ## Lines of a method -/

def signatureEntry (parameter : String × String) : String := parameter.1 ++ ": " ++ parameter.2

/-- The line that opens a method, with its parameters after `self`. -/
def signatureLine (name : String) (parameters : List (String × String)) (result : String) :
    String :=
  "    def " ++ name ++ "(" ++ commaSeparated ("self" :: parameters.map signatureEntry) ++ ") -> " ++
    result ++ ":"

/-- The line that passes arguments on to the slot of a command. -/
def callLine (name : String) (arguments : List String) (returns : Bool) : String :=
  "        " ++ (if returns then "return " else "") ++ "self._slots[" ++ inQuotes name ++
    "].pointer(" ++ commaSeparated arguments ++ ")"

def parameterNames (c : Command) : List String := c.parameters.map fun p => unreserved p.name

def parameterTypes (c : Command) : List String := c.parameters.map fun p => ctypeName p.type

/-- A wrapper is an empty line, its signature and its call. -/
theorem wrapper_eq (c : Command) :
    wrapper c = ["",
      signatureLine c.name ((parameterNames c).zip (parameterTypes c)) (ctypeName c.result),
      callLine c.name (parameterNames c) (!isVoid c.result)] := by
  have entries : ((parameterNames c).zip (parameterTypes c)).map signatureEntry =
      c.parameters.map annotated := by
    rw [parameterNames, parameterTypes, List.zip_map', List.map_map]
    rfl
  rw [wrapper, signatureLine, callLine, entries, parameterNames]
  cases isVoid c.result <;> rfl

/-! ## Reading lines back -/

/-- The name in an entry of a signature: what stands before the last colon, if there is one. -/
def nameIn (entry : String) : String :=
  match entry.toList.reverse.dropWhile (· != ':') with
  | [] => entry
  | _ :: front => String.ofList front.reverse

/-- The annotation in an entry of a signature: what stands after the last colon and a blank. -/
def annotationIn (entry : String) : String :=
  String.ofList ((entry.toList.reverse.takeWhile (· != ':')).reverse.drop 1)

def namesIn (signature : String) : List String :=
  (listedIn (enclosedIn '(' ')' signature)).map nameIn

/-- The annotations of the parameters after `self`. -/
def annotationsIn (signature : String) : List String :=
  ((listedIn (enclosedIn '(' ')' signature)).drop 1).map annotationIn

/-- The annotation of a method's result: what stands between the last arrow and the colon at the
end. -/
def resultIn (signature : String) : String :=
  String.ofList ((signature.toList.reverse.tail.takeWhile (· != '>')).reverse.drop 1)

/-- The arguments in a call; an empty list of arguments is an empty text. -/
def argumentsIn (call : String) : List String :=
  if enclosedIn '(' ')' call = "" then [] else listedIn (enclosedIn '(' ')' call)

/-- The text after the last of a mark, if the text holds none itself. -/
theorem takeWhile_reverse_append {mark : Char} {back : List Char} (absent : mark ∉ back)
    (front : List Char) :
    ((front ++ mark :: back).reverse.takeWhile (· != mark)).reverse = back := by
  have backwards : (front ++ mark :: back).reverse = back.reverse ++ mark :: front.reverse := by
    simp
  rw [backwards, takeWhile_bne_append (by rwa [List.mem_reverse]), List.reverse_reverse]

section

variable {name annotation : String}

theorem toList_signatureEntry (name annotation : String) :
    (signatureEntry (name, annotation)).toList = name.toList ++ ':' :: ' ' :: annotation.toList := by
  simp [signatureEntry, String.toList_append]

/-- A name is read back from its entry unless a colon stands in the annotation. -/
theorem nameIn_signatureEntry (plain : ':' ∉ annotation.toList) :
    nameIn (signatureEntry (name, annotation)) = name := by
  have absent : ':' ∉ (' ' :: annotation.toList).reverse := by simpa using plain
  have backwards : (signatureEntry (name, annotation)).toList.reverse =
      (' ' :: annotation.toList).reverse ++ ':' :: name.toList.reverse := by
    rw [toList_signatureEntry]
    simp
  rw [nameIn, backwards, dropWhile_bne_append absent]
  simp

theorem annotationIn_signatureEntry (plain : ':' ∉ annotation.toList) :
    annotationIn (signatureEntry (name, annotation)) = annotation := by
  rw [annotationIn, toList_signatureEntry, takeWhile_reverse_append (by simpa using plain),
    List.drop_one, List.tail_cons, String.ofList_toList]

theorem nameIn_self : nameIn "self" = "self" := by simp [nameIn]

end

/-- Names stand in no way of reading them: each is there and holds no comma. -/
def AreListable (names : List String) : Prop := ∀ name ∈ names, name ≠ "" ∧ ',' ∉ name.toList

section

variable {name result : String} {parameters : List (String × String)}

theorem resultIn_signatureLine (plain : '>' ∉ result.toList) :
    resultIn (signatureLine name parameters result) = result := by
  have written : (signatureLine name parameters result).toList =
      ("    def " ++ name ++ "(" ++
        commaSeparated ("self" :: parameters.map signatureEntry) ++ ") -").toList ++
      '>' :: ' ' :: result.toList ++ [':'] := by
    simp [signatureLine, String.toList_append]
  have backwards : (signatureLine name parameters result).toList.reverse.tail =
      (("    def " ++ name ++ "(" ++
        commaSeparated ("self" :: parameters.map signatureEntry) ++ ") -").toList ++
      '>' :: (' ' :: result.toList)).reverse := by
    rw [written]
    simp
  rw [resultIn, backwards, takeWhile_reverse_append (by simpa using plain), List.drop_one,
    List.tail_cons, String.ofList_toList]

/-- The entries of a signature, where neither names nor types get in the way. -/
theorem listedIn_signatureLine (opens : '(' ∉ name.toList) (closes : ')' ∉ result.toList)
    (names : AreListable (parameters.map Prod.fst))
    (types : ∀ annotation ∈ parameters.map Prod.snd, ',' ∉ annotation.toList) :
    listedIn (enclosedIn '(' ')' (signatureLine name parameters result)) =
      "self" :: parameters.map signatureEntry := by
  have written : (signatureLine name parameters result).toList =
      ("    def " ++ name).toList ++
      '(' :: ((commaSeparated ("self" :: parameters.map signatureEntry)).toList ++
        ')' :: (" -> " ++ result ++ ":").toList) := by
    simp [signatureLine, String.toList_append]
  have before : '(' ∉ ("    def " ++ name).toList := by
    simpa [String.toList_append] using opens
  have after : ')' ∉ (" -> " ++ result ++ ":").toList := by
    simpa [String.toList_append] using closes
  rw [enclosedIn_eq written before after, String.ofList_toList]
  refine listedIn_intercalate (List.cons_ne_nil _ _) ?_
  rw [List.forall_mem_cons, List.forall_mem_map]
  refine ⟨by decide, ?_⟩
  rintro ⟨parameter, annotation⟩ member
  have listable := (names _ (List.mem_map_of_mem member)).2
  have plain := types _ (List.mem_map_of_mem member)
  rw [toList_signatureEntry]
  simpa using ⟨listable, plain⟩

/-- Arguments are read back from a call unless a bracket stands in the method's name. -/
theorem argumentsIn_callLine {arguments : List String} {returns : Bool}
    (opens : '(' ∉ name.toList) (listable : AreListable arguments) :
    argumentsIn (callLine name arguments returns) = arguments := by
  have written : (callLine name arguments returns).toList =
      ("        " ++ (if returns then "return " else "") ++ "self._slots[" ++ inQuotes name ++
        "].pointer").toList ++ '(' :: ((commaSeparated arguments).toList ++ ')' :: []) := by
    simp [callLine, String.toList_append]
  have before : '(' ∉ ("        " ++ (if returns then "return " else "") ++ "self._slots[" ++
      inQuotes name ++ "].pointer").toList := by
    cases returns <;> simpa [inQuotes, String.toList_append] using opens
  have inside : enclosedIn '(' ')' (callLine name arguments returns) =
      commaSeparated arguments := by
    rw [enclosedIn_eq written before List.not_mem_nil, String.ofList_toList]
  rw [argumentsIn, inside]
  by_cases none : arguments = []
  · rw [none]
    rfl
  · have shown : commaSeparated arguments ≠ "" :=
      intercalate_ne_empty none fun argument member => (listable argument member).1
    rw [if_neg shown]
    exact listedIn_intercalate none fun argument member => (listable argument member).2

end

/-! ## Prototypes -/

/-- The types in the prototype of a command, its result first, are those that it is written from. -/
theorem listedIn_prototype (c : Command) :
    listedIn (enclosedIn '(' ')' (prototype c)) = ctypeName c.result :: parameterTypes c := by
  have types : c.types.map ctypeName = ctypeName c.result :: parameterTypes c := by
    simp [Command.types, parameterTypes]
  have written : (prototype c).toList = "CFUNCTYPE".toList ++
      '(' :: ((", ".intercalate (c.types.map ctypeName)).toList ++ ')' :: []) := by
    simp [prototype, String.toList_append]
  rw [enclosedIn_eq written (by decide) List.not_mem_nil, String.ofList_toList, types]
  refine listedIn_intercalate (List.cons_ne_nil _ _) ?_
  rw [← types, List.forall_mem_map]
  intro t _
  exact not_mem_ctypeName (by decide) t

/-! ## Names of parameters -/

/-- The names in a command can be told from the text around them. -/
structure IsLegible (c : Command) : Prop where
  name : '(' ∉ c.name.toList
  parameters : AreListable (c.parameters.map Parameter.name)

theorem AreListable.unreserved {names : List String} (listable : AreListable names) :
    AreListable (names.map unreserved) := by
  rw [AreListable, List.forall_mem_map]
  intro name member
  obtain ⟨some, whole⟩ := listable name member
  rw [Bindings.unreserved]
  split
  · refine ⟨?_, by simpa [String.toList_append] using whole⟩
    intro none
    have := congrArg String.toList none
    simp [String.toList_append] at this
  · exact ⟨some, whole⟩

theorem map_unreserved (c : Command) :
    (c.parameters.map Parameter.name).map unreserved = parameterNames c := by
  rw [parameterNames, List.map_map]
  rfl

theorem length_parameterTypes (c : Command) :
    (parameterTypes c).length = (parameterNames c).length := by
  rw [parameterTypes, parameterNames, List.length_map, List.length_map]

/-- The signature of a legible command lists `self` and then the parameters. -/
theorem listedIn_signature {c : Command} (legible : IsLegible c) :
    listedIn (enclosedIn '(' ')' (signatureLine c.name
        ((parameterNames c).zip (parameterTypes c)) (ctypeName c.result))) =
      "self" :: ((parameterNames c).zip (parameterTypes c)).map signatureEntry := by
  apply listedIn_signatureLine legible.name (not_mem_ctypeName (by decide) _)
  · rw [List.map_fst_zip (length_parameterTypes c).ge, ← map_unreserved]
    exact legible.parameters.unreserved
  · rw [List.map_snd_zip (length_parameterTypes c).le, parameterTypes, List.forall_mem_map]
    intro p _
    exact not_mem_ctypeName (by decide) p.type

/-- No entry of a signature has another colon behind its name. -/
theorem colon_not_mem_of_mem_zip {c : Command} {entry : String × String}
    (member : entry ∈ (parameterNames c).zip (parameterTypes c)) : ':' ∉ entry.2.toList := by
  obtain ⟨p, -, same⟩ := List.mem_map.1 (List.of_mem_zip member).2
  rw [← same]
  exact not_mem_ctypeName (by decide) p.type

theorem namesIn_signature {c : Command} (legible : IsLegible c) :
    namesIn (signatureLine c.name ((parameterNames c).zip (parameterTypes c))
      (ctypeName c.result)) = "self" :: parameterNames c := by
  have each : ∀ entry ∈ (parameterNames c).zip (parameterTypes c),
      nameIn (signatureEntry entry) = entry.1 :=
    fun _ member => nameIn_signatureEntry (colon_not_mem_of_mem_zip member)
  rw [namesIn, listedIn_signature legible, List.map_cons, nameIn_self, List.map_map]
  refine congrArg ("self" :: ·) ((List.map_congr_left each).trans ?_)
  exact List.map_fst_zip (length_parameterTypes c).ge

theorem annotationsIn_signature {c : Command} (legible : IsLegible c) :
    annotationsIn (signatureLine c.name ((parameterNames c).zip (parameterTypes c))
      (ctypeName c.result)) = parameterTypes c := by
  have each : ∀ entry ∈ (parameterNames c).zip (parameterTypes c),
      annotationIn (signatureEntry entry) = entry.2 :=
    fun _ member => annotationIn_signatureEntry (colon_not_mem_of_mem_zip member)
  rw [annotationsIn, listedIn_signature legible, List.drop_one, List.tail_cons, List.map_map]
  refine (List.map_congr_left each).trans ?_
  exact List.map_snd_zip (length_parameterTypes c).le

/-- A call begins with `return` exactly where it returns something. -/
theorem return_prefix_iff {name : String} {arguments : List String} {returns : Bool} :
    "        return ".toList <+: (callLine name arguments returns).toList ↔ returns = true := by
  have begins : "        return ".toList = "        ".toList ++ "return ".toList := by simp
  cases returns with
  | true =>
      refine iff_of_true ?_ rfl
      simp only [callLine, String.toList_append, List.append_assoc, begins, if_true]
      exact (List.prefix_append_right_inj _).2 (List.prefix_append _ _)
  | false =>
      refine iff_of_false ?_ (by decide)
      simp only [callLine, String.toList_append, List.append_assoc, begins,
        List.prefix_append_right_inj]
      simp

/-! ## Main results -/

namespace Sample

/-- A command whose types are spelled like code, and whose names differ by an underscore only. -/
def awkward : Command where
  name := "glAwkward"
  result := { base := .unrecognized, spelling := "None" }
  parameters := [
    { type := { base := .unrecognized, spelling := "a, b) -> c:" }, name := "in" },
    { type := { base := .unrecognized, spelling := "def" }, name := "in_" },
    { type := { base := .uint32, shape := .pointer, spelling := "GLuint" }, name := "self_" }]

theorem isLegible_awkward : IsLegible awkward where
  name := by decide
  parameters := by simp [AreListable, awkward]

end Sample

/-- **The prototype of a command and its wrapper show the same types, each a single word, and the
wrapper returns something exactly where there is something to return.** -/
theorem annotations_of_wrapper (c : Command) :
    ∃ result annotations signature call,
      listedIn (enclosedIn '(' ')' (prototype c)) = result :: annotations ∧
      annotations.length = c.parameters.length ∧
      (∀ part ∈ result :: annotations, ∀ ch ∈ part.toList, Text.isWord ch = true) ∧
      wrapper c = ["", signature, call] ∧
      signature = signatureLine c.name ((parameterNames c).zip annotations) result ∧
      resultIn signature = result ∧
      (IsLegible c → annotationsIn signature = annotations) ∧
      ("        return ".toList <+: call.toList ↔ result ≠ "None") := by
  refine ⟨ctypeName c.result, parameterTypes c, _, _, listedIn_prototype c, ?_, ?_, wrapper_eq c,
    rfl, ?_, annotationsIn_signature, ?_⟩
  · rw [parameterTypes, List.length_map]
  · rw [List.forall_mem_cons, parameterTypes, List.forall_mem_map]
    exact ⟨isWord_of_mem_ctypeName _, fun p _ => isWord_of_mem_ctypeName p.type⟩
  · exact resultIn_signatureLine (not_mem_ctypeName (by decide) _)
  · rw [return_prefix_iff, Ne, ctypeName_eq_none_iff, Bool.not_eq_true', Bool.not_eq_true]

theorem annotations_of_wrapper_sample :
    IsLegible Sample.awkward ∧ ∃ signature call,
      wrapper Sample.awkward = ["", signature, call] ∧
      annotationsIn signature = ["a_b_c_", "def_", "c_void_p"] ∧
      resultIn signature = "None" ∧ ¬ "        return ".toList <+: call.toList := by
  have types : listedIn (enclosedIn '(' ')' (prototype Sample.awkward)) =
      ["None", "a_b_c_", "def_", "c_void_p"] := by decide +kernel
  obtain ⟨result, annotations, signature, call, shown, -, -, lines, -, answer, read, returns⟩ :=
    annotations_of_wrapper Sample.awkward
  rw [types] at shown
  obtain ⟨rfl, rfl⟩ := List.cons.inj shown
  exact ⟨Sample.isLegible_awkward, signature, call, lines, read Sample.isLegible_awkward, answer,
    fun begins => returns.1 begins rfl⟩

/-- **A wrapper takes and passes the same names, none of them reserved; they are different from
each other and from `self` exactly where the registry's names are and no reserved word stands
beside its own name with an underscore.** -/
theorem distinct_parameterNames_iff (c : Command) :
    ∃ signature call,
      wrapper c = ["", signature, call] ∧
      signature = signatureLine c.name ((parameterNames c).zip (parameterTypes c))
        (ctypeName c.result) ∧
      call = callLine c.name (parameterNames c) (!isVoid c.result) ∧
      (IsLegible c → namesIn signature = "self" :: parameterNames c ∧
        argumentsIn call = parameterNames c) ∧
      (∀ name ∈ parameterNames c, name ∉ reservedWords) ∧
      (("self" :: parameterNames c).Nodup ↔
        (c.parameters.map Parameter.name).Nodup ∧
        "self" ∉ c.parameters.map Parameter.name ∧
        ∀ k ∈ reservedWords, ¬ (k ∈ c.parameters.map Parameter.name ∧
          k ++ "_" ∈ c.parameters.map Parameter.name)) := by
  refine ⟨_, _, wrapper_eq c, rfl, rfl, ?_, ?_, ?_⟩
  · intro legible
    refine ⟨namesIn_signature legible, argumentsIn_callLine legible.name ?_⟩
    rw [← map_unreserved]
    exact legible.parameters.unreserved
  · rw [← map_unreserved, List.forall_mem_map]
    exact fun name _ => unreserved_not_mem_reservedWords name
  · have self : "self" ∈ parameterNames c ↔ "self" ∈ c.parameters.map Parameter.name := by
      have own : ∀ name, unreserved name = "self" ↔ name = "self" :=
        fun name => unreserved_eq_iff (by decide) (by decide)
      rw [← map_unreserved, List.mem_map]
      simp only [own, exists_eq_right]
    rw [List.nodup_cons, self, ← map_unreserved, nodup_map_unreserved_iff]
    tauto

theorem distinct_parameterNames_iff_sample :
    IsLegible Sample.awkward ∧ (Sample.awkward.parameters.map Parameter.name).Nodup ∧
      ∃ signature call, wrapper Sample.awkward = ["", signature, call] ∧
        namesIn signature = ["self", "in_", "in_", "self_"] ∧
        argumentsIn call = ["in_", "in_", "self_"] ∧ ¬ (namesIn signature).Nodup := by
  obtain ⟨signature, call, lines, -, -, read, -, distinct⟩ :=
    distinct_parameterNames_iff Sample.awkward
  obtain ⟨names, arguments⟩ := read Sample.isLegible_awkward
  refine ⟨Sample.isLegible_awkward, by decide, signature, call, lines, names, arguments, ?_⟩
  rw [names, distinct]
  rintro ⟨-, -, clashless⟩
  exact clashless "in" (by decide) (by decide)

end GLBindings.Bindings
