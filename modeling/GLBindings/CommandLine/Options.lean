/-
# Options

The options of the command line and how arguments are read.  A long option may be shortened as long
as it stays the only one that begins so, its value follows as the next argument or after `=`, and the
last one given counts.  Arguments that are neither options nor values are refused together at the end.
-/
import GLBindings.Files.Path
import GLBindings.Text.Quoted

namespace GLBindings.CommandLine

open Files (Path)

set_option autoImplicit false

/-- An option that takes a value. -/
inductive Setting where
  | registry
  | output
  | profile
  deriving DecidableEq

/-- An option that is given or not. -/
inductive Flag where
  | help
  | download
  | force
  | isolated
  | noErrorCheck
  | noTimestamp
  deriving DecidableEq

inductive Switch where
  | setting (s : Setting)
  | flag (f : Flag)
  deriving DecidableEq

/-- The spellings of the options, in the order in which they are listed. -/
def spellings : List (String × Switch) := [
  ("-h", .flag .help), ("--help", .flag .help), ("--gl-xml", .setting .registry),
  ("--download", .flag .download), ("--force", .flag .force), ("--output-dir", .setting .output),
  ("--profile", .setting .profile), ("--isolated", .flag .isolated),
  ("--no-error-check", .flag .noErrorCheck), ("--no-timestamp", .flag .noTimestamp)]

/-- How a message names an option. -/
def Switch.describe : Switch → String
  | .flag .help => "-h/--help"
  | .flag .download => "--download"
  | .flag .force => "--force"
  | .flag .isolated => "--isolated"
  | .flag .noErrorCheck => "--no-error-check"
  | .flag .noTimestamp => "--no-timestamp"
  | .setting .registry => "--gl-xml"
  | .setting .output => "--output-dir"
  | .setting .profile => "--profile"

/-- The options as they are after all arguments.  A setting is absent if it was given last without a
value. -/
structure Options where
  registry : Option Path := some (Path.ofString "gl.xml")
  output : Option Path := some (Path.ofString "bindings")
  profile : Option String := some "core"
  download : Bool := false
  force : Bool := false
  isolated : Bool := false
  noErrorCheck : Bool := false
  noTimestamp : Bool := false
  deriving DecidableEq

/-- Why arguments are refused. -/
inductive UsageError where
  | ambiguous (argument : String) (candidates : List String)
  | valueMissing (switch : Switch)
  | valueIgnored (switch : Switch) (value : String)
  | unrecognized (arguments : List String)
  deriving DecidableEq

def UsageError.message : UsageError → String
  | .ambiguous argument candidates =>
      "ambiguous option: " ++ argument ++ " could match " ++ ", ".intercalate candidates
  | .valueMissing switch => "argument " ++ switch.describe ++ ": expected one argument"
  | .valueIgnored switch value =>
      "argument " ++ switch.describe ++ ": ignored explicit argument " ++ Text.quoted value
  | .unrecognized arguments => "unrecognized arguments: " ++ " ".intercalate arguments

/-! ## Kinds of argument -/

/-- What an argument is taken for on its own. -/
inductive Kind where
  /-- A value, or an argument out of place. -/
  | operand
  /-- Looks like an option, and is none. -/
  | unknown
  /-- Ends the options. -/
  | terminator
  /-- An option, with the value after `=` if there is one. -/
  | option (switch : Switch) (value : Option String)
  /-- The short help option with more characters, at least one, after it or after `=`. -/
  | helpRun (rest : List Char)
  deriving DecidableEq

/-- The text before the first `=`, and the text after it if there is one. -/
def splitValue (argument : String) : String × Option String :=
  let front := argument.toList.takeWhile (· != '=')
  let value := match argument.toList.drop front.length with
    | _ :: value => some (String.ofList value)
    | [] => none
  (String.ofList front, value)

/-- Digits, with a point among or before them perhaps, after a minus sign; a line end may follow. -/
def isNegativeNumber (argument : List Char) : Bool :=
  match argument with
  | '-' :: digits =>
      let digits := if digits.getLast? = some '\n' then digits.dropLast else digits
      let whole := digits.takeWhile Text.isDecimal
      match digits.drop whole.length with
      | [] => !whole.isEmpty
      | '.' :: fraction => !fraction.isEmpty && fraction.all Text.isDecimal
      | _ => false
  | _ => false

/-- The options that a shortened spelling can stand for. -/
def candidates (front : String) : List (String × Switch) :=
  spellings.filter fun entry => front.toList.isPrefixOf entry.1.toList

/-- What an argument that is no option is taken for. -/
def otherKind (argument : String) : Kind :=
  if isNegativeNumber argument.toList || argument.toList.contains ' ' then .operand else .unknown

def kindOf (argument : String) : Except UsageError Kind :=
  match argument.toList with
  | '-' :: second :: rest =>
      let (front, value) := splitValue argument
      if argument = "--" then .ok .terminator
      else
        match spellings.lookup argument, spellings.lookup front with
        | some switch, _ => .ok (.option switch none)
        | none, some switch =>
            match front, value.map String.toList with
            | "-h", some (c :: more) => .ok (.helpRun (c :: more))
            | _, _ => .ok (.option switch value)
        | none, none =>
            if second = '-' then
              match candidates front with
              | [] => .ok (otherKind argument)
              | [(_, switch)] => .ok (.option switch value)
              | several => .error (.ambiguous argument (several.map Prod.fst))
            else if second = 'h' then .ok (.helpRun rest)
            else .ok (otherKind argument)
  | _ => .ok .operand

/-- What each argument is taken for; after the terminator all are operands. -/
def kindsOf : List String → Except UsageError (List (String × Kind))
  | [] => .ok []
  | argument :: rest => do
      match ← kindOf argument with
      | .terminator => return (argument, .terminator) :: rest.map fun later => (later, .operand)
      | kind => return (argument, kind) :: (← kindsOf rest)

/-! ## Reading arguments -/

/-- What arguments ask for. -/
inductive Request where
  | help
  | run (options : Options)
  deriving DecidableEq

/-- The options with a value set, or taken away. -/
def Options.set (options : Options) (value : Option String) : Setting → Options
  | .registry => { options with registry := value.map Path.ofString }
  | .output => { options with output := value.map Path.ofString }
  | .profile => { options with profile := value }

def Options.raise (options : Options) : Flag → Options
  | .help => options
  | .download => { options with download := true }
  | .force => { options with force := true }
  | .isolated => { options with isolated := true }
  | .noErrorCheck => { options with noErrorCheck := true }
  | .noTimestamp => { options with noTimestamp := true }

/-- What is wrong with the characters after a short help option, if anything is: only more short help
options may follow. -/
def helpRunError : List Char → Option UsageError
  | [] => none
  | 'h' :: rest => helpRunError rest
  | rest => some (.valueIgnored (.flag .help) (String.ofList rest))

/-- The value that is written after `=`; two hyphens stand for none. -/
def writtenValue (value : String) : Option String := if value = "--" then none else some value

/-- Reads arguments into options; `extra` are those out of place so far. -/
def readKinds (options : Options) (extra : List String) :
    List (String × Kind) → Except UsageError Request
  | [] => if extra = [] then .ok (.run options) else .error (.unrecognized extra)
  | (argument, .operand) :: rest
  | (argument, .unknown) :: rest
  | (argument, .terminator) :: rest => readKinds options (extra ++ [argument]) rest
  | (_, .helpRun run) :: _ =>
      match helpRunError run with
      | none => .ok .help
      | some error => .error error
  | (_, .option (.flag flag) value) :: rest =>
      match value, flag with
      | some value, _ => .error (.valueIgnored (.flag flag) value)
      | none, .help => .ok .help
      | none, _ => readKinds (options.raise flag) extra rest
  | (_, .option (.setting setting) (some value)) :: rest =>
      readKinds (options.set (writtenValue value) setting) extra rest
  | (_, .option (.setting setting) none) :: (value, .operand) :: rest =>
      readKinds (options.set (some value) setting) extra rest
  | (_, .option (.setting setting) none) :: _ => .error (.valueMissing (.setting setting))

def readArguments (arguments : List String) : Except UsageError Request := do
  readKinds {} [] (← kindsOf arguments)

end GLBindings.CommandLine
