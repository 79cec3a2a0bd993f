/-
# Packages

Generating means a list of steps: for each family a folder, then its files in order.  The steps are
known before any is taken; a file whose text cannot be made stops them where it stands.
-/
import GLBindings.Bindings.Module
import GLBindings.Files.Tree
import GLBindings.Interop

namespace GLBindings.Bindings

open Files (Path Tree FileError)

set_option autoImplicit false

inductive Step where
  | folder (path : Path)
  | file (path : Path) (text : Except LiteralError String)

/-- Why generating stops. -/
inductive Failure where
  | literal (error : LiteralError)
  | file (error : FileError)
  deriving DecidableEq

namespace Generator

/-- The steps for the files of a family's package: the shared table where there is one, the versions
in order, and the module that re-exports them. -/
def fileSteps (g : Generator) (package : Path) (family : String) : List Step :=
  let versions := versionsIn g.spec.versions family
  (if g.settings.storage = .shared then
    [.file (package.child "interop.py")
      (.ok (g.interopModule family (interopCommands g.spec.versions family)))]
  else []) ++
  (versions.map fun version =>
    .file (package.child (moduleName version.name ++ ".py")) (g.versionModule version)) ++
  [.file (package.child "__init__.py") (.ok (g.packageModule family versions))]

def packageFolder (output : Path) (family : String) : Path := output.child (Text.lower family)

/-- The steps for every family, in order of first appearance. -/
def steps (g : Generator) (output : Path) : List Step :=
  g.spec.families.flatMap fun family =>
    .folder (packageFolder output family) :: g.fileSteps (packageFolder output family) family

end Generator

def Step.written? : Step → Option Path
  | .folder _ => none
  | .file path _ => some path

def writtenPaths (steps : List Step) : List Path := steps.filterMap Step.written?

/-- Takes one step; what it has changed before it fails stays. -/
def Step.take (tree : Tree) : Step → Tree × Option Failure
  | .folder path =>
      let (tree, failure) := tree.ensureFolders path
      (tree, failure.map .file)
  | .file _ (.error error) => (tree, some (.literal error))
  | .file path (.ok text) =>
      match tree.write path text.toUTF8.toList with
      | .ok written => (written, none)
      | .error error => (tree, some (.file error))

/-- Takes the steps one by one up to the first that fails. -/
def takeSteps (tree : Tree) : List Step → Tree × Option Failure
  | [] => (tree, none)
  | step :: rest =>
      match step.take tree with
      | (tree, none) => takeSteps tree rest
      | (tree, some failure) => (tree, some failure)

end GLBindings.Bindings
