import GLBindings.Text.Lines
import GLBindings.Text.Quoted
import GLBindings.Text.LowerCase
import GLBindings.Xml.Document
import GLBindings.Declaration.Basic
import GLBindings.Registry.Basic
import GLBindings.Bindings.Package
import GLBindings.CommandLine.Machine
import GLBindings.Main
import GLBindings.Proofs.FirstOccurrence
import GLBindings.Proofs.Text.Listing
import GLBindings.Proofs.Text.Lines
import GLBindings.Proofs.Registry.Live
import GLBindings.Proofs.Registry.Filing
import GLBindings.Proofs.Registry.Birth
import GLBindings.Proofs.Outcome
import GLBindings.Proofs.Registry.Reached
import GLBindings.Proofs.Registry.Eligible
import GLBindings.Proofs.Registry.Cumulative
import GLBindings.Proofs.Registry.Order
import GLBindings.Proofs.Xml.Plain
import GLBindings.Proofs.Load
import GLBindings.Proofs.Registry.Profiles
import GLBindings.Proofs.Registry.Unused
import GLBindings.Proofs.Ascending
import GLBindings.Proofs.Interop.FirstDeclared
import GLBindings.Proofs.Interop.Deduplicated
import GLBindings.Proofs.Interop.Shared
import GLBindings.Proofs.Bindings.AliasLines
import GLBindings.Proofs.Bindings.Names
import GLBindings.Proofs.Bindings.Warnings
import GLBindings.Proofs.Bindings.Bound
import GLBindings.Proofs.Declaration.Arrangement
import GLBindings.Proofs.Declaration.Lexing
import GLBindings.Proofs.Declaration.Layout
import GLBindings.Proofs.Declaration.Leaves
import GLBindings.Proofs.Registry.Declared
import GLBindings.Proofs.Registry.Interruption
import GLBindings.Proofs.Registry.Separation
import GLBindings.Proofs.Declaration.WellFormed
import GLBindings.Proofs.Registry.Invariant
import GLBindings.Proofs.Registry.OnFile
import GLBindings.Proofs.Registry.Rereading
import GLBindings.Proofs.Bindings.Sections
import GLBindings.Proofs.Bindings.Layout
import GLBindings.Proofs.Bindings.Modes
import GLBindings.Proofs.Text.LowerCase
import GLBindings.Proofs.Files.Writing
import GLBindings.Proofs.Files.Resemblance
import GLBindings.Proofs.Package.Placing
import GLBindings.Proofs.Package.Numbers
import GLBindings.Proofs.Package.Written
import GLBindings.Proofs.Package.Generated
import GLBindings.Proofs.Package.Imports
import GLBindings.Proofs.Package.Linking
import GLBindings.Proofs.Bindings.Wrappers
import GLBindings.Proofs.Bindings.Rebinding
import GLBindings.Proofs.Bindings.Widths
import GLBindings.Proofs.Bindings.TypeNames
import GLBindings.Proofs.Bindings.Aliases
import GLBindings.Proofs.Package.Stopping
import GLBindings.Proofs.Package.Headers
import GLBindings.Proofs.Package.Clock
import GLBindings.Proofs.CommandLine.EarlyEnds
