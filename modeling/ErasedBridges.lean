import ErasedBridges.Body.Basic
import ErasedBridges.Body.Instruction
import ErasedBridges.Bridge.Catalog
import ErasedBridges.Bridge.Classify
import ErasedBridges.Bridge.Declaration
import ErasedBridges.Bridge.Pattern
import ErasedBridges.Bridge.Synthesis
import ErasedBridges.ClassFile.Basic
import ErasedBridges.ClassFile.Printer
import ErasedBridges.ClassFile.Reader
import ErasedBridges.Command.Failure
import ErasedBridges.Command.Limits
import ErasedBridges.Command.Output
import ErasedBridges.Command.Status
import ErasedBridges.Command.Template
import ErasedBridges.CommandLine.Execute
import ErasedBridges.CommandLine.Help
import ErasedBridges.CommandLine.Invocation
import ErasedBridges.CommandLine.Scan
import ErasedBridges.Config.Basic
import ErasedBridges.Config.Decode
import ErasedBridges.Config.Error
import ErasedBridges.Config.Load
import ErasedBridges.Config.LogFilter
import ErasedBridges.Config.LogFilter.Directive
import ErasedBridges.Config.LogFilter.FieldTest
import ErasedBridges.Config.LogFilter.Level
import ErasedBridges.Config.LogFilter.Pattern
import ErasedBridges.Config.Toml.Basic
import ErasedBridges.Config.Toml.Document
import ErasedBridges.Config.Toml.Scalar
import ErasedBridges.Decimal.Basic
import ErasedBridges.Decimal.Nearest
import ErasedBridges.Decimal.Places
import ErasedBridges.Decimal.Shortest
import ErasedBridges.Descriptor.Basic
import ErasedBridges.Descriptor.Scan
import ErasedBridges.Descriptor.Variables
import ErasedBridges.FirstMatch
import ErasedBridges.Host.FileTree
import ErasedBridges.Host.OsError
import ErasedBridges.Host.Path
import ErasedBridges.Host.Program
import ErasedBridges.Json.Basic
import ErasedBridges.Library.Layout
import ErasedBridges.Library.Primitive
import ErasedBridges.Main
import ErasedBridges.Patch.CastElimination
import ErasedBridges.Patch.EmptyVariant
import ErasedBridges.PatchError
import ErasedBridges.Proofs.Body.Calls
import ErasedBridges.Proofs.Body.Interleaving
import ErasedBridges.Proofs.Body.Kinds
import ErasedBridges.Proofs.Body.Layout
import ErasedBridges.Proofs.Body.Run
import ErasedBridges.Proofs.Body.Slots
import ErasedBridges.Proofs.Body.Tables
import ErasedBridges.Proofs.Bridge.Acceptance
import ErasedBridges.Proofs.Bridge.Body
import ErasedBridges.Proofs.Bridge.CatalogOrder
import ErasedBridges.Proofs.Bridge.Choice
import ErasedBridges.Proofs.Bridge.Coverage
import ErasedBridges.Proofs.Bridge.Emission
import ErasedBridges.Proofs.Bridge.ExactCode
import ErasedBridges.Proofs.Bridge.Exclusion
import ErasedBridges.Proofs.Bridge.Expansion
import ErasedBridges.Proofs.Bridge.Lines
import ErasedBridges.Proofs.Bridge.Pattern
import ErasedBridges.Proofs.Bridge.Printable
import ErasedBridges.Proofs.Bridge.Shapes
import ErasedBridges.Proofs.Bridge.StackEffect
import ErasedBridges.Proofs.Bridge.Synthesis
import ErasedBridges.Proofs.Bridge.Typing
import ErasedBridges.Proofs.Bridge.Variants
import ErasedBridges.Proofs.ClassFile.Blocks
import ErasedBridges.Proofs.ClassFile.Concatenation
import ErasedBridges.Proofs.ClassFile.Entry
import ErasedBridges.Proofs.ClassFile.Header
import ErasedBridges.Proofs.ClassFile.Line
import ErasedBridges.Proofs.ClassFile.LineByLine
import ErasedBridges.Proofs.ClassFile.Printable
import ErasedBridges.Proofs.ClassFile.Printed
import ErasedBridges.Proofs.ClassFile.Readable
import ErasedBridges.Proofs.ClassFile.RoundTrip
import ErasedBridges.Proofs.ClassFile.Run
import ErasedBridges.Proofs.ClassFile.Step
import ErasedBridges.Proofs.Command.Capture
import ErasedBridges.Proofs.Command.Rendering
import ErasedBridges.Proofs.Descriptor.Bracket
import ErasedBridges.Proofs.Descriptor.Kind
import ErasedBridges.Proofs.Descriptor.Rewriting
import ErasedBridges.Proofs.Descriptor.Substitution
import ErasedBridges.Proofs.Descriptor.Text
import ErasedBridges.Proofs.Descriptor.Token
import ErasedBridges.Proofs.Descriptor.Tree
import ErasedBridges.Proofs.Descriptor.Word
import ErasedBridges.Proofs.FirstMatch
import ErasedBridges.Proofs.Host.Program
import ErasedBridges.Proofs.Library.Layout
import ErasedBridges.Proofs.Patch.Agreement
import ErasedBridges.Proofs.Patch.CastElimination
import ErasedBridges.Proofs.Patch.CastGone
import ErasedBridges.Proofs.Patch.Delegation
import ErasedBridges.Proofs.Patch.Duplicates
import ErasedBridges.Proofs.Patch.EmptyVariant
import ErasedBridges.Proofs.Patch.Printable
import ErasedBridges.Proofs.Patch.Reread
import ErasedBridges.Proofs.Patch.Splice
import ErasedBridges.Proofs.Run.Accounts
import ErasedBridges.Proofs.Run.Ensures
import ErasedBridges.Proofs.Run.Freshness
import ErasedBridges.Proofs.Run.Repeat
import ErasedBridges.Proofs.Run.Store
import ErasedBridges.Proofs.Run.Timeout
import ErasedBridges.Proofs.Shell.Limits
import ErasedBridges.Proofs.Signature.Grammar
import ErasedBridges.Proofs.Signature.Mentioned
import ErasedBridges.Proofs.Signature.MethodGrammar
import ErasedBridges.Proofs.Signature.Renaming
import ErasedBridges.Proofs.Signature.Substitution
import ErasedBridges.Proofs.Signature.Word
import ErasedBridges.Proofs.Success
import ErasedBridges.Proofs.Text.Decimal
import ErasedBridges.Proofs.Text.Ink
import ErasedBridges.Proofs.Text.Separator
import ErasedBridges.Proofs.Text.Words
import ErasedBridges.ReadError
import ErasedBridges.Report.Catalog
import ErasedBridges.Report.Patch
import ErasedBridges.Report.Pattern
import ErasedBridges.Run.External
import ErasedBridges.Run.JobError
import ErasedBridges.Run.Memory
import ErasedBridges.Run.Patcher
import ErasedBridges.Run.Plan
import ErasedBridges.Shell.Arithmetic
import ErasedBridges.Shell.Builtin.Basic
import ErasedBridges.Shell.Builtin.Control
import ErasedBridges.Shell.Builtin.Printing
import ErasedBridges.Shell.Builtin.Signals
import ErasedBridges.Shell.Builtin.Variables
import ErasedBridges.Shell.Builtins
import ErasedBridges.Shell.ByteText
import ErasedBridges.Shell.Children
import ErasedBridges.Shell.Command
import ErasedBridges.Shell.Device
import ErasedBridges.Shell.Expansion
import ErasedBridges.Shell.Fields
import ErasedBridges.Shell.Format.Builtin
import ErasedBridges.Shell.Format.Conversion
import ErasedBridges.Shell.Format.Escape
import ErasedBridges.Shell.Format.Printing
import ErasedBridges.Shell.Format.Program
import ErasedBridges.Shell.Glob
import ErasedBridges.Shell.Interpreter
import ErasedBridges.Shell.Lexer
import ErasedBridges.Shell.Machine
import ErasedBridges.Shell.Number
import ErasedBridges.Shell.Options
import ErasedBridges.Shell.Parser
import ErasedBridges.Shell.Pipeline
import ErasedBridges.Shell.Process
import ErasedBridges.Shell.Program
import ErasedBridges.Shell.Reading
import ErasedBridges.Shell.Redirection
import ErasedBridges.Shell.Runner
import ErasedBridges.Shell.Syntax
import ErasedBridges.Shell.Utilities
import ErasedBridges.Shell.Utility.Basic
import ErasedBridges.Shell.Utility.Cat
import ErasedBridges.Shell.Utility.Conditions
import ErasedBridges.Shell.Utility.Files
import ErasedBridges.Shell.Utility.Printing
import ErasedBridges.Shell.Utility.Quoting
import ErasedBridges.Shell.Utility.Streams
import ErasedBridges.Shell.Utility.Transfer
import ErasedBridges.Shell.Variables
import ErasedBridges.Signature.Basic
import ErasedBridges.Signature.Parse
import ErasedBridges.Signature.Variables
import ErasedBridges.Source.Declaration
import ErasedBridges.Text.Alphanumeric
import ErasedBridges.Text.Basic
import ErasedBridges.Text.Blank
import ErasedBridges.Text.Decimal
import ErasedBridges.Text.Lines
import ErasedBridges.Text.Quoted
import ErasedBridges.Text.Ranges
import ErasedBridges.Text.Unseen
import ErasedBridges.Text.Utf8
import ErasedBridges.Text.Word
