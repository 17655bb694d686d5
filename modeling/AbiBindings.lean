import AbiBindings.Abi.Declaration
import AbiBindings.Abi.Document
import AbiBindings.Abi.Entry
import AbiBindings.Abi.Loader
import AbiBindings.Abi.ParamType
import AbiBindings.Abi.Parameter
import AbiBindings.Abi.ParameterValue
import AbiBindings.Abi.TypeText
import AbiBindings.Bindings.Basic
import AbiBindings.Bindings.Generate
import AbiBindings.Bindings.Settings
import AbiBindings.Bindings.Source
import AbiBindings.Bindings.TypeDescriptor
import AbiBindings.Bytecode
import AbiBindings.Code.Bound
import AbiBindings.Code.Derive
import AbiBindings.Code.Expression
import AbiBindings.Code.Identifier
import AbiBindings.Code.Lexer
import AbiBindings.Code.Literal
import AbiBindings.Code.LiteralScanner
import AbiBindings.Code.LiteralValue
import AbiBindings.Code.Path
import AbiBindings.Code.Reader
import AbiBindings.Code.SyntaxFault
import AbiBindings.Code.Token
import AbiBindings.Code.Trivia
import AbiBindings.Code.TypeExpression
import AbiBindings.Code.Visibility
import AbiBindings.CommandLine.FileTree
import AbiBindings.CommandLine.Options
import AbiBindings.CommandLine.Run
import AbiBindings.Decimal.Shortest
import AbiBindings.Error
import AbiBindings.FilePath
import AbiBindings.Hash.Keccak
import AbiBindings.Job
import AbiBindings.Json.Fault
import AbiBindings.Json.NumberReader
import AbiBindings.Json.NumberText
import AbiBindings.Json.Reader
import AbiBindings.Json.Skip
import AbiBindings.Json.StringReader
import AbiBindings.Json.Structure
import AbiBindings.Json.Value
import AbiBindings.Main
import AbiBindings.Naming.Casing
import AbiBindings.Naming.Inputs
import AbiBindings.Naming.Overload
import AbiBindings.Naming.Resolution
import AbiBindings.Proofs.Collisions
import AbiBindings.Proofs.EventIdentifier
import AbiBindings.Proofs.Generation
import AbiBindings.Proofs.InputNames
import AbiBindings.Proofs.Joining
import AbiBindings.Proofs.Names
import AbiBindings.Proofs.Numerals
import AbiBindings.Proofs.OverloadSuffix
import AbiBindings.Proofs.Resolution
import AbiBindings.Proofs.ResolutionOrder
import AbiBindings.Proofs.Signature
import AbiBindings.Proofs.Stages
import AbiBindings.Proofs.Traversal
import AbiBindings.Proofs.TypeGrammar
import AbiBindings.Proofs.TypeRoundTrip
import AbiBindings.Proofs.TypeShape
import AbiBindings.Proofs.UniqueNames
import AbiBindings.Store
import AbiBindings.Text.Blank
import AbiBindings.Text.CodePointSet
import AbiBindings.Text.Hex
import AbiBindings.Text.IdentifierSet
import AbiBindings.Text.Join
import AbiBindings.Text.Numeral
import AbiBindings.Text.PrintableSet
import AbiBindings.Text.Quoted
import AbiBindings.Text.Uppercase
import AbiBindings.Text.Utf8
import AbiBindings.Proofs.Members
import AbiBindings.Proofs.Atomicity
import AbiBindings.Proofs.Validation
import AbiBindings.Proofs.Independence
import AbiBindings.Proofs.Representation
import AbiBindings.Proofs.OutputPath
import AbiBindings.Proofs.Identifiers
import AbiBindings.Proofs.WrittenNames
import AbiBindings.Proofs.Hashes
import AbiBindings.Proofs.IndexedFlags
import AbiBindings.Proofs.InputChoice
import AbiBindings.Proofs.CasingLaws
import AbiBindings.Proofs.TypeCode
import AbiBindings.Proofs.TypeMapping
import AbiBindings.Proofs.ConfiguredNames
import AbiBindings.Proofs.TopLevelNames
import AbiBindings.Proofs.EventFilters
import AbiBindings.Proofs.DerivedTraits
import AbiBindings.Proofs.TypeErrors
import AbiBindings.Proofs.EmbeddedText
import AbiBindings.Proofs.CutReading
import AbiBindings.Proofs.CutScalars
import AbiBindings.Proofs.CutValues
import AbiBindings.Proofs.DeviceFailures
import AbiBindings.Proofs.BytecodeText
import AbiBindings.Proofs.ParameterValues
import AbiBindings.Proofs.OptionOrder
import AbiBindings.Proofs.CodeParts
import AbiBindings.Proofs.JobRuns
import AbiBindings.Proofs.FileTrees
