import ClassModel.Text.Blank
import ClassModel.Text.Printable
import ClassModel.Text.Identifier
import ClassModel.Text.CaseMap
import ClassModel.Text.Split
import ClassModel.Text.Escape
import ClassModel.Text.Utf8
import ClassModel.Number.Shortest
import ClassModel.Json.Parser
import ClassModel.Json.Print
import ClassModel.Traverse
import ClassModel.Ascending
import ClassModel.Schema.Basic
import ClassModel.Schema.Document
import ClassModel.Naming
import ClassModel.Schema.Fault
import ClassModel.Compile.ClassTree
import ClassModel.Log.Setup
import ClassModel.Source.Document
import ClassModel.Identifier.Sanitizer
import ClassModel.Text.Tidy
import ClassModel.Target.EnumTable
import ClassModel.Text.Margin
import ClassModel.Settings.Load
import ClassModel.ProvidedTypes
import ClassModel.Target.KotlinWriter
import ClassModel.Target.PythonWriter
import ClassModel.Registry
import ClassModel.Generator.Session
import ClassModel.Generator.FromDocument
import ClassModel.Template.Parser
import ClassModel.Console.Outline
import ClassModel.CommandLine.Reader
import ClassModel.CommandLine.Run
import ClassModel.Screen.Console
import ClassModel.Main
import ClassModel.Proofs.Traverse
import ClassModel.Proofs.Entries
import ClassModel.Proofs.Descriptor.Site
import ClassModel.Proofs.Compile.Resolving
import ClassModel.Proofs.Compile.Unfolding
import ClassModel.Proofs.Compile.CommonFields
import ClassModel.Proofs.Compile.ClassTree
import ClassModel.Proofs.Compile.Lineage
import ClassModel.Proofs.Compile.Overriding
import ClassModel.Proofs.Compile.Inheritance
import ClassModel.Proofs.Compile.Tagging
import ClassModel.Proofs.Target.KotlinOverride
import ClassModel.Proofs.Target.PythonTag
import ClassModel.Proofs.Schema.Reach
import ClassModel.Proofs.Compile.Walks
import ClassModel.Proofs.Descriptor.Route
import ClassModel.Proofs.Compile.Origin
import ClassModel.Proofs.Compile.FirstByName
import ClassModel.Proofs.Compile.TagKeys
import ClassModel.Proofs.Target.PythonLookup
import ClassModel.Proofs.Ascending
import ClassModel.Proofs.Json.KeyOrder
import ClassModel.Proofs.Compile.Imports
import ClassModel.Proofs.Compile.Settles
import ClassModel.Proofs.Compile.Suits
import ClassModel.Proofs.Compile.Outcome
import ClassModel.Proofs.Target.EnumTable
import ClassModel.Proofs.Target.Declarations
import ClassModel.Proofs.Compile.Provided
import ClassModel.Proofs.Document.Meaning
import ClassModel.Proofs.Document.References
import ClassModel.Proofs.Document.Building
import ClassModel.Proofs.Document.Loads
import ClassModel.Proofs.Document.Faithful
import ClassModel.Proofs.Compile.WalkFaults
import ClassModel.Proofs.Compile.Loaded
import ClassModel.Proofs.Document.Faults
import ClassModel.Proofs.Document.FirstFault
import ClassModel.Proofs.Text.LowerCase
import ClassModel.Proofs.Registry.Consistent
import ClassModel.Proofs.Registry.OneLanguage
import ClassModel.Proofs.Settings.Layers
import ClassModel.Proofs.Settings.Precedence
import ClassModel.Proofs.Compile.Redeclaring
import ClassModel.Proofs.Registry.Refusals
import ClassModel.Proofs.Identifier.Memo
import ClassModel.Proofs.Target.Recall
import ClassModel.Proofs.Generator.Session
import ClassModel.Proofs.CommandLine.Library
import ClassModel.Proofs.CommandLine.Printing
import ClassModel.Proofs.Console.Shown
import ClassModel.Proofs.Files.Written
import ClassModel.Proofs.CommandLine.Agreement
import ClassModel.Proofs.Compile.LeafOrder
import ClassModel.Proofs.Compile.SharedFields
import ClassModel.Proofs.Compile.Mirror
import ClassModel.Proofs.Target.EnumBatches
import ClassModel.Proofs.Target.EnumsDeclared
import ClassModel.Proofs.Descriptor.DepthFirst
import ClassModel.Proofs.Target.Blocks
import ClassModel.Proofs.Target.PositionalOrder
import ClassModel.Proofs.Text.PythonLiteral
import ClassModel.Proofs.Target.PythonLiterals
import ClassModel.Proofs.Identifier.Stem
import ClassModel.Proofs.Compile.OwnFields
import ClassModel.Proofs.Identifier.Merging
import ClassModel.Proofs.Target.Members
import ClassModel.Proofs.Identifier.SnakeCase
import ClassModel.Proofs.Identifier.Safe
import ClassModel.Proofs.Text.IdentifierCase
import ClassModel.Proofs.Identifier.EnumName
import ClassModel.Proofs.Target.EnumNames
import ClassModel.Proofs.Target.FileText
import ClassModel.Proofs.Target.ImportLines
import ClassModel.Proofs.Target.ImportStatements
import ClassModel.Proofs.Generator.Imports
import ClassModel.Proofs.Json.Limits
import ClassModel.Proofs.Source.Fetching
import ClassModel.Proofs.Identifier.CaseForms
import ClassModel.Proofs.Text.Split
import ClassModel.Proofs.Text.Tidy
import ClassModel.Proofs.Text.Rows
import ClassModel.Proofs.Compile.TypeTree
import ClassModel.Proofs.Target.KotlinLiterals
import ClassModel.Proofs.Log.Runs
import ClassModel.Proofs.Settings.Warnings
import ClassModel.Proofs.Template.Rendering
