import FormRules.Main
import FormRules.Proofs.Text.Case
import FormRules.Proofs.Text.CaseMap
import FormRules.Proofs.Text.Class
import FormRules.Proofs.Text.CodePoints
import FormRules.Proofs.Text.Decimal
import FormRules.Proofs.Text.LetterCase
import FormRules.Proofs.Text.Lowercase
import FormRules.Proofs.Text.Split
import FormRules.Proofs.Text.Words
import FormRules.Proofs.Settings
import FormRules.Proofs.Token.Kinds
import FormRules.Proofs.Token.Gap
import FormRules.Proofs.Token.Lexeme
import FormRules.Proofs.Token.Split
import FormRules.Proofs.Token.Seam
import FormRules.Proofs.Identifier
import FormRules.Proofs.Statement.Relabel
import FormRules.Proofs.Statement.Grammar
import FormRules.Proofs.Statement.Spans
import FormRules.Proofs.Statement.Seam
import FormRules.Proofs.Statement.Brackets
import FormRules.Proofs.Statement.Enclosure
import FormRules.Proofs.Statement.Print
import FormRules.Proofs.Statement.Modifiers
import FormRules.Proofs.Statement.NamedArgument
import FormRules.Proofs.Table
import FormRules.Proofs.Table.Index
import FormRules.Proofs.Table.Record
import FormRules.Proofs.RuleSet
import FormRules.Proofs.Extraction.Step
import FormRules.Proofs.Extraction.Definition
import FormRules.Proofs.Extraction.Skip
import FormRules.Proofs.Extraction.Continuation
import FormRules.Proofs.Extraction.Spelling
import FormRules.Proofs.Migration.Written
import FormRules.Proofs.Migration.Agreement
import FormRules.Proofs.Naming
import FormRules.Proofs.Naming.Singular
import FormRules.Proofs.Naming.ClassName
import FormRules.Proofs.Path
import FormRules.Proofs.FileTree.Change
import FormRules.Proofs.FileTree.Walk
import FormRules.Proofs.FileTree.Find
import FormRules.Proofs.FileTree.Growth
import FormRules.Proofs.FileTree.Directories
import FormRules.Proofs.FileTree.Migrations
import FormRules.Proofs.Request.ClassTokens
import FormRules.Proofs.Json.Token
import FormRules.Proofs.Json.Value
import FormRules.Proofs.Json.Record
import FormRules.Proofs.Request.Formats
import FormRules.Proofs.Request.Entries
import FormRules.Proofs.Request.Names
import FormRules.Proofs.Request.Place
import FormRules.Proofs.Request.Confinement
import FormRules.Proofs.Generation.Run
import FormRules.Proofs.Generation.Recording
import FormRules.Proofs.Generation.Policy
import FormRules.Proofs.Generation.Write
import FormRules.Proofs.Generation.Staging
import FormRules.Proofs.Generation.AllOrNothing
import FormRules.Proofs.Generation.Effect
import FormRules.Proofs.Generation.LastWriter
import FormRules.Proofs.Generation.Accounting
import FormRules.Proofs.Generation.Again
import FormRules.Proofs.Generation.DryRun
