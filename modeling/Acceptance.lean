import Acceptance.Aggregate
import Acceptance.Argument
import Acceptance.Bindings
import Acceptance.CharSet
import Acceptance.CharSet.Utf8
import Acceptance.CommandLine
import Acceptance.Decimal.Binary64
import Acceptance.Decimal.Notation
import Acceptance.Definition
import Acceptance.DryRun
import Acceptance.Duration
import Acceptance.Examples.Source
import Acceptance.Expansion
import Acceptance.Failure
import Acceptance.Feature
import Acceptance.Feature.Json
import Acceptance.FeatureRun
import Acceptance.FileTree
import Acceptance.Gherkin.Document
import Acceptance.Gherkin.Parser
import Acceptance.Glob
import Acceptance.Hook
import Acceptance.Instance
import Acceptance.Json
import Acceptance.Json.Parser
import Acceptance.Loading
import Acceptance.Location
import Acceptance.Options
import Acceptance.Pattern
import Acceptance.Pattern.Scan
import Acceptance.Pool
import Acceptance.Power
import Acceptance.Record
import Acceptance.Regex
import Acceptance.Regex.Bracket
import Acceptance.Regex.Flags
import Acceptance.Regex.Parser
import Acceptance.Regex.Primitive
import Acceptance.Regex.Size
import Acceptance.Regex.Tree
import Acceptance.Retry
import Acceptance.ScenarioRun
import Acceptance.Script
import Acceptance.Selection
import Acceptance.Stage
import Acceptance.Status
import Acceptance.Substitution
import Acceptance.Suite
import Acceptance.Summary
import Acceptance.Table
import Acceptance.Tag
import Acceptance.Tag.Expression
import Acceptance.Task
import Acceptance.Text
import Acceptance.Text.Dedent
import Acceptance.Unicode.Age
import Acceptance.Unicode.Alphabetic
import Acceptance.Unicode.Break
import Acceptance.Unicode.CaseFold
import Acceptance.Unicode.Casing
import Acceptance.Unicode.Category
import Acceptance.Unicode.Category.Letter
import Acceptance.Unicode.Category.Mark
import Acceptance.Unicode.Category.Number
import Acceptance.Unicode.Category.Punctuation
import Acceptance.Unicode.Category.Symbol
import Acceptance.Unicode.Emoji
import Acceptance.Unicode.Extender
import Acceptance.Unicode.Identifier
import Acceptance.Unicode.Ideograph
import Acceptance.Unicode.Ignorable
import Acceptance.Unicode.Lowercase
import Acceptance.Unicode.Naming
import Acceptance.Unicode.Property
import Acceptance.Unicode.Range
import Acceptance.Unicode.Script
import Acceptance.Unicode.ScriptExtension
import Acceptance.Unicode.Sign
import Acceptance.Unicode.Word
import Acceptance.Proofs.Feature.Interleaving
import Acceptance.Proofs.Feature.Summary
import Acceptance.Proofs.Feature.Shape
import Acceptance.Proofs.Scenario.Lifecycle
import Acceptance.Proofs.Feature.Bracket
import Acceptance.Proofs.Pattern.Expression
import Acceptance.Proofs.Regex.Compile
import Acceptance.Proofs.Regex.Reading
import Acceptance.Proofs.Pattern.Source
import Acceptance.Proofs.Aggregate.Latest
import Acceptance.Proofs.Expansion.Placeholder
import Acceptance.Proofs.DryRun.Run
import Acceptance.Proofs.Feature.Refusal
import Acceptance.Proofs.Feature.Conservation
import Acceptance.Proofs.Feature.ExitFlag
import Acceptance.Proofs.Pool.Crash
import Acceptance.Proofs.Definition.FirstMatch
import Acceptance.Proofs.Definition.Delivery
import Acceptance.Proofs.Feature.Isolation
import Acceptance.Proofs.Scenario.Termination
import Acceptance.Proofs.Scenario.Budget
import Acceptance.Proofs.Substitution.Cut
import Acceptance.Proofs.Feature.Filter
import Acceptance.Proofs.Feature.Unexpanded
import Acceptance.Proofs.Scenario.AfterHooks
import Acceptance.Proofs.Expansion.Usage
import Acceptance.Proofs.RetryTag
import Acceptance.Proofs.Gherkin.Scope
import Acceptance.Proofs.Hook
import Acceptance.Proofs.Table.Transpose
import Acceptance.Proofs.Table.Hashes
import Acceptance.Proofs.Feature.Json
import Acceptance.Proofs.Pattern.Scan
import Acceptance.Proofs.Examples.Shape
