import TokenScopes.Main
import TokenScopes.Proofs.Scope.Stack
import TokenScopes.Proofs.Scope.Walk
import TokenScopes.Proofs.Scope.Nesting
import TokenScopes.Proofs.Scope.Closing
import TokenScopes.Proofs.Scope.Decoration
import TokenScopes.Proofs.Checker.Log
import TokenScopes.Proofs.Checker.Reading
import TokenScopes.Proofs.Checker.Recording
import TokenScopes.Proofs.Checker.KeepGoing
import TokenScopes.Proofs.Checker.Accounting
import TokenScopes.Proofs.Checker.Acceptance
import TokenScopes.Proofs.Checker.Order
import TokenScopes.Proofs.Checker.Shape
import TokenScopes.Proofs.Checker.Blank
import TokenScopes.Proofs.Checker.Layout
import TokenScopes.Proofs.Json.Number
import TokenScopes.Proofs.Json.RoundTrip
import TokenScopes.Proofs.Json.Canonical
import TokenScopes.Proofs.Spec.Migration
import TokenScopes.Proofs.Spec.Grammar
import TokenScopes.Proofs.Spec.Retention
import TokenScopes.Proofs.Checker.RootMarker
import TokenScopes.Proofs.Fixture.RoundTrip
import TokenScopes.Proofs.File.Tree
import TokenScopes.Proofs.Fixture.Discovery
import TokenScopes.Proofs.Checker.Isolation
import TokenScopes.Proofs.Json.LongNumber
import TokenScopes.Proofs.Outcome
import TokenScopes.Proofs.Yaml.Lexical
import TokenScopes.Proofs.Yaml.Construction
import TokenScopes.Proofs.Yaml.Parser
import TokenScopes.Proofs.Checker.LoadErrors
import TokenScopes.Proofs.Checker.Boundary
import TokenScopes.Proofs.Checker.CloseNames
import TokenScopes.Proofs.Checker.LineStop
import TokenScopes.Proofs.Checker.Genuine
import TokenScopes.Proofs.Checker.Echo
import TokenScopes.Proofs.Command.Arguments
import TokenScopes.Proofs.Command.Printing
import TokenScopes.Proofs.Command.Quiet
import TokenScopes.Proofs.Scope.Diff
import TokenScopes.Proofs.Scope.DiffText
import TokenScopes.Proofs.Scope.TagString
import TokenScopes.Proofs.Spec.Spelling
import TokenScopes.Proofs.Text.Blank
import TokenScopes.Proofs.Checker.Section
import TokenScopes.Proofs.Fixture.AllOrNone
import TokenScopes.Proofs.Checker.Flush
import TokenScopes.Proofs.Value.CanonicalForm
import TokenScopes.Proofs.Toml.LongNumber
import TokenScopes.Proofs.Checker.Settings
import TokenScopes.Proofs.File.Writing
import TokenScopes.Proofs.Command.Normalizing
