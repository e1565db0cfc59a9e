import FilterPlan.Condition.Formula
import FilterPlan.Formula.Template
import FilterPlan.Filter
import FilterPlan.Ordering
import FilterPlan.Planner
import FilterPlan.Json.Reader
import FilterPlan.Json.Writer
import FilterPlan.Wire.Settings
import FilterPlan.Wire.Request
import FilterPlan.Session
import FilterPlan.Command.Run
import FilterPlan.Main
import FilterPlan.Proofs.Text.Splitting
import FilterPlan.Proofs.Formula.Truth
import FilterPlan.Proofs.Text.Case
import FilterPlan.Proofs.Condition.Targets
import FilterPlan.Proofs.Condition.Meaning
import FilterPlan.Proofs.Template.Text
import FilterPlan.Proofs.Expression.Lexeme
import FilterPlan.Proofs.Expression.Grammar
import FilterPlan.Proofs.Expression.Tests
import FilterPlan.Proofs.Expression.ReadBack
import FilterPlan.Proofs.Formula.Outline
import FilterPlan.Proofs.Condition.Terms
import FilterPlan.Proofs.Condition.Values
import FilterPlan.Proofs.Condition.Fields
import FilterPlan.Proofs.Expression.Dialects
import FilterPlan.Proofs.Json.Grammar
import FilterPlan.Proofs.Json.Scalars
import FilterPlan.Proofs.Json.Scanning
import FilterPlan.Proofs.Json.Reading
import FilterPlan.Proofs.Json.Writing
import FilterPlan.Proofs.Json.Records
import FilterPlan.Proofs.Wire.Labels
import FilterPlan.Proofs.Wire.Shapes
import FilterPlan.Proofs.Wire.Verdict
import FilterPlan.Proofs.Wire.Direct
import FilterPlan.Proofs.Wire.RoundTrip
import FilterPlan.Proofs.Condition.Appending
import FilterPlan.Proofs.Condition.Gathering
import FilterPlan.Proofs.Condition.Packing
import FilterPlan.Proofs.Session.InForce
import FilterPlan.Proofs.Condition.Duality
import FilterPlan.Proofs.Session.Parts
import FilterPlan.Proofs.Session.Reports
import FilterPlan.Proofs.Session.Calls
import FilterPlan.Proofs.Session.Replay
import FilterPlan.Proofs.Condition.MalformedRange
import FilterPlan.Proofs.Expression.Patterns
import FilterPlan.Wire.Plan
import FilterPlan.Proofs.Session.Log
import FilterPlan.Proofs.Wire.Plans
import FilterPlan.Proofs.Command.FileSystem
import FilterPlan.Proofs.Command.Compile
import FilterPlan.Proofs.Text.LowerCase
import FilterPlan.Proofs.Wire.Words
import FilterPlan.Proofs.Condition.FieldLists
import FilterPlan.Proofs.Ordering.Ranking
import FilterPlan.Proofs.Ordering.Grammar
import FilterPlan.Proofs.Ordering.Clause
import FilterPlan.Writing
import FilterPlan.Proofs.Page
import FilterPlan.Proofs.Writing
