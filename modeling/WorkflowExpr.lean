import WorkflowExpr.Main
import WorkflowExpr.Proofs.Evaluation.Noninterference
import WorkflowExpr.Proofs.Evaluation.Replay
import WorkflowExpr.Proofs.Template.RoundTrip
import WorkflowExpr.Proofs.Expr.Spelling
import WorkflowExpr.Proofs.Expr.Writing
import WorkflowExpr.Proofs.Evaluation.Success
import WorkflowExpr.Proofs.Expr.Precedence
import WorkflowExpr.Proofs.Evaluation.Doubled
import WorkflowExpr.Proofs.Number.Nearest
import WorkflowExpr.Proofs.Number.Numeral
import WorkflowExpr.Proofs.Number.Shortest
import WorkflowExpr.Proofs.Json.Scalar
import WorkflowExpr.Proofs.Json.Document
import WorkflowExpr.Proofs.Json.RoundTrip
import WorkflowExpr.Proofs.Evaluation.Instrumentation
import WorkflowExpr.Proofs.Expr.Longest
import WorkflowExpr.Proofs.Expr.Tiling
import WorkflowExpr.Proofs.Expr.Viable
import WorkflowExpr.Proofs.Expr.Fault
import WorkflowExpr.Proofs.Template.Literal
import WorkflowExpr.Proofs.Evaluation.Logic
import WorkflowExpr.Proofs.Distinct
import WorkflowExpr.Proofs.Workspace.Confinement
import WorkflowExpr.Proofs.Context.File
import WorkflowExpr.Proofs.Context.Layering
import WorkflowExpr.Proofs.Config.Sources
import WorkflowExpr.Proofs.Evaluation.Naming
import WorkflowExpr.Proofs.Evaluation.Registration
import WorkflowExpr.Proofs.Number.Rank
import WorkflowExpr.Proofs.Value.Key
import WorkflowExpr.Proofs.Value.Equality
import WorkflowExpr.Proofs.Evaluation.Order
import WorkflowExpr.Proofs.Expr.Limit
import WorkflowExpr.Proofs.Expr.Ending
import WorkflowExpr.Proofs.Expr.Depth
import WorkflowExpr.Proofs.Expr.Quotation
import WorkflowExpr.Proofs.Expr.Spacing
import WorkflowExpr.Proofs.Expr.Nesting
import WorkflowExpr.Proofs.Template.Substitution
import WorkflowExpr.Proofs.Function.Format
import WorkflowExpr.Proofs.Function.Placeholder
import WorkflowExpr.Proofs.Workspace.LastMatch
import WorkflowExpr.Proofs.Workspace.Linkless
import WorkflowExpr.Proofs.Workspace.Pattern
import WorkflowExpr.Proofs.Workspace.Below
import WorkflowExpr.Proofs.Expr.Number
import WorkflowExpr.Proofs.Value.Number
