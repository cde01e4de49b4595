import RuleTree.Number.Text
import RuleTree.Number.Read
import RuleTree.Text.Basic
import RuleTree.Unicode.Property
import RuleTree.Unicode.Case
import RuleTree.Pattern.Regex
import RuleTree.Pattern.Reader
import RuleTree.Pattern.Basic
import RuleTree.Format.Basic
import RuleTree.Format.Moment
import RuleTree.Value.Projection
import RuleTree.Value.Text
import RuleTree.Value.Equality
import RuleTree.Json.Reader
import RuleTree.Url.Basic
import RuleTree.Tree.Basic
import RuleTree.Check.Node
import RuleTree.Config
import RuleTree.Schema.Modifier
import RuleTree.Schema.Rebuilt
import RuleTree.Proofs.Node.Alike
import RuleTree.Proofs.Check.Acceptance
import RuleTree.Proofs.Check.Satisfaction
import RuleTree.Proofs.Check.Limit
import RuleTree.Proofs.Distinct
import RuleTree.Proofs.Number.Exact
import RuleTree.Proofs.Tree.Payload
import RuleTree.Proofs.Tree.Grammar
import RuleTree.Proofs.Tree.RoundTrip
import RuleTree.Proofs.Tree.Reading
import RuleTree.Proofs.Check.Layer
import RuleTree.Proofs.Check.Visit
import RuleTree.Proofs.Tree.Parts
import RuleTree.Proofs.Check.Depth
import RuleTree.Proofs.Number.Equality
import RuleTree.Proofs.Schema.Combined
import RuleTree.Proofs.Value.Contents
import RuleTree.Proofs.Value.Respects
import RuleTree.Proofs.Check.Contents
import RuleTree.Proofs.Value.Rearranged
import RuleTree.Proofs.Fields
import RuleTree.Proofs.Tree.Counts
import RuleTree.Proofs.Schema.Kind
import RuleTree.Proofs.Schema.Built
import RuleTree.Proofs.Schema.Rebuilt
import RuleTree.Proofs.Node.Setting
import RuleTree.Proofs.Node.Nesting
import RuleTree.Proofs.Lists
import RuleTree.Proofs.Check.Erasure
import RuleTree.Proofs.Schema.Views
import RuleTree.Proofs.Value.Equivalence
import RuleTree.Proofs.Format.Ipv6
import RuleTree.Proofs.Check.Unexplained
import RuleTree.Proofs.Number.Rounding
import RuleTree.Proofs.Value.Order
import RuleTree.Proofs.Schema.Constrained
import RuleTree.Proofs.Tree.Options
import RuleTree.Proofs.Tree.Normal
import RuleTree.Proofs.Unicode.CaseFold
import RuleTree.Proofs.Format.DateTime
import RuleTree.Proofs.Format.Duration
import RuleTree.Proofs.Format.Identifier
import RuleTree.Proofs.Number.Literal
import RuleTree.Proofs.Number.Reading
import RuleTree.Proofs.Schema.Optional
import RuleTree.Proofs.Schema.Shape
import RuleTree.Proofs.Schema.Positive
import RuleTree.Proofs.Schema.Length
import RuleTree.Proofs.Keyed
import RuleTree.Proofs.Schema.Object
import RuleTree.Proofs.Schema.Merge
import RuleTree.Proofs.Text.Units
import RuleTree.Proofs.Value.Comparison
import RuleTree.Proofs.Value.Projection
import RuleTree.Proofs.Check.Single
import RuleTree.Proofs.Format.Ipv4
import RuleTree.Proofs.Format.Base64
import RuleTree.Proofs.Schema.Diagnostic
import RuleTree.Proofs.Format.Email
import RuleTree.Proofs.Format.Uuid
import RuleTree.Proofs.Tree.Absent
import RuleTree.Proofs.Node.Edits
import RuleTree.Proofs.Insertion
import RuleTree.Proofs.History
