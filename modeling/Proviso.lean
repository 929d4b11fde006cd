import Proviso.Compiler.Inspection
import Proviso.Fault.Report
import Proviso.Message.Template
import Proviso.Proofs.Condition.Dependence
import Proviso.Proofs.Condition.Direct
import Proviso.Proofs.Condition.Soundness
import Proviso.Schema.Draft
import Proviso.Proofs.Message.Pieces
import Proviso.Proofs.Message.Format
import Proviso.Proofs.Function.Arguments
import Proviso.Proofs.Function.Registry
import Proviso.Proofs.Function.Builtin
import Proviso.Proofs.Condition.Calls
import Proviso.Proofs.Compiler.Coherence
import Proviso.Proofs.Grammar.Placement
import Proviso.Proofs.Value.Symmetry
import Proviso.Proofs.Pattern.Search
import Proviso.Proofs.Token.Standard
import Proviso.Proofs.Token.Cuts
import Proviso.Proofs.Grammar.Converse
import Proviso.Proofs.Condition.Converse
import Proviso.Proofs.Record.Walks
import Proviso.Proofs.Number.Decimal
import Proviso.Proofs.Calendar.Moment
import Proviso.Proofs.Calendar.Duration
import Proviso.Proofs.Value.Reading
import Proviso.Proofs.Record.Serialization
import Proviso.Proofs.Pattern.Chain
import Proviso.Proofs.Token.Words
import Proviso.Proofs.Condition.Postfix
import Proviso.Proofs.Token.Names
import Proviso.Proofs.Token.Quotation
import Proviso.Proofs.Token.Written
import Proviso.Proofs.Token.Sequence
import Proviso.Proofs.Grammar.Printing
import Proviso.Proofs.Token.Tiling
import Proviso.Proofs.Grammar.Transfer
import Proviso.Proofs.Grammar.Extension
import Proviso.Proofs.Grammar.Faults
import Proviso.Proofs.Condition.Faults
import Proviso.Proofs.Compiler.Faults
import Proviso.Proofs.Fault.Report
import Proviso.Proofs.Compiler.Places
import Proviso.Proofs.Schema.Constants
import Proviso.Proofs.Calendar.Layout
import Proviso.Proofs.Message.Records
import Proviso.Proofs.Condition.Inventory
import Proviso.Proofs.Record.Typing
import Proviso.Proofs.Token.Anchors
import Proviso.Proofs.Number.Rounding
import Proviso.Proofs.Value.Rank
import Proviso.Proofs.Value.Ordering
import Proviso.Proofs.Value.Equality
import Proviso.Proofs.Text.Lowercase
import Proviso.Proofs.Value.Case
import Proviso.Proofs.Condition.Case
import Proviso.Proofs.Token.Layout
import Proviso.Proofs.Grammar.Depth
import Proviso.Proofs.Condition.Chains
import Proviso.Proofs.Schema.Reachable
import Proviso.Proofs.Function.Stretches
import Proviso.Proofs.Fault.Location
import Proviso.Proofs.Function.Ordinal
import Proviso.Proofs.Number.Numerals
import Proviso.Proofs.Pattern.Language
import Proviso.Proofs.Function.Classifiers
import Proviso.Proofs.Grammar.Height
import Proviso.Proofs.Grammar.Nesting
import Proviso.Proofs.Message.Plan
