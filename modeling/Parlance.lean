import Parlance.Arithmetic.Reduction
import Parlance.Evaluation.Meaning
import Parlance.Proofs.Pattern.Anchor
import Parlance.Proofs.Tree.Round
import Parlance.Proofs.Tree.Placement
import Parlance.Proofs.Tree.RoundTrip
import Parlance.Proofs.Tree.Description
import Parlance.Proofs.Tree.Acceptance
import Parlance.Proofs.Arithmetic.Derivation
import Parlance.Proofs.Arithmetic.Item
import Parlance.Proofs.Arithmetic.Soundness
import Parlance.Proofs.Arithmetic.Scan
import Parlance.Proofs.Arithmetic.Completeness
import Parlance.Proofs.Arithmetic.Quoted
import Parlance.Proofs.Arithmetic.Precedence
import Parlance.Proofs.Arithmetic.Row
import Parlance.Proofs.Arithmetic.Building
import Parlance.Proofs.Arithmetic.Conditional
import Parlance.Proofs.Grammar.Cursor
import Parlance.Proofs.Evaluation.Location
import Parlance.Proofs.Arithmetic.Canonical
import Parlance.Proofs.Grammar.Cause
import Parlance.Proofs.Grammar.Representation
import Parlance.Proofs.Evaluation.Isolation
import Parlance.Proofs.Evaluation.Strictness
import Parlance.Proofs.Evaluation.Overlay
import Parlance.Proofs.Evaluation.Binding
import Parlance.Proofs.Arithmetic.Backtracking
import Parlance.Proofs.Arithmetic.Reading
import Parlance.Proofs.Grammar.Listing
import Parlance.Proofs.Grammar.Closure
import Parlance.Proofs.Grammar.Extension
import Parlance.Proofs.Evaluation.Mention
import Parlance.Proofs.Pattern.Longest
import Parlance.Proofs.Pattern.Blank
import Parlance.Proofs.Tree.Spacing
import Parlance.Proofs.Arithmetic.Blank
import Parlance.Proofs.Arithmetic.Origins
import Parlance.Proofs.Tree.Enclosing
import Parlance.Proofs.Arithmetic.Enclosing
import Parlance.Proofs.Evaluation.Transparency
import Parlance.Proofs.Arithmetic.Calling
import Parlance.Proofs.Arithmetic.Segment
import Parlance.Proofs.Evaluation.Arguments
import Parlance.Proofs.Evaluation.Logging
import Parlance.Proofs.Evaluation.Order
import Parlance.Proofs.Evaluation.Effect
import Parlance.Proofs.Tree.Content
import Parlance.Proofs.Tree.Failure
import Parlance.Proofs.Arithmetic.Content
import Parlance.Proofs.Arithmetic.Window
import Parlance.Proofs.Arithmetic.Rewriting
import Parlance.Proofs.Arithmetic.Alternation
import Parlance.Proofs.Arithmetic.Fault
import Parlance.Proofs.Number.Form
import Parlance.Proofs.Arithmetic.Literal
import Parlance.Proofs.Arithmetic.Span
import Parlance.Proofs.Value.Rendering
import Parlance.Proofs.Value.Equality
import Parlance.Proofs.Value.Comparison
import Parlance.Proofs.Arithmetic.Escaping
import Parlance.Proofs.Arithmetic.Spelling
import Parlance.Proofs.Evaluation.Separation
import Parlance.Proofs.Evaluation.Slicing
import Parlance.Proofs.Value.Bits
import Parlance.Proofs.Evaluation.Indexing
import Parlance.Proofs.Evaluation.Searching
