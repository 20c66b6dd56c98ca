import Stencil.Action
import Stencil.Call
import Stencil.Context
import Stencil.Failure
import Stencil.Feed
import Stencil.Join
import Stencil.Progression
import Stencil.Proofs.Adapters
import Stencil.Proofs.Address
import Stencil.Proofs.Advance
import Stencil.Proofs.Arity
import Stencil.Proofs.Binding
import Stencil.Proofs.Choice
import Stencil.Proofs.Composition
import Stencil.Proofs.Delivery
import Stencil.Proofs.Depth
import Stencil.Proofs.Flattening
import Stencil.Proofs.Folding
import Stencil.Proofs.Grouping
import Stencil.Proofs.Inlining
import Stencil.Proofs.Iteration
import Stencil.Proofs.JoinRun
import Stencil.Proofs.Joinable
import Stencil.Proofs.Laziness
import Stencil.Proofs.Lineage
import Stencil.Proofs.Lockstep
import Stencil.Proofs.Modes
import Stencil.Proofs.Numbering
import Stencil.Proofs.Observation
import Stencil.Proofs.Outcome
import Stencil.Proofs.Provenance
import Stencil.Proofs.Rebinding
import Stencil.Proofs.Renaming.Correspondence
import Stencil.Proofs.Renaming.Operation
import Stencil.Proofs.Renaming.Run
import Stencil.Proofs.Renaming.Value
import Stencil.Proofs.SingleElement
import Stencil.Proofs.Trace
import Stencil.Rebind
import Stencil.Render
import Stencil.Script.Apply
import Stencil.Script.Compute
import Stencil.Script.Declaration
import Stencil.Script.Eval
import Stencil.Script.Expr
import Stencil.Script.Session
import Stencil.Shape
import Stencil.Signature
import Stencil.Signature.Order
import Stencil.Template
import Stencil.Text.Digit
import Stencil.Text.Identifier
import Stencil.Text.Printable
import Stencil.Text.Quoted
import Stencil.Text.Ranges
import Stencil.Value.Arithmetic
import Stencil.Value.Basic
import Stencil.Value.Dict
import Stencil.Value.Equality
import Stencil.Value.Sharing
import Stencil.Value.Text
import Stencil.Value.Writable
