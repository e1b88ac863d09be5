import Stencil.Run
import Stencil.Path.Reference
import Stencil.Path.Parts
import Stencil.Transpile
import Stencil.Clock
import Stencil.Command
import Stencil.Proofs.Run
import Stencil.Proofs.Transpile
import Stencil.Proofs.Lines
import Stencil.Proofs.TypeSyntax
import Stencil.Proofs.Separation
import Stencil.Proofs.Loads
import Stencil.Proofs.Repetition
import Stencil.Proofs.Collisions
import Stencil.Proofs.Timers
import Stencil.Proofs.Discovery
import Stencil.Proofs.Uncaught
import Stencil.Proofs.Waiting
import Stencil.Proofs.Namespaces
import Stencil.Proofs.Reopening
import Stencil.Proofs.Defaults
import Stencil.Proofs.Properties
import Stencil.Proofs.EnumObjects
import Stencil.Proofs.Enums
import Stencil.Proofs.Initializers
import Stencil.Proofs.Successors
import Stencil.Proofs.ArrowHeads
import Stencil.Proofs.Encodings
import Stencil.Proofs.Refusals
import Stencil.Proofs.Hexadecimal
import Stencil.Proofs.Layouts
import Stencil.Proofs.Spellings
import Stencil.Proofs.Rewriting
import Stencil.Proofs.Buffers
