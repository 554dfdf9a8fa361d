import BracketDecoration.Decoration.Manager
import BracketDecoration.Grammar.Metered
import BracketDecoration.Settings.Reader
import BracketDecoration.Proofs.Decoration.Actions
import BracketDecoration.Proofs.Settings.Layering
import BracketDecoration.Proofs.Decoration.Lifecycle
import BracketDecoration.Proofs.Decoration.Delivery
import BracketDecoration.Proofs.Settings.Concatenation
import BracketDecoration.Proofs.Decoration.Throttling
import BracketDecoration.Proofs.Decoration.Cooldown
import BracketDecoration.Proofs.Grammar.Availability
import BracketDecoration.Proofs.Grammar.Sharing
import BracketDecoration.Proofs.Settings.Validation
import BracketDecoration.Proofs.Decoration.Legality
import BracketDecoration.Proofs.Decoration.Noninterference
import BracketDecoration.Proofs.Decoration.Projection
import BracketDecoration.Proofs.Grammar.Builtin
import BracketDecoration.Proofs.Decoration.Independence
import BracketDecoration.Proofs.Decoration.Containment
import BracketDecoration.Proofs.Decoration.Renewal
import BracketDecoration.Proofs.Decoration.Overrides
import BracketDecoration.Proofs.Decoration.Messages
import BracketDecoration.Proofs.Text.ByteOrder
import BracketDecoration.Proofs.Grammar.Registration
import BracketDecoration.Proofs.Grammar.Recovery
import BracketDecoration.Proofs.Settings.Acceptance
import BracketDecoration.Proofs.Decoration.Reliability
import BracketDecoration.Proofs.Decoration.Identity
import BracketDecoration.Proofs.Text.Casing
import BracketDecoration.Proofs.Settings.FirstFault
import BracketDecoration.Proofs.Settings.FirstViolation
import BracketDecoration.Proofs.Settings.WellFormed
import BracketDecoration.Proofs.Settings.Significance
import BracketDecoration.Proofs.Decoration.Atomicity
import BracketDecoration.Proofs.Settings.Merging
import BracketDecoration.Proofs.Settings.Timeouts
import BracketDecoration.Proofs.Grammar.Components
import BracketDecoration.Proofs.Decoration.Sweep
