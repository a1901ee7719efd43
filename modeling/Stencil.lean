import Stencil.Files.Tree
import Stencil.Main
import Stencil.Proofs.Calendar
import Stencil.Proofs.CommandLine.Strictness
import Stencil.Proofs.Expansion.Calls
import Stencil.Proofs.Expansion.Concatenation
import Stencil.Proofs.Expansion.Evaluations
import Stencil.Proofs.Expansion.LetterCase
import Stencil.Proofs.Expansion.Modes
import Stencil.Proofs.Expansion.Reasons
import Stencil.Proofs.Expansion.Record
import Stencil.Proofs.Expansion.Registered
import Stencil.Proofs.Expansion.Stepwise
import Stencil.Proofs.Expansion.WildcardToken
import Stencil.Proofs.Member.History
import Stencil.Proofs.Member.Invocation
import Stencil.Proofs.Member.Spelling
import Stencil.Proofs.Settings.Acceptance
import Stencil.Proofs.Settings.Collisions
import Stencil.Proofs.Settings.ForeignVariables
import Stencil.Proofs.Settings.View
import Stencil.Proofs.Storage.ListedKeys
import Stencil.Proofs.Template.Arguments
import Stencil.Proofs.Template.Concatenation
import Stencil.Proofs.Template.Rendering
import Stencil.Proofs.Template.Unambiguous
import Stencil.Proofs.Text.ByteOrder
import Stencil.Proofs.Value.Frame
import Stencil.Proofs.Value.Lens
import Stencil.Proofs.Value.Position
import Stencil.Proofs.Value.Walking
import Stencil.Proofs.Wildcard.Targets
import Stencil.Proofs.Wiring.Meaning
import Stencil.Proofs.Wiring.Registration
import Stencil.Proofs.Wiring.Resolvable
import Stencil.Proofs.Wiring.RoundTrip
import Stencil.Proofs.Wiring.Runs
import Stencil.Proofs.Wiring.SettingsWildcard
import Stencil.Proofs.Wiring.UsableNames
import Stencil.Settings.Typed
import Stencil.Text.Dotted
import Stencil.Text.Pair
