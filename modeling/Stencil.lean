import Stencil.Main
import Stencil.Proofs.Schema.Spelling
import Stencil.Proofs.Schema.Extraction
import Stencil.Proofs.Schema.ClauseSpelling
import Stencil.Proofs.Schema.ReadBack
import Stencil.Proofs.Schema.RoundTrip
import Stencil.Proofs.Schema.Exchange
import Stencil.Proofs.Input.Echo
import Stencil.Proofs.Input.Collection
import Stencil.Proofs.Prompt.Collection
import Stencil.Proofs.Prompt.Choice
import Stencil.Proofs.Prompt.Preset
import Stencil.Proofs.Settings.LogPath
import Stencil.Proofs.Time.Printed
import Stencil.Proofs.Rendering.Annotation
import Stencil.Proofs.Rendering.Leak
import Stencil.Proofs.Command.Rendering
import Stencil.Proofs.Command.Frame
import Stencil.Proofs.Schema.ClauseGrammar
import Stencil.Proofs.Schema.LastClause
import Stencil.Proofs.Time.FormOrder
import Stencil.Proofs.Time.Instant
import Stencil.Proofs.Time.Offset
import Stencil.Proofs.Time.Zulu
import Stencil.Proofs.Number.IntegerText
import Stencil.Proofs.Time.Fields
import Stencil.Proofs.Time.Separator
import Stencil.Proofs.Number.Truncation
import Stencil.Proofs.Input.Integer
import Stencil.Proofs.Input.IntegerLiteral
import Stencil.Proofs.Input.Widening
import Stencil.Proofs.Input.ItemText
import Stencil.Proofs.Schema.UnquotedValue
import Stencil.Proofs.Schema.Plainness
import Stencil.Proofs.Number.Nearest
import Stencil.Proofs.Schema.BoundLiteral
