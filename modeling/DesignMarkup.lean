import DesignMarkup.Main
import DesignMarkup.Proofs.Markup.CacheSoundness
import DesignMarkup.Proofs.Markup.HookFailures
import DesignMarkup.Proofs.Markup.RunCount
import DesignMarkup.Storage.Workspace
import DesignMarkup.Proofs.Layer.Emission
import DesignMarkup.Proofs.Layer.PaintOrder
import DesignMarkup.Proofs.Decimal.Whole
import DesignMarkup.Proofs.Json.Record
import DesignMarkup.Proofs.Style.RoundTrip
import DesignMarkup.Proofs.Element.RoundTrip
import DesignMarkup.Proofs.Layer.ReadBack
import DesignMarkup.Proofs.Decimal.Text
import DesignMarkup.Proofs.Json.Compact
import DesignMarkup.Proofs.Style.Printed
import DesignMarkup.Proofs.Markup.Outline
import DesignMarkup.Proofs.Markup.UniqueReading
import DesignMarkup.Proofs.Config.Mapping
import DesignMarkup.Proofs.Element.Repeats
import DesignMarkup.Proofs.Layer.Emitted
import DesignMarkup.Proofs.Layer.Soundness
import DesignMarkup.Proofs.Style.Background
import DesignMarkup.Proofs.Import.Conflict
import DesignMarkup.Proofs.Finding.Account
import DesignMarkup.Proofs.Finding.Resolution
import DesignMarkup.Proofs.Command.Placeholders
import DesignMarkup.Proofs.Import.Rearrangement
import DesignMarkup.Proofs.Sandbox.Closure
import DesignMarkup.Proofs.Layer.Damage
import DesignMarkup.Proofs.Markup.Termination
import DesignMarkup.Proofs.Markup.Independence
import DesignMarkup.Proofs.Sandbox.Reference
import DesignMarkup.Proofs.Layer.Positioning
import DesignMarkup.Proofs.Import.Binding
import DesignMarkup.Proofs.Import.Importable
import DesignMarkup.Proofs.Layer.AttributeNames
import DesignMarkup.Proofs.Layer.Stretching
import DesignMarkup.Proofs.Layer.Hidden
import DesignMarkup.Proofs.Layer.HiddenTraces
import DesignMarkup.Proofs.Command.Failures
import DesignMarkup.Proofs.Layer.FillOrder
import DesignMarkup.Proofs.Layer.TextPaint
import DesignMarkup.Proofs.Layer.ImageSize
import DesignMarkup.Proofs.Text.Brackets
import DesignMarkup.Proofs.Layer.SheetReading
import DesignMarkup.Proofs.Layer.Coherence
import DesignMarkup.Proofs.Markup.Depth
import DesignMarkup.Proofs.Markup.CharacterReference
import DesignMarkup.Proofs.Sandbox.Naming
import DesignMarkup.Proofs.Layer.PropertyName
import DesignMarkup.Proofs.Layer.Properties
import DesignMarkup.Proofs.Sandbox.Spelling
import DesignMarkup.Proofs.Sandbox.Versions
import DesignMarkup.Proofs.Sandbox.Confinement
import DesignMarkup.Proofs.Storage
import DesignMarkup.Proofs.Layer.VectorFiles
import DesignMarkup.Proofs.Finding.Filter
import DesignMarkup.Proofs.Element.Validity
import DesignMarkup.Proofs.Import.Reading
import DesignMarkup.Proofs.Style.Collision
import DesignMarkup.Proofs.Style.Extra
import DesignMarkup.Proofs.Finding.Index
import DesignMarkup.Proofs.Sandbox.Page
import DesignMarkup.Proofs.Layer.FirstText
