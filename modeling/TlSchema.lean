import TlSchema.Main
import TlSchema.Registry.Encode
import TlSchema.Schema.Printer
import TlSchema.Wire.Item
import TlSchema.Proofs.Accepted
import TlSchema.Proofs.FieldMaps
import TlSchema.Proofs.Taking
import TlSchema.Proofs.Routing
import TlSchema.Proofs.Appending
import TlSchema.Proofs.Plans
import TlSchema.Proofs.Emission
import TlSchema.Proofs.Defaults
import TlSchema.Proofs.InStep
import TlSchema.Proofs.Canonical
import TlSchema.Proofs.RoundTrip
import TlSchema.Proofs.LayoutAgreement
import TlSchema.Proofs.FlagTracking
import TlSchema.Proofs.StaleFlags
import TlSchema.Proofs.Divergence
import TlSchema.Proofs.Delegation
import TlSchema.Proofs.Strictness
import TlSchema.Proofs.Locality
import TlSchema.Proofs.Extension
import TlSchema.Proofs.Growth
import TlSchema.Proofs.Blocks
import TlSchema.Proofs.Literals
import TlSchema.Proofs.Numerals
import TlSchema.Proofs.Spelling
import TlSchema.Proofs.Reprinting
import TlSchema.Proofs.WriteErrors
import TlSchema.Proofs.Closure
import TlSchema.Proofs.Completeness
import TlSchema.Proofs.Reencoding
import TlSchema.Proofs.Symbols
import TlSchema.Proofs.RepeatedNumbers
import TlSchema.Proofs.ScannedBlocks
import TlSchema.Proofs.Joining
import TlSchema.Proofs.FieldGuards
import TlSchema.Proofs.Refusals
import TlSchema.Proofs.MissingFields
import TlSchema.Proofs.UnsetObjects
import TlSchema.Proofs.Rules
import TlSchema.Proofs.Branches
import TlSchema.Proofs.WholeWords
import TlSchema.Proofs.WriteSequences
import TlSchema.Proofs.LengthForms
import TlSchema.Proofs.Identifiers
import TlSchema.Proofs.RenderedBlocks
import TlSchema.Proofs.Documents
import TlSchema.Proofs.OutputNames
import TlSchema.Proofs.TokenPlaces
import TlSchema.Proofs.Streams
