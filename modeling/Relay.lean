import Relay.Delivery.ArgType
import Relay.Delivery.Dispatcher
import Relay.Delivery.Envelope
import Relay.Delivery.Event
import Relay.Delivery.Interface
import Relay.Delivery.Session
import Relay.Delivery.World
import Relay.Generator.Accessor
import Relay.Generator.Argument
import Relay.Generator.Code
import Relay.Generator.Diagnostic
import Relay.Generator.Dispatch
import Relay.Generator.Emission
import Relay.Generator.Expansion
import Relay.Generator.Generation
import Relay.Generator.Plan
import Relay.Generator.Proxy
import Relay.Generator.Registry
import Relay.Interface.Classification
import Relay.Interface.Declaration
import Relay.Interface.Description
import Relay.Interface.KnownTypes
import Relay.Interface.Lowering
import Relay.Interface.Ownership
import Relay.Interface.Synthesis
import Relay.Interface.TypeDesc
import Relay.Json.Reader
import Relay.Json.Writer
import Relay.Number.Binary
import Relay.Number.NumberText
import Relay.Number.Shortest
import Relay.Proofs.Delivery.Accounting
import Relay.Proofs.Delivery.Attribution
import Relay.Proofs.Delivery.Channels
import Relay.Proofs.Delivery.Closing
import Relay.Proofs.Delivery.Dispatching
import Relay.Proofs.Delivery.Draining
import Relay.Proofs.Delivery.Flavors
import Relay.Proofs.Delivery.Holders
import Relay.Proofs.Delivery.Lifetimes
import Relay.Proofs.Delivery.Mailboxes
import Relay.Proofs.Delivery.Marshalling
import Relay.Proofs.Delivery.Openness
import Relay.Proofs.Delivery.Prospects
import Relay.Proofs.Delivery.Readiness
import Relay.Proofs.Delivery.RemoteCall
import Relay.Proofs.Delivery.Requests
import Relay.Proofs.Delivery.Runs
import Relay.Proofs.Delivery.Senders
import Relay.Proofs.Delivery.Soundness
import Relay.Proofs.Delivery.Ways
import Relay.Proofs.Extension
import Relay.Proofs.Generator.Arguments
import Relay.Proofs.Generator.Bindings
import Relay.Proofs.Generator.Capture
import Relay.Proofs.Generator.Emitted
import Relay.Proofs.Generator.Endings
import Relay.Proofs.Generator.Expansions
import Relay.Proofs.Generator.Halves
import Relay.Proofs.Generator.Plans
import Relay.Proofs.Generator.Readback
import Relay.Proofs.Generator.Reports
import Relay.Proofs.Generator.Surfaces
import Relay.Proofs.Interface.Coverings
import Relay.Proofs.Interface.LastSegments
import Relay.Proofs.Interface.Loans
import Relay.Proofs.Interface.Rewriting
import Relay.Proofs.Interface.Synthesis
import Relay.Proofs.Lists
import Relay.Proofs.Source.Continuations
import Relay.Proofs.Source.Names
import Relay.Proofs.Source.PlainWords
import Relay.Proofs.Source.Renderings
import Relay.Proofs.Source.Spellings
import Relay.Proofs.Source.Suffixes
import Relay.Proofs.Source.TypePhrases
import Relay.Proofs.Source.Words
import Relay.Proofs.Text.ByteOrder
import Relay.Proofs.Value.Accessors
import Relay.Proofs.Value.Canonical
import Relay.Proofs.Value.Extent
import Relay.Proofs.Value.Level
import Relay.Proofs.Value.Settling
import Relay.Proofs.Value.Slots
import Relay.Proofs.Wire.Assembly
import Relay.Proofs.Wire.Comparison
import Relay.Proofs.Wire.Grammar
import Relay.Proofs.Wire.Layout
import Relay.Proofs.Wire.Leaves
import Relay.Proofs.Wire.Limits
import Relay.Proofs.Wire.Matching
import Relay.Proofs.Wire.Normalisation
import Relay.Proofs.Wire.Progress
import Relay.Proofs.Wire.RoundTrip
import Relay.Proofs.Wire.Stopping
import Relay.Proofs.Wire.Streams
import Relay.Proofs.Wire.Truncation
import Relay.Proofs.Wire.TypedStore
import Relay.Sample.Interfaces
import Relay.Sample.Records
import Relay.Source.Grammar
import Relay.Source.Grammar.Expressions
import Relay.Source.Grammar.Items
import Relay.Source.Grammar.Patterns
import Relay.Source.Grammar.Statements
import Relay.Source.Grammar.Types
import Relay.Source.Identifier
import Relay.Source.Item
import Relay.Source.Lexer
import Relay.Source.Literal
import Relay.Source.Parser
import Relay.Source.Reading
import Relay.Source.Token
import Relay.Source.TypeExpr
import Relay.Text.Quoted
import Relay.Text.Ranges
import Relay.Value.Bundle
import Relay.Value.Category
import Relay.Value.Ordered
import Relay.Value.Payload
import Relay.Value.Shown
import Relay.Value.Slot
import Relay.Wire.LittleEndian
import Relay.Wire.Reader
import Relay.Wire.Tag
import Relay.Wire.WireError
import Relay.Wire.Writer
