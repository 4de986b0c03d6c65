import Bxml.Binary64.Basic
import Bxml.Binary64.Round
import Bxml.Binary64.Shortest
import Bxml.Binary64.Text
import Bxml.Bundle.Basic
import Bxml.Bundle.Loader
import Bxml.CommandLine.Arguments
import Bxml.CommandLine.Run
import Bxml.Dump
import Bxml.Encoding.Basic
import Bxml.Encoding.ChineseTable
import Bxml.Encoding.Decode
import Bxml.Encoding.JisTable
import Bxml.Encoding.KoreanTable
import Bxml.Encoding.SingleByteTable
import Bxml.Encoding.TaiwanTable
import Bxml.Entries
import Bxml.Host
import Bxml.Inspect.Basic
import Bxml.Inspect.Listener
import Bxml.Inspect.World
import Bxml.Interface
import Bxml.Json.Access
import Bxml.Json.Basic
import Bxml.Json.Overlay
import Bxml.Json.Parser
import Bxml.Json.Printer
import Bxml.Listening
import Bxml.Load.Attribute
import Bxml.Load.Binding
import Bxml.Load.Closing
import Bxml.Load.Code
import Bxml.Load.Composition
import Bxml.Load.Document
import Bxml.Load.Draft
import Bxml.Load.Element
import Bxml.Load.Error
import Bxml.Load.Fault
import Bxml.Load.Inclusion
import Bxml.Load.Installing
import Bxml.Load.Loader
import Bxml.Load.Opening
import Bxml.Load.ScriptText
import Bxml.Locale
import Bxml.Main
import Bxml.Proofs.Binary64.Rounding
import Bxml.Proofs.Binary64.Shortest
import Bxml.Proofs.Binary64.Text
import Bxml.Proofs.Binary64.Whole
import Bxml.Proofs.Bundle.Loader
import Bxml.Proofs.Bundle.Values
import Bxml.Proofs.Coercion
import Bxml.Proofs.Entries
import Bxml.Proofs.Json.Fields
import Bxml.Proofs.Json.Ordered
import Bxml.Proofs.Json.Overlay
import Bxml.Proofs.Json.Precedence
import Bxml.Proofs.Listening
import Bxml.Proofs.Listening.Adapters
import Bxml.Proofs.Listening.Copies
import Bxml.Proofs.Listening.Firing
import Bxml.Proofs.Load.Attached
import Bxml.Proofs.Load.AttributeForms
import Bxml.Proofs.Load.Below
import Bxml.Proofs.Load.Bindings
import Bxml.Proofs.Load.Calls
import Bxml.Proofs.Load.Chains
import Bxml.Proofs.Load.Contents
import Bxml.Proofs.Load.Cycles
import Bxml.Proofs.Load.Depth
import Bxml.Proofs.Load.Enduring
import Bxml.Proofs.Load.Errors
import Bxml.Proofs.Load.EventScripts
import Bxml.Proofs.Load.Failures
import Bxml.Proofs.Load.Handing
import Bxml.Proofs.Load.Handover
import Bxml.Proofs.Load.Holding
import Bxml.Proofs.Load.Ids
import Bxml.Proofs.Load.InlineIncludes
import Bxml.Proofs.Load.Inlining
import Bxml.Proofs.Load.Internal
import Bxml.Proofs.Load.Isolation
import Bxml.Proofs.Load.Lasting
import Bxml.Proofs.Load.Links
import Bxml.Proofs.Load.Moments
import Bxml.Proofs.Load.Nesting
import Bxml.Proofs.Load.Outermost
import Bxml.Proofs.Load.Parents
import Bxml.Proofs.Load.Paths
import Bxml.Proofs.Load.Portable
import Bxml.Proofs.Load.Provenance
import Bxml.Proofs.Load.Reports
import Bxml.Proofs.Load.Resources
import Bxml.Proofs.Load.Scripts
import Bxml.Proofs.Load.Separation
import Bxml.Proofs.Load.Shapes
import Bxml.Proofs.Load.Splicing
import Bxml.Proofs.Load.Steps
import Bxml.Proofs.Load.Trees
import Bxml.Proofs.Observing.Activity
import Bxml.Proofs.Observing.History
import Bxml.Proofs.Observing.Idle
import Bxml.Proofs.Observing.Recording
import Bxml.Proofs.Observing.Runs
import Bxml.Proofs.Outcomes
import Bxml.Proofs.Propagation
import Bxml.Proofs.Resource.Directory
import Bxml.Proofs.Resource.FileTree
import Bxml.Proofs.Settling.Becoming
import Bxml.Proofs.Settling.Ends
import Bxml.Proofs.Settling.Flow
import Bxml.Proofs.Settling.Growing
import Bxml.Proofs.Settling.Loose
import Bxml.Proofs.Settling.Readings
import Bxml.Proofs.Settling.Settled
import Bxml.Proofs.Settling.Wiring
import Bxml.Proofs.Spreading
import Bxml.Proofs.Text.Blank
import Bxml.Proofs.Text.Case
import Bxml.Proofs.Text.Visible
import Bxml.Proofs.Twins.Alike
import Bxml.Proofs.Twins.Changes
import Bxml.Proofs.Twins.Closing
import Bxml.Proofs.Twins.Drafts
import Bxml.Proofs.Twins.Itself
import Bxml.Proofs.Twins.Loading
import Bxml.Proofs.Twins.Objects
import Bxml.Proofs.Twins.Opening
import Bxml.Proofs.Twins.Ops
import Bxml.Proofs.Twins.Propagation
import Bxml.Proofs.Twins.Values
import Bxml.Proofs.Twins.Worlds
import Bxml.Proofs.Unfolding
import Bxml.Proofs.Url.Visible
import Bxml.Proofs.Watching
import Bxml.Proofs.World.Agreeing
import Bxml.Proofs.World.Alive
import Bxml.Proofs.World.Altering
import Bxml.Proofs.World.Dictionaries
import Bxml.Proofs.World.Gathering
import Bxml.Proofs.World.Ids
import Bxml.Proofs.World.Lasting
import Bxml.Proofs.World.Listeners
import Bxml.Proofs.World.Places
import Bxml.Proofs.World.Regions
import Bxml.Proofs.World.Slots
import Bxml.Proofs.World.Writing
import Bxml.Proofs.Xml.Lines
import Bxml.Proofs.Xml.Namespaces
import Bxml.Proofs.Xml.Outline
import Bxml.Proofs.Xml.Prefixes
import Bxml.Proofs.Xml.Scanning
import Bxml.Proofs.Xml.Stretches
import Bxml.Proofs.Zones.Closing
import Bxml.Proofs.Zones.Collecting
import Bxml.Proofs.Zones.Containers
import Bxml.Proofs.Zones.Declared
import Bxml.Proofs.Zones.Hidden
import Bxml.Proofs.Zones.Opening
import Bxml.Proofs.Zones.Ops
import Bxml.Propagation
import Bxml.Resource.Basic
import Bxml.Resource.Directory
import Bxml.Resource.FileTree
import Bxml.Resource.Memory
import Bxml.Script.Engine
import Bxml.Script.Languages
import Bxml.Text.Blank
import Bxml.Text.Case
import Bxml.Text.CaseTable
import Bxml.Text.Decimal
import Bxml.Text.HiddenTable
import Bxml.Text.Quoted
import Bxml.Text.Utf8
import Bxml.Types.Descriptor
import Bxml.Types.Factory
import Bxml.Types.Registry
import Bxml.Url.Basic
import Bxml.Url.FilePath
import Bxml.Url.Host
import Bxml.Url.Parser
import Bxml.Url.Percent
import Bxml.Url.Punycode
import Bxml.Value
import Bxml.ValueType
import Bxml.Vote
import Bxml.World.Alive
import Bxml.World.Basic
import Bxml.World.Object
import Bxml.World.Op
import Bxml.World.Reach
import Bxml.World.Table
import Bxml.Xml.Attributes
import Bxml.Xml.Document
import Bxml.Xml.Fault
import Bxml.Xml.Location
import Bxml.Xml.Prefixes
import Bxml.Xml.Token
import Bxml.Xml.Unescape
