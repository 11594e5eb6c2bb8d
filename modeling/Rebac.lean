import Rebac.Access.Checks
import Rebac.Access.Failure
import Rebac.Access.Inspection
import Rebac.Access.Mutation
import Rebac.Access.Permissions
import Rebac.Access.Session
import Rebac.Accessor
import Rebac.Bindings.ConditionPlan
import Rebac.Bindings.Error
import Rebac.Bindings.Identifier
import Rebac.Bindings.Outline
import Rebac.Bindings.SelectorTable
import Rebac.Bindings.Source
import Rebac.Bindings.TypePlan
import Rebac.Calendar.Date
import Rebac.Calendar.Instant
import Rebac.Command.Arguments
import Rebac.Command.Files
import Rebac.Command.Filter
import Rebac.Command.Level
import Rebac.Command.Notice
import Rebac.Command.Pattern
import Rebac.Command.Run
import Rebac.Condition.Attached
import Rebac.Condition.Context
import Rebac.Condition.Value
import Rebac.Decimal.Binary64
import Rebac.Decimal.Extended
import Rebac.Decimal.Layout
import Rebac.Decimal.Shortest
import Rebac.Engine.Basic
import Rebac.Engine.Error
import Rebac.Engine.Recorded
import Rebac.Engine.Scripted
import Rebac.Http.Body
import Rebac.Http.Client
import Rebac.Http.Exchange
import Rebac.Http.Session
import Rebac.Http.Status
import Rebac.Json.Basic
import Rebac.Json.Fault
import Rebac.Json.Number
import Rebac.Json.Printer
import Rebac.Json.Reader
import Rebac.Json.Record
import Rebac.Json.Shape
import Rebac.Json.Skip
import Rebac.Keyed
import Rebac.Main
import Rebac.Naming.Canonical
import Rebac.Naming.Reference
import Rebac.Naming.Selector
import Rebac.Proofs.Access.Agreement
import Rebac.Proofs.Access.Checks
import Rebac.Proofs.Access.Continuation
import Rebac.Proofs.Access.History
import Rebac.Proofs.Access.Inspection
import Rebac.Proofs.Access.Mutation
import Rebac.Proofs.Access.Observation
import Rebac.Proofs.Access.Reached
import Rebac.Proofs.Access.ScriptedFailure
import Rebac.Proofs.Access.Validation
import Rebac.Proofs.Accessor
import Rebac.Proofs.Bindings.ArgumentName
import Rebac.Proofs.Bindings.Capability
import Rebac.Proofs.Bindings.ConditionModule
import Rebac.Proofs.Bindings.ConditionPlan
import Rebac.Proofs.Bindings.ContextFunction
import Rebac.Proofs.Bindings.Declaration
import Rebac.Proofs.Bindings.Distinct
import Rebac.Proofs.Bindings.Entity
import Rebac.Proofs.Bindings.FreeText
import Rebac.Proofs.Bindings.Heading
import Rebac.Proofs.Bindings.Identifier
import Rebac.Proofs.Bindings.Lexeme
import Rebac.Proofs.Bindings.Nesting
import Rebac.Proofs.Bindings.Outline
import Rebac.Proofs.Bindings.Plain
import Rebac.Proofs.Bindings.Plan
import Rebac.Proofs.Bindings.PolicyIndependence
import Rebac.Proofs.Bindings.References
import Rebac.Proofs.Bindings.Scope
import Rebac.Proofs.Bindings.Selector
import Rebac.Proofs.Bindings.SelectorTable
import Rebac.Proofs.Bindings.SelectorText
import Rebac.Proofs.Bindings.Spelling
import Rebac.Proofs.Bindings.TypeName
import Rebac.Proofs.Calendar.Gregorian
import Rebac.Proofs.Calendar.Wire
import Rebac.Proofs.Condition.Context
import Rebac.Proofs.Condition.Duration
import Rebac.Proofs.Condition.Timestamp
import Rebac.Proofs.Decimal.Binary64
import Rebac.Proofs.Decimal.Numeral
import Rebac.Proofs.Decimal.Shortest
import Rebac.Proofs.Engine.Allowed
import Rebac.Proofs.Engine.Stored
import Rebac.Proofs.Except
import Rebac.Proofs.Http.Answer
import Rebac.Proofs.Http.Base
import Rebac.Proofs.Http.Batch
import Rebac.Proofs.Http.FailClosed
import Rebac.Proofs.Http.Page
import Rebac.Proofs.Http.Paging
import Rebac.Proofs.Http.Parts
import Rebac.Proofs.Http.Provisioning
import Rebac.Proofs.Http.Retry
import Rebac.Proofs.Http.Stopping
import Rebac.Proofs.Http.Transcript
import Rebac.Proofs.Http.Writes
import Rebac.Proofs.Json.Field
import Rebac.Proofs.Json.Reading
import Rebac.Proofs.Json.Record
import Rebac.Proofs.Json.Same
import Rebac.Proofs.Json.Typed
import Rebac.Proofs.Keyed
import Rebac.Proofs.Naming.Canonical
import Rebac.Proofs.Naming.Idempotence
import Rebac.Proofs.Naming.Reference
import Rebac.Proofs.Naming.Words
import Rebac.Proofs.Schema.Grammar
import Rebac.Proofs.Schema.Listing
import Rebac.Proofs.Schema.Loaded
import Rebac.Proofs.Schema.Lookup
import Rebac.Proofs.Schema.Record
import Rebac.Proofs.Schema.Userset
import Rebac.Proofs.Settings.Layer
import Rebac.Proofs.Settings.Load
import Rebac.Proofs.Settings.Setting
import Rebac.Proofs.Text.Affix
import Rebac.Proofs.Text.Blank
import Rebac.Proofs.Text.Case
import Rebac.Proofs.Text.Digit
import Rebac.Proofs.Text.Lowering
import Rebac.Proofs.Text.Quoted
import Rebac.Proofs.Tuple
import Rebac.Proofs.Yaml.Node
import Rebac.Sample
import Rebac.Schema.Basic
import Rebac.Schema.Document
import Rebac.Schema.LoadError
import Rebac.Schema.Record
import Rebac.Settings.Basic
import Rebac.Settings.Layer
import Rebac.Settings.Load
import Rebac.Text.Affix
import Rebac.Text.Alphanumeric
import Rebac.Text.AlphanumericData
import Rebac.Text.Blank
import Rebac.Text.Case
import Rebac.Text.CaseData
import Rebac.Text.Combining
import Rebac.Text.CombiningData
import Rebac.Text.Composition
import Rebac.Text.CompositionData
import Rebac.Text.Digit
import Rebac.Text.Direction
import Rebac.Text.DirectionData
import Rebac.Text.Joining
import Rebac.Text.JoiningData
import Rebac.Text.Packed
import Rebac.Text.Percent
import Rebac.Text.Quoted
import Rebac.Text.Run
import Rebac.Tuple
import Rebac.Url.Authority
import Rebac.Url.Basic
import Rebac.Url.Host
import Rebac.Url.Ipv4
import Rebac.Url.Ipv6
import Rebac.Url.Name
import Rebac.Url.NameData
import Rebac.Url.Path
import Rebac.Url.Punycode
import Rebac.Url.Reader
import Rebac.Url.Scheme
import Rebac.Yaml.Basic
import Rebac.Yaml.Block
import Rebac.Yaml.Cursor
import Rebac.Yaml.Node
import Rebac.Yaml.Property
import Rebac.Yaml.Scalar
import Rebac.Yaml.Token
import Rebac.Yaml.Word
