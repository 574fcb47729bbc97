import SearchGateway.CommandLine
import SearchGateway.Elastic.Cluster
import SearchGateway.Elastic.Failure
import SearchGateway.Elastic.MediaType
import SearchGateway.Elastic.Payload
import SearchGateway.Elastic.Query
import SearchGateway.Gateway.Console
import SearchGateway.Gateway.Exchange
import SearchGateway.Gateway.Failure
import SearchGateway.Gateway.Handler
import SearchGateway.Gateway.Metrics
import SearchGateway.Gateway.Relay
import SearchGateway.Gateway.Router
import SearchGateway.Gateway.Server
import SearchGateway.Gateway.Setup
import SearchGateway.Http.Body
import SearchGateway.Http.Form
import SearchGateway.Http.Headers
import SearchGateway.Http.MediaNames
import SearchGateway.Http.Message
import SearchGateway.Http.Method
import SearchGateway.Http.Origins
import SearchGateway.Http.Status
import SearchGateway.Json.Basic
import SearchGateway.Json.Binary64
import SearchGateway.Json.Fault
import SearchGateway.Json.Numeral
import SearchGateway.Json.Quotation
import SearchGateway.Json.Reader
import SearchGateway.Json.Shortest
import SearchGateway.Json.Writer
import SearchGateway.Keyed
import SearchGateway.Main
import SearchGateway.NameSet
import SearchGateway.Registry.Name
import SearchGateway.Registry.Policy
import SearchGateway.Registry.Snapshot
import SearchGateway.Registry.Target
import SearchGateway.Registry.Write
import SearchGateway.Routing.Action
import SearchGateway.Routing.Pattern
import SearchGateway.Routing.Route
import SearchGateway.Routing.Standard
import SearchGateway.Routing.Table
import SearchGateway.Security.Credential
import SearchGateway.Security.Directory
import SearchGateway.Security.Guard
import SearchGateway.Security.Operation
import SearchGateway.Security.Requirements
import SearchGateway.Security.Settings
import SearchGateway.Settings.Basic
import SearchGateway.Settings.Decoding
import SearchGateway.Settings.Encoding
import SearchGateway.Settings.File
import SearchGateway.Settings.Validation
import SearchGateway.Text.Base64
import SearchGateway.Text.Blank
import SearchGateway.Text.Case
import SearchGateway.Text.Digest
import SearchGateway.Text.Numeral
import SearchGateway.Text.Pattern
import SearchGateway.Text.Quoted
import SearchGateway.Text.Split
import SearchGateway.Text.Unprintable
import SearchGateway.Text.Utf8
import SearchGateway.Toml.Basic
import SearchGateway.Toml.Quotation
import SearchGateway.Toml.Reader
import SearchGateway.Toml.Tree
import SearchGateway.Toml.Word
import SearchGateway.Toml.Writer
import SearchGateway.Proofs.CommandLine
import SearchGateway.Proofs.Elastic.Lines
import SearchGateway.Proofs.Elastic.MediaRanges
import SearchGateway.Proofs.Elastic.MediaType
import SearchGateway.Proofs.Elastic.Parameters
import SearchGateway.Proofs.Elastic.Payload
import SearchGateway.Proofs.Elastic.Query
import SearchGateway.Proofs.Gateway.Accounting
import SearchGateway.Proofs.Gateway.Addressing
import SearchGateway.Proofs.Gateway.Authorization
import SearchGateway.Proofs.Gateway.Bodies
import SearchGateway.Proofs.Gateway.Console
import SearchGateway.Proofs.Gateway.Counters
import SearchGateway.Proofs.Gateway.CreatePolicy
import SearchGateway.Proofs.Gateway.DeepLink
import SearchGateway.Proofs.Gateway.Denial
import SearchGateway.Proofs.Gateway.Events
import SearchGateway.Proofs.Gateway.Handover
import SearchGateway.Proofs.Gateway.Limits
import SearchGateway.Proofs.Gateway.Matching
import SearchGateway.Proofs.Gateway.MediaTypes
import SearchGateway.Proofs.Gateway.Origins
import SearchGateway.Proofs.Gateway.Passage
import SearchGateway.Proofs.Gateway.Presentation
import SearchGateway.Proofs.Gateway.ProductHeader
import SearchGateway.Proofs.Gateway.Refusal
import SearchGateway.Proofs.Gateway.Relay
import SearchGateway.Proofs.Gateway.Rendering
import SearchGateway.Proofs.Gateway.Reply
import SearchGateway.Proofs.Gateway.Resolution
import SearchGateway.Proofs.Gateway.Selection
import SearchGateway.Proofs.Gateway.TargetIndices
import SearchGateway.Proofs.Http.Body
import SearchGateway.Proofs.Http.Escape
import SearchGateway.Proofs.Http.Headers
import SearchGateway.Proofs.Http.Origins
import SearchGateway.Proofs.Http.Reference
import SearchGateway.Proofs.Json.Depth
import SearchGateway.Proofs.Json.Grammar
import SearchGateway.Proofs.Json.Numeral
import SearchGateway.Proofs.Json.Ordered
import SearchGateway.Proofs.Json.Quotation
import SearchGateway.Proofs.Json.Reading
import SearchGateway.Proofs.Json.Shortest
import SearchGateway.Proofs.Json.Spelling
import SearchGateway.Proofs.Keyed
import SearchGateway.Proofs.Lists
import SearchGateway.Proofs.Outcome
import SearchGateway.Proofs.Registry.Frame
import SearchGateway.Proofs.Registry.Invariant
import SearchGateway.Proofs.Registry.Name
import SearchGateway.Proofs.Registry.Naming
import SearchGateway.Proofs.Registry.Resolution
import SearchGateway.Proofs.Registry.Reversal
import SearchGateway.Proofs.Registry.Seeding
import SearchGateway.Proofs.Registry.Target
import SearchGateway.Proofs.Registry.WriteTargets
import SearchGateway.Proofs.Routing.Building
import SearchGateway.Proofs.Routing.Filling
import SearchGateway.Proofs.Routing.Fitting
import SearchGateway.Proofs.Routing.Precedence
import SearchGateway.Proofs.Routing.Table
import SearchGateway.Proofs.Security.Credential
import SearchGateway.Proofs.Security.Decision
import SearchGateway.Proofs.Security.Directory
import SearchGateway.Proofs.Security.Override
import SearchGateway.Proofs.Security.Requirements
import SearchGateway.Proofs.Settings.Document
import SearchGateway.Proofs.Settings.File
import SearchGateway.Proofs.Text.Base64
import SearchGateway.Proofs.Text.Blank
import SearchGateway.Proofs.Text.Case
import SearchGateway.Proofs.Text.Numeral
import SearchGateway.Proofs.Text.Pattern
import SearchGateway.Proofs.Text.Split
import SearchGateway.Proofs.Text.Utf8
import SearchGateway.Proofs.Toml.Quotation
import SearchGateway.Proofs.Toml.Reading
import SearchGateway.Proofs.Toml.Tree
import SearchGateway.Proofs.Toml.Word
