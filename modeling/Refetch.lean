import Refetch.Bytes
import Refetch.Config
import Refetch.Config.Document
import Refetch.Context
import Refetch.Driver
import Refetch.Failure
import Refetch.Failure.Inspect
import Refetch.Http.Domain
import Refetch.Http.Fields
import Refetch.Http.Host
import Refetch.Http.Ipv4
import Refetch.Http.Ipv6
import Refetch.Http.Length
import Refetch.Http.Token
import Refetch.Http.Status
import Refetch.Http.Url
import Refetch.Http.Url.Escapes
import Refetch.Http.Url.Reader
import Refetch.Http.Url.Sendable
import Refetch.Json.Number
import Refetch.Json.Text
import Refetch.Json.Value
import Refetch.Output
import Refetch.Machine
import Refetch.Machine.Run
import Refetch.Payload
import Refetch.Policy
import Refetch.Message
import Refetch.RequestId
import Refetch.Scenario.Poll
import Refetch.Scenario.Run
import Refetch.Scenario.Script
import Refetch.Scenario.Step
import Refetch.Scenario.Turn
import Refetch.Scenario.World
import Refetch.Stage
import Refetch.Text.Coding
import Refetch.Text.Split
import Refetch.Text.Composition
import Refetch.Text.Numeral
import Refetch.Text.Direction
import Refetch.Text.Folding
import Refetch.Text.Hidden
import Refetch.Text.Joining
import Refetch.Text.Marks
import Refetch.Text.Punycode
import Refetch.Text.Record
import Refetch.Text.Utf8
import Refetch.Wire.Answer
import Refetch.Wire.Arrival
import Refetch.Wire.Chunked
import Refetch.Wire.Exchange
import Refetch.Wire.Form
import Refetch.Wire.Framing
import Refetch.Wire.Head
import Refetch.Wire.MediaType
import Refetch.Wire.Outgoing
import Refetch.Wire.Redirect
import Refetch.Proofs.Machine.History
import Refetch.Proofs.Machine.Move
import Refetch.Proofs.Machine.Accounting
import Refetch.Proofs.Machine.Delivery
import Refetch.Proofs.Driver.Reference
import Refetch.Proofs.Driver.Attempt
import Refetch.Proofs.Driver.Refinement
import Refetch.Proofs.Driver.Seen
import Refetch.Proofs.Driver.Outcome
import Refetch.Proofs.Machine.Attempts
import Refetch.Proofs.Machine.Closing
import Refetch.Proofs.Driver.Duet
import Refetch.Proofs.Driver.Posture
import Refetch.Proofs.Driver.Release
import Refetch.Proofs.Driver.Custody
import Refetch.Proofs.Driver.Lockstep
import Refetch.Proofs.Driver.Progress
import Refetch.Proofs.Driver.Schedule
import Refetch.Proofs.Machine.Ceiling
import Refetch.Proofs.Machine.Regrouping
import Refetch.Proofs.Stage.Acts
import Refetch.Proofs.Stage.Entry
import Refetch.Proofs.Stage.Relay
import Refetch.Proofs.Stage.Behind
import Refetch.Proofs.Scenario.Behind
import Refetch.Proofs.Scenario.Answers
import Refetch.Proofs.Scenario.Turns
import Refetch.Proofs.Scenario.Steps
import Refetch.Proofs.Scenario.Outermost
import Refetch.Proofs.Machine.Renewal
import Refetch.Proofs.Driver.Chronicle
import Refetch.Proofs.Driver.Budget
import Refetch.Proofs.Scenario.Passing
import Refetch.Proofs.Http.Length
import Refetch.Proofs.Http.Promise
import Refetch.Proofs.Stage.Promise
import Refetch.Proofs.Stage.Gate
import Refetch.Proofs.Json.Plain
import Refetch.Proofs.Config.RoundTrip
import Refetch.Proofs.Json.Grammar
import Refetch.Proofs.Json.Skip
import Refetch.Proofs.Config.Members
import Refetch.Proofs.Config.Partial
import Refetch.Proofs.Failure.Normal
import Refetch.Proofs.Context.Family
import Refetch.Proofs.Payload.Handles
import Refetch.Proofs.Wire.Message
import Refetch.Proofs.Wire.ContentType
import Refetch.Proofs.Wire.Copies
import Refetch.Proofs.Wire.Replay
