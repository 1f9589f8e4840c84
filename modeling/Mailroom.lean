import Mailroom.Builder.Method
import Mailroom.Office
import Mailroom.Settings.Loading
import Mailroom.Value.Order
import Mailroom.Proofs.Delivery.Queue
import Mailroom.Proofs.Delivery.Rounds
import Mailroom.Proofs.Delivery.Commit
import Mailroom.Proofs.Delivery.Savepoints
import Mailroom.Proofs.Delivery.Bystanders
import Mailroom.Proofs.Delivery.Follows
import Mailroom.Proofs.Delivery.Refinement
import Mailroom.Proofs.Delivery.Course
import Mailroom.Proofs.Delivery.Identified
import Mailroom.Proofs.Delivery.Afresh
import Mailroom.Proofs.Delivery.Recovery
import Mailroom.Proofs.Delivery.OneMessage
import Mailroom.Proofs.Builder.FailedBuild
import Mailroom.Proofs.Builder.Lifecycle
import Mailroom.Proofs.Builder.BuiltMessage
import Mailroom.Proofs.Builder.Secrecy
import Mailroom.Proofs.Relay.Encryption
import Mailroom.Proofs.Relay.Order
import Mailroom.Proofs.Relay.Plan
import Mailroom.Proofs.Wire.HeaderBlock
import Mailroom.Proofs.Wire.Words
import Mailroom.Proofs.Wire.FoldedLines
import Mailroom.Proofs.Wire.ValueLines
import Mailroom.Proofs.Wire.FoldedValue
import Mailroom.Proofs.Wire.WrittenFields
import Mailroom.Proofs.Message.HeaderBlock
import Mailroom.Proofs.Message.BlindCopies
import Mailroom.Proofs.Office.OneMail
import Mailroom.Proofs.Wire.Writing
import Mailroom.Proofs.Wire.ContentType
import Mailroom.Proofs.Message.Fields
import Mailroom.Proofs.Builder.Checks
import Mailroom.Proofs.Builder.Rendering
import Mailroom.Proofs.Message.Unbroken
import Mailroom.Proofs.Builder.SingleLine
import Mailroom.Proofs.Builder.FoundSession
import Mailroom.Proofs.Message.FieldList
import Mailroom.Proofs.Message.AddressLine
import Mailroom.Proofs.Address.Validation
import Mailroom.Proofs.Address.Entries
import Mailroom.Proofs.Header.Store
import Mailroom.Proofs.Header.Update
import Mailroom.Proofs.Message.Received
import Mailroom.Proofs.Session.Resolution
import Mailroom.Proofs.Relay.Timeouts
import Mailroom.Proofs.Relay.Release
import Mailroom.Proofs.Settings.OptionByOption
