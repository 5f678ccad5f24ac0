import CardLink.BusLaws
import CardLink.Device.Step
import CardLink.Host.Scripted
import CardLink.Proofs.Bus
import CardLink.Proofs.Card.Blocks
import CardLink.Proofs.Command.Encoding
import CardLink.Proofs.Device.Held
import CardLink.Proofs.Device.Refusal
import CardLink.Proofs.Device.Register
import CardLink.Proofs.Device.Request
import CardLink.Proofs.Device.Session
import CardLink.Proofs.Device.Spread
import CardLink.Proofs.Device.Streamed
import CardLink.Proofs.Device.Wire
import CardLink.Proofs.Log.Filter
import CardLink.Proofs.Log.Session
import CardLink.Proofs.Machine.Spread
import CardLink.Proofs.Operation
import CardLink.Proofs.Operation.Single
import CardLink.Proofs.Operation.Tuning.Bounds
import CardLink.Proofs.Operation.Tuning.Outcome
import CardLink.Proofs.Operation.Voltage
import CardLink.Proofs.Relay.Delivery
import CardLink.Proofs.Relay.Mask
import CardLink.Proofs.Relay.Slot
import CardLink.Proofs.Segment.Copy
import CardLink.Proofs.Segment.Growth
import CardLink.Relay.RunLaws
import CardLink.Text.Number
