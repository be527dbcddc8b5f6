import Uplink.Backend.TableHandler
import Uplink.Cloud.TableApplication
import Uplink.Cloud.Application
import Uplink.Json.Parser
import Uplink.Json.Printer
import Uplink.Session.Trial
import Uplink.Telemetry.Envelope
import Uplink.Proofs.Session.Delivery
import Uplink.Proofs.Backend.Calls
import Uplink.Proofs.Backend.Chronicle
import Uplink.Proofs.Backend.Attempts
import Uplink.Proofs.Backend.Notifications
import Uplink.Proofs.Backend.Requests
import Uplink.Proofs.Backend.Isolation
import Uplink.Proofs.Backend.Deeds
import Uplink.Proofs.Backend.Handling
import Uplink.Proofs.Backend.Evolution
import Uplink.Proofs.Backend.Exchange
import Uplink.Proofs.Backend.KeepAlive
import Uplink.Proofs.Backend.Slot
import Uplink.Proofs.Text.ByteOrder
import Uplink.Proofs.Json.Selection
import Uplink.Proofs.Json.Numerals
import Uplink.Proofs.Command.Reporting
import Uplink.Proofs.Backend.Acceptance
import Uplink.Proofs.Backend.Acknowledgement
import Uplink.Proofs.Backend.Parting
import Uplink.Proofs.Backend.Recall
import Uplink.Proofs.Backend.Repetition
import Uplink.Proofs.Backend.Habits
import Uplink.Proofs.Cloud.Conversation
import Uplink.Proofs.Cloud.Conveyance
import Uplink.Proofs.Wire.Fields
import Uplink.Proofs.Wire.Header
import Uplink.Proofs.Packet.Layout
import Uplink.Proofs.Packet.Completeness
import Uplink.Proofs.Packet.RoundTrip
import Uplink.Proofs.Command.Editing
import Uplink.Proofs.Command.Placement
import Uplink.Proofs.Telemetry.Inscription
import Uplink.Proofs.Network.Reach
import Uplink.Proofs.Network.Stream
import Uplink.Proofs.Packet.Oversize
import Uplink.Proofs.Session.Room
import Uplink.Proofs.Backend.Endings
import Uplink.Proofs.Backend.Receiving
import Uplink.Proofs.Backend.Moments
import Uplink.Proofs.Backend.Admission
import Uplink.Proofs.Identity.LineNoise
import Uplink.Proofs.Backend.Introduction
import Uplink.Proofs.Cloud.Separation
import Uplink.Proofs.Session.Silence
import Uplink.Proofs.Decimal.Rounding
import Uplink.Proofs.Telemetry.Sampling
import Uplink.Proofs.Wire.Cursor
import Uplink.Proofs.Packet.Verdict
import Uplink.Proofs.Wire.Mirror
import Uplink.Proofs.Session.Numbering
