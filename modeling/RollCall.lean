import RollCall.Address.Logical
import RollCall.Address.Physical
import RollCall.Address.Role
import RollCall.Address.Written
import RollCall.Bench.Basic
import RollCall.Bench.Scripted
import RollCall.Bytes
import RollCall.Counter
import RollCall.Floating.Double
import RollCall.Floating.Format
import RollCall.Floating.Notation
import RollCall.Floating.Shortest
import RollCall.IPv4.Address
import RollCall.IPv4.Block
import RollCall.Lan
import RollCall.Layout.Basic
import RollCall.Layout.ByteField
import RollCall.Layout.Code
import RollCall.Layout.Field
import RollCall.NetworkMap.Basic
import RollCall.NetworkMap.Peer
import RollCall.Node.Basic
import RollCall.Node.Inbound
import RollCall.Node.Recipient
import RollCall.Node.Run
import RollCall.Packet.Basic
import RollCall.Packet.Codec
import RollCall.Packet.Datagram
import RollCall.Packet.FieldValue
import RollCall.Packet.Rule
import RollCall.Proofs.Address
import RollCall.Proofs.Address.Physical
import RollCall.Proofs.Address.Written
import RollCall.Proofs.Bytes
import RollCall.Proofs.Counter
import RollCall.Proofs.Fleet.Basic
import RollCall.Proofs.Fleet.Calls
import RollCall.Proofs.Fleet.Channel
import RollCall.Proofs.Fleet.Crew
import RollCall.Proofs.Fleet.Delivery
import RollCall.Proofs.Fleet.Harmony
import RollCall.Proofs.Fleet.Inbox
import RollCall.Proofs.Fleet.KeptAlive
import RollCall.Proofs.Fleet.Vigil
import RollCall.Proofs.Floating.Narrowing
import RollCall.Proofs.IPv4
import RollCall.Proofs.Lan
import RollCall.Proofs.Lan.Attaching
import RollCall.Proofs.Lan.Calls
import RollCall.Proofs.Lan.History
import RollCall.Proofs.Layout.ByteField
import RollCall.Proofs.Layout.Canonical
import RollCall.Proofs.Layout.RoundTrip
import RollCall.Proofs.Layout.Slots
import RollCall.Proofs.NetworkMap.History
import RollCall.Proofs.NetworkMap.Lookup
import RollCall.Proofs.NetworkMap.Reckoning
import RollCall.Proofs.NetworkMap.Staleness
import RollCall.Proofs.Node.Accounting
import RollCall.Proofs.Node.Calls
import RollCall.Proofs.Node.Hearing
import RollCall.Proofs.Node.Holding
import RollCall.Proofs.Node.Inbound
import RollCall.Proofs.Node.Numbering
import RollCall.Proofs.Node.Over
import RollCall.Proofs.Node.Overlong
import RollCall.Proofs.Node.Poll
import RollCall.Proofs.Node.Restart
import RollCall.Proofs.Node.Schedule
import RollCall.Proofs.Node.Sending
import RollCall.Proofs.Node.Separation
import RollCall.Proofs.Node.Sequence
import RollCall.Proofs.Node.Tracking
import RollCall.Proofs.Node.Unencodable
import RollCall.Proofs.Node.Unread
import RollCall.Proofs.Node.Unsent
import RollCall.Proofs.Packet.Canonical
import RollCall.Proofs.Packet.Encoding
import RollCall.Proofs.Packet.Enrolment
import RollCall.Proofs.Packet.Locating
import RollCall.Proofs.Packet.Reading
import RollCall.Proofs.Packet.Registry
import RollCall.Proofs.Packet.RoundTrip
import RollCall.Proofs.Packet.Window
import RollCall.Proofs.Report.Outline
import RollCall.Proofs.Report.Plain
import RollCall.Proofs.Report.Written
import RollCall.Proofs.Sockets.Broadcast
import RollCall.Proofs.Sockets.Chaining
import RollCall.Proofs.Sockets.Opening
import RollCall.Proofs.Text.Numeral
import RollCall.Proofs.Transport
import RollCall.Proofs.Transport.Buffer
import RollCall.Proofs.Transport.Embedded
import RollCall.Proofs.Transport.Fifo
import RollCall.Proofs.Waiting
import RollCall.Report.Value
import RollCall.Report.Views
import RollCall.Report.Writer
import RollCall.Report.Written
import RollCall.Sample.Flight
import RollCall.Setup
import RollCall.Sockets.Bridge
import RollCall.Sockets.Hosted
import RollCall.Sockets.Layer
import RollCall.Sockets.Scripted
import RollCall.Text.Blank
import RollCall.Text.CharRange
import RollCall.Text.Digit
import RollCall.Text.LetterCase
import RollCall.Text.Numeral
import RollCall.Text.Printable
import RollCall.Text.Quoted
import RollCall.Transport.Basic
import RollCall.Transport.Buffer
import RollCall.Transport.Embedded
import RollCall.Transport.Fault
