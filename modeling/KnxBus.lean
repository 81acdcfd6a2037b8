import KnxBus.Address
import KnxBus.Apdu
import KnxBus.Apdu.Decode
import KnxBus.Apdu.Encode
import KnxBus.Apdu.Record
import KnxBus.Apdu.Response
import KnxBus.Apdu.Text
import KnxBus.Bench.Medium
import KnxBus.Bench.Session
import KnxBus.Cemi
import KnxBus.Connection
import KnxBus.Dispatch.Dispatcher
import KnxBus.Dispatch.Error
import KnxBus.Dispatch.Registry
import KnxBus.Dispatch.Route
import KnxBus.Frame
import KnxBus.Gateway
import KnxBus.Gateway.Channel
import KnxBus.Gateway.Config
import KnxBus.Gateway.Error
import KnxBus.GroupCache
import KnxBus.GroupCache.Table
import KnxBus.Ip.Address
import KnxBus.Ip.Channel
import KnxBus.Ip.Connect
import KnxBus.Ip.Discovery
import KnxBus.Ip.Endpoint
import KnxBus.Ip.Filter
import KnxBus.Ip.Host
import KnxBus.Ip.Packet
import KnxBus.Ip.Socket
import KnxBus.Ip.Tunnel
import KnxBus.Lpdu
import KnxBus.Medium
import KnxBus.Medium.Command
import KnxBus.Medium.Error
import KnxBus.Medium.Loopback
import KnxBus.Medium.Monitor
import KnxBus.Medium.Router
import KnxBus.Medium.Tunnel
import KnxBus.Medium.Url
import KnxBus.Octets
import KnxBus.Octets.Encoding
import KnxBus.Octets.Error
import KnxBus.Octets.Reader
import KnxBus.Octets.Writer
import KnxBus.Proofs.Acknowledgement
import KnxBus.Proofs.Address
import KnxBus.Proofs.Apdu.Correlation
import KnxBus.Proofs.Apdu.Fields
import KnxBus.Proofs.Apdu.Units
import KnxBus.Proofs.Bridging
import KnxBus.Proofs.Buffer
import KnxBus.Proofs.Capacity
import KnxBus.Proofs.Cemi
import KnxBus.Proofs.Connection.Chronicle
import KnxBus.Proofs.Connection.Closing
import KnxBus.Proofs.Connection.Counters
import KnxBus.Proofs.Connection.Effects
import KnxBus.Proofs.Connection.Frames
import KnxBus.Proofs.Connection.Pair
import KnxBus.Proofs.Connection.Parts
import KnxBus.Proofs.Connection.Patience
import KnxBus.Proofs.Connection.Tending
import KnxBus.Proofs.Connection.Timed
import KnxBus.Proofs.Connection.Turns
import KnxBus.Proofs.Damage
import KnxBus.Proofs.Datagram
import KnxBus.Proofs.Dispatch.Addressing
import KnxBus.Proofs.Dispatch.Assembly
import KnxBus.Proofs.Dispatch.Circuit
import KnxBus.Proofs.Dispatch.Delivery
import KnxBus.Proofs.Dispatch.Desk
import KnxBus.Proofs.Dispatch.Entries
import KnxBus.Proofs.Dispatch.Exclusion
import KnxBus.Proofs.Dispatch.Filters
import KnxBus.Proofs.Dispatch.Hearing
import KnxBus.Proofs.Dispatch.Lobby
import KnxBus.Proofs.Dispatch.Loss
import KnxBus.Proofs.Dispatch.Onlookers
import KnxBus.Proofs.Dispatch.Refusal
import KnxBus.Proofs.Dispatch.Seen
import KnxBus.Proofs.Dispatch.Sight
import KnxBus.Proofs.Dispatch.Stage
import KnxBus.Proofs.Encoding
import KnxBus.Proofs.Frame
import KnxBus.Proofs.Gateway.Chronicle
import KnxBus.Proofs.Gateway.Custody
import KnxBus.Proofs.Gateway.Idleness
import KnxBus.Proofs.Gateway.Intake
import KnxBus.Proofs.Gateway.Offering
import KnxBus.Proofs.Gateway.Outbox
import KnxBus.Proofs.Gateway.Outcomes
import KnxBus.Proofs.Gateway.Parts
import KnxBus.Proofs.Gateway.Places
import KnxBus.Proofs.Gateway.Requests
import KnxBus.Proofs.Gateway.Sending
import KnxBus.Proofs.Gateway.Table
import KnxBus.Proofs.GroupCache.Answers
import KnxBus.Proofs.GroupCache.Awaiting
import KnxBus.Proofs.GroupCache.Branch
import KnxBus.Proofs.GroupCache.Contents
import KnxBus.Proofs.GroupCache.Forgetting
import KnxBus.Proofs.GroupCache.ReadingRoom
import KnxBus.Proofs.GroupCache.Table
import KnxBus.Proofs.Ip.Blocks
import KnxBus.Proofs.Ip.Messages
import KnxBus.Proofs.Ip.Packet
import KnxBus.Proofs.Lpdu
import KnxBus.Proofs.Mailroom
import KnxBus.Proofs.Reading
import KnxBus.Proofs.Run
import KnxBus.Proofs.Socket
import KnxBus.Proofs.Station.Books
import KnxBus.Proofs.Station.Keeping
import KnxBus.Proofs.Station.Operations
import KnxBus.Proofs.Station.Parting
import KnxBus.Proofs.Station.Restoring
import KnxBus.Proofs.Station.Spreading
import KnxBus.Proofs.Station.Subscriptions
import KnxBus.Proofs.Tpdu
import KnxBus.Proofs.Tunnel.Bookkeeping
import KnxBus.Proofs.Tunnel.Chronicle
import KnxBus.Proofs.Tunnel.Dialogue
import KnxBus.Proofs.Tunnel.Downward
import KnxBus.Proofs.Tunnel.Entitlement
import KnxBus.Proofs.Tunnel.Logbook
import KnxBus.Proofs.Tunnel.Loop
import KnxBus.Proofs.Tunnel.Neighbourhood
import KnxBus.Proofs.Tunnel.Ownership
import KnxBus.Proofs.Tunnel.Parts
import KnxBus.Proofs.Tunnel.Postbook
import KnxBus.Proofs.Tunnel.Posting
import KnxBus.Proofs.Tunnel.Receipts
import KnxBus.Proofs.Tunnel.Sending
import KnxBus.Proofs.Tunnel.Silence
import KnxBus.Proofs.Tunnel.Standing
import KnxBus.Proofs.Tunnel.Tenancy
import KnxBus.Proofs.Tunnel.Upward
import KnxBus.Proofs.Tunnel.Vigil
import KnxBus.Proofs.Utf8
import KnxBus.Proofs.Window
import KnxBus.Signal
import KnxBus.Signal.Mailbox
import KnxBus.Socket
import KnxBus.Station
import KnxBus.Station.Line
import KnxBus.Station.Member
import KnxBus.Station.Part
import KnxBus.Text.Blank
import KnxBus.Text.Number
import KnxBus.Text.Utf8
import KnxBus.Tpdu
