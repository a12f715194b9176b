import Vntc.Lib.Sys
import Vntc.Lib.Checks
import Vntc.Lib.Table
import Vntc.Lib.HashMap
import Vntc.Lib.Indexed
import Vntc.Lib.Bytes
import Vntc.Lib.Aead
import Vntc.Lib.AsyncRead
import Vntc.Lib.Noise
import Vntc.Lib.Ipv4
import Vntc.Lib.KeyValue
import Vntc.Lib.Ipv4Text
import Vntc.Lib.Ipv4Packet
import Vntc.Lib.Ownership
import Vntc.Lib.Flood
import Vntc.Lib.Ranked
import Vntc.Server.Transport.Peekable
import Vntc.Server.Lease.State
import Vntc.Server.Lease.Alloc
import Vntc.Server.Lease.Index
import Vntc.Server.Lease.Reserve
import Vntc.Server.Lease.Hosts
import Vntc.Server.Lease.Complete
import Vntc.Server.Lease.Invariant
import Vntc.Server.Lease.Atomic
import Vntc.Server.Network
import Vntc.Server.Run
import Vntc.Server.Sync
import Vntc.Server.Db.Schema
import Vntc.Server.Db.Cluster
import Vntc.Server.Db.Lends
import Vntc.Server.Relay.Packet
import Vntc.Server.Relay.Bridge
import Vntc.Server.Relay.Deliver
import Vntc.Server.Relay.Ingress
import Vntc.Server.Relay.Isolation
import Vntc.Server.Relay.Forgery
import Vntc.Client.Bridge
import Vntc.Client.Outbound
import Vntc.Server.Peer.Flood
import Vntc.Server.Peer.Coverage
import Vntc.Server.Db.Occupancy
import Vntc.Server.Control.Config
import Vntc.Server.Control.Registry
import Vntc.Server.Control.Register
import Vntc.Server.Session.State
import Vntc.Server.Session.Takeover
import Vntc.Server.Session.Eviction
import Vntc.Server.Session.Agreement
import Vntc.Server.Peer.Cluster
import Vntc.Server.Peer.LeaseCalls
import Vntc.Server.Peer.Ready
import Vntc.Server.Peer.Routes
import Vntc.Server.Peer.BestRoute
import Vntc.Server.Peer.Removal
import Vntc.Server.Control.Subnets
import Vntc.Server.Peer.Renewal
import Vntc.Server.Peer.Reservation
import Vntc.Server.WireGuard.Runtime
import Vntc.Server.WireGuard.Generation
import Vntc.Server.WireGuard.Revoke
import Vntc.Server.WireGuard.Secret
import Vntc.Server.WireGuard.AssociatedData
import Vntc.Server.WireGuard.Sections
import Vntc.Server.WireGuard.Sessions
import Vntc.Server.WireGuard.Egress
import Vntc.Server.WireGuard.P2p
import Vntc.Client.P2p
import Vntc.Client.LeaseQueue
import Vntc.Client.Leases
import Vntc.Client.Runtime
import Vntc.Client.Tunnels
import Vntc.Server.WireGuard.Rotation
import Vntc.Lib.Handler
import Vntc.WebUi.Profiles
import Vntc.WebUi.Api
import Vntc.Chat.Storage
import Vntc.Chat.Tombstones
import Vntc.Chat.Ids
import Vntc.Chat.Incoming
import Vntc.Chat.Sending
import Vntc.Chat.Unread
import Vntc.Chat.Sync
import Vntc.Chat.Resync
import Vntc.Chat.SyncHistory
import Vntc.Chat.Latest
import Vntc.WebUi.Server
import Vntc.WebUi.Tunnel
import Vntc.Server.Relay.Identity
import Vntc.Lib.Checksum
import Vntc.Server.Relay.Echo
import Vntc.Server.WireGuard.Profile
import Vntc.Server.Relay.AgentControl
import Vntc.Server.Relay.Classify
import Vntc.Agent.Shutdown
import Vntc.App.PacketLoss
