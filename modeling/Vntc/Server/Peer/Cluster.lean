import Vntc.Server.Db.Cluster
import Vntc.Server.Peer.Flood

/-!
# Servers of a cluster

`PeerServerManager` of `server/peer_server.rs`, as far as the leases of a cluster go: who is the
authority, which peer is compatible, and the request for a lease on its way to the authority.
-/

namespace Vntc

open Lib

/-- The bit of `CAPABILITY_PEER_IDENTITY_V1`. -/
def capabilityPeerIdentityV1 : Nat := 0

/-- The bit of `CAPABILITY_CLUSTER_LEASE_V1`. -/
def capabilityClusterLeaseV1 : Nat := 1

/-- The bit of `CAPABILITY_WIREGUARD_ENDPOINT_SYNC_V1`. -/
def capabilityWireguardEndpointSyncV1 : Nat := 3

/-- What a server says about itself when a link is authenticated. -/
structure PeerAuth where
  serverId : String
  capabilities : BitVec 64
  networkConfigDigest : String
  leaseAuthority : String
  deriving DecidableEq

/-- The identity of a server. -/
structure ClusterConfig where
  serverId : String
  leaseAuthority : String
  networkConfigDigest : String
  deriving DecidableEq

structure ServerLeaseAcquireRequest where
  networkCode : String
  ownerType : String
  ownerId : String
  /-- Zero if there is no requested address. -/
  requestedIp : BitVec 32
  hasRequestedIp : Bool
  networkBase : BitVec 32
  prefixLen : Nat
  gateway : BitVec 32
  leaseDurationSecs : Nat
  staticReservation : Bool
  originServerId : String
  deriving DecidableEq

namespace ClusterConfig

variable (c : ClusterConfig)

def clusterEnabled : Bool := c.serverId ≠ "" && c.leaseAuthority ≠ ""

def isLeaseAuthority : Bool := c.clusterEnabled && c.serverId == c.leaseAuthority

/-- `capabilities` of `new_with_identity`. -/
def capabilities : BitVec 64 :=
  .twoPow 64 capabilityPeerIdentityV1 ||| .twoPow 64 capabilityWireguardBroadcastV1 |||
    .twoPow 64 capabilityWireguardEndpointSyncV1 |||
    if c.clusterEnabled then .twoPow 64 capabilityClusterLeaseV1 else 0

/-- `auth_request` and `auth_response`. -/
def auth : PeerAuth := ⟨c.serverId, c.capabilities, c.networkConfigDigest, c.leaseAuthority⟩

/-- The check at the authentication of a link. -/
def peerClusterCompatible (remote : PeerAuth) : Bool :=
  c.serverId ≠ "" && remote.serverId ≠ "" && remote.serverId ≠ c.serverId &&
    remote.capabilities.getLsbD capabilityClusterLeaseV1 &&
    remote.leaseAuthority == c.leaseAuthority &&
    remote.networkConfigDigest == c.networkConfigDigest

/-- The request of `acquire_lease`; the duration is in nanoseconds. -/
def leaseAcquireRequest (networkCode ownerType ownerId : String) (requestedIp : Option Ipv4Addr)
    (network : Ipv4Net) (gateway : Ipv4Addr) (leaseDuration : Nat) (staticReservation : Bool) :
    ServerLeaseAcquireRequest where
  networkCode := networkCode
  ownerType := ownerType
  ownerId := ownerId
  requestedIp := requestedIp.getD 0
  hasRequestedIp := requestedIp.isSome
  networkBase := network.network
  prefixLen := network.prefixLen
  gateway := gateway
  leaseDurationSecs := leaseDuration / 1000000000
  staticReservation := staticReservation
  originServerId := c.serverId

/-- `db_lease_request` at the authority. -/
def dbLeaseRequest (request : ServerLeaseAcquireRequest) : Option ClusterLeaseRequest :=
  (Ipv4Net.new? request.networkBase request.prefixLen).map fun network =>
    { networkCode := request.networkCode
      ownerType := request.ownerType
      ownerId := request.ownerId
      requestedIp := if request.hasRequestedIp then some request.requestedIp else none
      network
      gateway := request.gateway
      leaseDurationSecs := request.leaseDurationSecs
      staticReservation := request.staticReservation
      authorityId := c.serverId
      originServerId := request.originServerId }

variable {c}

/-- What the authority reads is what was sent. -/
theorem dbLeaseRequest_eq {request : ServerLeaseAcquireRequest} {r : ClusterLeaseRequest}
    (h : c.dbLeaseRequest request = some r) :
    r.networkCode = request.networkCode ∧ r.ownerType = request.ownerType ∧
      r.ownerId = request.ownerId ∧
      r.requestedIp = (if request.hasRequestedIp then some request.requestedIp else none) ∧
      r.leaseDurationSecs = request.leaseDurationSecs ∧
      r.staticReservation = request.staticReservation := by
  obtain ⟨net, -, rfl⟩ := Option.map_eq_some_iff.mp h
  exact ⟨rfl, rfl, rfl, rfl, rfl, rfl⟩

end ClusterConfig

end Vntc
