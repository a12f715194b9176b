import Mathlib.Data.List.Basic
import Mathlib.Tactic.Linarith

/-!
# IPv4 addresses and networks

An address is 32 bits. A network is an address with a prefix length; its host bits are those
below the prefix. `network` clears the host bits, `broadcast` sets them, and `contains` is the
range between the two, as in CIDR notation.

* `Ipv4Net.network_toNat`, `Ipv4Net.broadcast_toNat`: the bounds as numbers, for `omega`.
* `Ipv4Net.hosts`: the addresses strictly between the bounds, in increasing order, as a loop
  over `network + 1 .. broadcast` visits them. The start is a 32-bit sum: it wraps for the one
  network whose first address is `255.255.255.255`.
-/

namespace Lib

/-- An IPv4 address: its four octets as one big-endian number. -/
abbrev Ipv4Addr := BitVec 32

namespace Ipv4Addr

/-- The address `a.b.c.d`. -/
def new (a b c d : Nat) : Ipv4Addr := BitVec.ofNat 32 (((a * 256 + b) * 256 + c) * 256 + d)

/-- `255.255.255.255`. -/
def broadcast : Ipv4Addr := BitVec.allOnes 32

/-- `0.0.0.0`. -/
def isUnspecified (ip : Ipv4Addr) : Bool := ip == 0#32

/-- `224.0.0.0/4`. -/
def isMulticast (ip : Ipv4Addr) : Bool := ip >>> 28 == 14#32

theorem isMulticast_iff {ip : Ipv4Addr} : ip.isMulticast = true ↔ ip.toNat / 2 ^ 28 = 14 := by
  rw [isMulticast, beq_iff_eq, ← BitVec.toNat_inj, BitVec.toNat_ushiftRight,
    Nat.shiftRight_eq_div_pow]
  rfl

end Ipv4Addr

/-- An IPv4 network: an address and the length of its network prefix. -/
structure Ipv4Net where
  addr : Ipv4Addr
  prefixLen : Nat
  prefix_le : prefixLen ≤ 32
  deriving DecidableEq

namespace Ipv4Net

variable (net : Ipv4Net)

/-- The host bits. -/
def hostmask : BitVec 32 := BitVec.allOnes 32 >>> net.prefixLen

/-- The prefix bits. -/
def netmask : BitVec 32 := ~~~net.hostmask

/-- The first address: all host bits clear. -/
def network : Ipv4Addr := net.addr &&& net.netmask

/-- The last address: all host bits set. -/
def broadcast : Ipv4Addr := net.addr ||| net.hostmask

/-- `ip` is an address of the network. -/
def contains (ip : Ipv4Addr) : Bool := decide (net.network ≤ ip) && decide (ip ≤ net.broadcast)

/-- The network of an address and a number of prefix bits, which may be too great. -/
def new? (addr : Ipv4Addr) (prefixLen : Nat) : Option Ipv4Net :=
  if h : prefixLen ≤ 32 then some ⟨addr, prefixLen, h⟩ else none

/-- The first and the last address. -/
def range : Ipv4Addr × Ipv4Addr := (net.network, net.broadcast)

/-- The same network, written with its first address. -/
def trunc : Ipv4Net := { net with addr := net.network }

/-- The number of addresses. -/
def size : Nat := 2 ^ (32 - net.prefixLen)

theorem size_pos : 0 < net.size := Nat.two_pow_pos _

theorem hostmask_toNat : net.hostmask.toNat = net.size - 1 := by
  have h : 2 ^ 32 = 2 ^ net.prefixLen * net.size := by
    rw [size, ← pow_add]; congr 1; have := net.prefix_le; omega
  have hp : 0 < 2 ^ net.prefixLen := Nat.two_pow_pos _
  have hs := net.size_pos
  simp only [hostmask, BitVec.toNat_ushiftRight, BitVec.toNat_allOnes, Nat.shiftRight_eq_div_pow]
  rw [h, show 2 ^ net.prefixLen * net.size - 1 =
      2 ^ net.prefixLen * (net.size - 1) + (2 ^ net.prefixLen - 1) by
    rw [Nat.mul_sub, Nat.mul_one]
    have := Nat.mul_le_mul_left (2 ^ net.prefixLen) hs
    omega, Nat.mul_add_div hp, Nat.div_eq_of_lt (by omega), Nat.add_zero]

/-- The prefix bits and the host bits of the address. -/
theorem network_or_host (x m : BitVec 32) : (x &&& ~~~m) ||| (x &&& m) = x := by
  ext i hi
  simp only [BitVec.getElem_or, BitVec.getElem_and, BitVec.getElem_not]
  cases x[i] <;> cases m[i] <;> rfl

theorem host_toNat : (net.addr &&& net.hostmask).toNat = net.addr.toNat % net.size := by
  rw [BitVec.toNat_and, hostmask_toNat, size, Nat.and_two_pow_sub_one_eq_mod]

theorem network_toNat : net.network.toNat = net.addr.toNat - net.addr.toNat % net.size := by
  have hd : net.network &&& (net.addr &&& net.hostmask) = 0#32 := by
    ext i hi
    simp only [network, netmask, BitVec.getElem_and, BitVec.getElem_not, BitVec.getElem_zero]
    cases net.addr[i] <;> cases net.hostmask[i] <;> rfl
  have hs : net.network + (net.addr &&& net.hostmask) = net.addr := by
    rw [BitVec.add_eq_or_of_and_eq_zero _ _ hd]
    exact network_or_host net.addr net.hostmask
  have hn : net.network.toNat ≤ net.addr.toNat := by
    rw [network, BitVec.toNat_and]; exact Nat.and_le_left
  have := congrArg BitVec.toNat hs
  rw [BitVec.toNat_add, host_toNat] at this
  have hm := Nat.mod_le net.addr.toNat net.size
  have := net.addr.isLt
  omega

theorem broadcast_toNat : net.broadcast.toNat = net.network.toNat + (net.size - 1) := by
  have hd : net.network &&& net.hostmask = 0#32 := by
    ext i hi
    simp only [network, netmask, BitVec.getElem_and, BitVec.getElem_not, BitVec.getElem_zero]
    cases net.addr[i] <;> cases net.hostmask[i] <;> rfl
  have hb : net.broadcast = net.network + net.hostmask := by
    rw [BitVec.add_eq_or_of_and_eq_zero _ _ hd]
    ext i hi
    simp only [broadcast, network, netmask, BitVec.getElem_or, BitVec.getElem_and,
      BitVec.getElem_not]
    cases net.addr[i] <;> cases net.hostmask[i] <;> rfl
  have hlt : net.network.toNat + (net.size - 1) < 2 ^ 32 := by
    rw [network_toNat]
    have h : 2 ^ 32 = 2 ^ net.prefixLen * net.size := by
      rw [size, ← pow_add]; congr 1; have := net.prefix_le; omega
    have hq : net.addr.toNat / net.size < 2 ^ net.prefixLen :=
      Nat.div_lt_of_lt_mul (by rw [Nat.mul_comm, ← h]; exact net.addr.isLt)
    have hdm := Nat.div_add_mod net.addr.toNat net.size
    have hle := Nat.mul_le_mul_left net.size (Nat.succ_le_of_lt hq)
    rw [Nat.mul_succ, Nat.mul_comm net.size (2 ^ net.prefixLen), ← h] at hle
    have := net.size_pos
    omega
  rw [hb, BitVec.toNat_add, hostmask_toNat, Nat.mod_eq_of_lt hlt]

theorem new?_eq_some {addr : Ipv4Addr} {prefixLen : Nat} {net : Ipv4Net} :
    new? addr prefixLen = some net ↔ net.addr = addr ∧ net.prefixLen = prefixLen := by
  unfold new?
  split
  · rename_i h
    rw [Option.some_inj]
    constructor
    · rintro rfl
      exact ⟨rfl, rfl⟩
    · rintro ⟨ha, hp⟩
      cases net
      cases ha
      cases hp
      rfl
  · rename_i h
    exact ⟨nofun, fun ⟨_, hp⟩ => (h (hp ▸ net.prefix_le)).elim⟩

/-- The host bits are cleared once. -/
theorem network_of_network (n : Ipv4Net) (ha : n.addr = net.network)
    (hp : n.prefixLen = net.prefixLen) : n.network = net.network := by
  have hm : n.netmask = net.netmask := by rw [netmask, netmask, hostmask, hostmask, hp]
  rw [network, ha, hm, network, BitVec.and_assoc, BitVec.and_self]

variable {n m : Ipv4Net} {ip : Ipv4Addr}

/-- A network is given by its first address and its prefix length. -/
theorem trunc_eq_iff :
    n.trunc = net.trunc ↔ n.network = net.network ∧ n.prefixLen = net.prefixLen := by
  rw [trunc, trunc, mk.injEq]

/-- Networks with as many prefix bits have the same range if they have the same first address. -/
theorem range_eq_iff (hp : n.prefixLen = net.prefixLen) :
    n.range = net.range ↔ n.network = net.network := by
  refine ⟨congrArg Prod.fst, fun h => Prod.ext h (BitVec.eq_of_toNat_eq ?_)⟩
  show n.broadcast.toNat = net.broadcast.toNat
  rw [broadcast_toNat, broadcast_toNat, h, size, size, hp]

theorem contains_iff :
    net.contains ip = true ↔ net.network.toNat ≤ ip.toNat ∧ ip.toNat ≤ net.broadcast.toNat := by
  simp [contains, BitVec.le_def]

/-- Each address of a network gives the same network. -/
theorem range_of_contains (hp : n.prefixLen = net.prefixLen)
    (h : net.contains n.addr = true) : n.range = net.range := by
  refine (range_eq_iff net hp).mpr (BitVec.eq_of_toNat_eq ?_)
  have hn : n.size = net.size := by rw [size, size, hp]
  rw [contains_iff, broadcast_toNat, network_toNat] at h
  rw [network_toNat, network_toNat, hn]
  have hs := net.size_pos
  have ha := Nat.div_add_mod net.addr.toNat net.size
  have hi := Nat.div_add_mod n.addr.toNat net.size
  -- Both addresses are in the block of `size` addresses with the same number.
  have hq : n.addr.toNat / net.size = net.addr.toNat / net.size :=
    Nat.div_eq_of_lt_le (by rw [Nat.mul_comm]; omega) (by rw [Nat.succ_mul, Nat.mul_comm]; omega)
  rw [hq] at hi
  omega

theorem network_le_broadcast : net.network.toNat ≤ net.broadcast.toNat := by
  rw [broadcast_toNat]; omega

theorem contains_network : net.contains net.network = true :=
  net.contains_iff.mpr ⟨le_refl _, net.network_le_broadcast⟩

theorem contains_broadcast : net.contains net.broadcast = true :=
  net.contains_iff.mpr ⟨net.network_le_broadcast, le_refl _⟩

/-- Networks with a common address and as many prefix bits are the same range. -/
theorem range_eq_of_contains (hp : m.prefixLen = n.prefixLen)
    (hm : m.contains ip = true) (hn : n.contains ip = true) : m.range = n.range :=
  (range_of_contains m (n := ⟨ip, m.prefixLen, m.prefix_le⟩) rfl hm).symm.trans
    (range_of_contains n hp hn)

theorem contains_eq_of_range (h : m.range = n.range) (ip : Ipv4Addr) :
    m.contains ip = n.contains ip := by
  obtain ⟨hnetwork, hbroadcast⟩ := Prod.mk.inj h
  rw [contains, contains, hnetwork, hbroadcast]

/-- Networks have a common address if one has the first address of the other. -/
theorem overlap_iff : (∃ ip, m.contains ip = true ∧ n.contains ip = true) ↔
    m.contains n.network = true ∨ n.contains m.network = true := by
  constructor
  · rintro ⟨ip, hm, hn⟩
    rw [contains_iff] at hm hn
    rw [contains_iff, contains_iff]
    omega
  · rintro (h | h)
    · exact ⟨n.network, h, n.contains_network⟩
    · exact ⟨m.network, m.contains_network, h⟩

/-- `ip` is an address of the network and neither its first nor its last. -/
def IsHost (ip : Ipv4Addr) : Prop :=
  net.contains ip = true ∧ ip ≠ net.network ∧ ip ≠ net.broadcast

instance (ip : Ipv4Addr) : Decidable (net.IsHost ip) := inferInstanceAs (Decidable (_ ∧ _ ∧ _))

/-- The addresses that a loop over `network + 1 .. broadcast` visits, in order. -/
def hosts : List Ipv4Addr :=
  (List.range' (net.network + 1#32).toNat
    (net.broadcast.toNat - (net.network + 1#32).toNat)).map (BitVec.ofNat 32)

section

variable (h : net.network ≠ Ipv4Addr.broadcast)

include h

/-- The start of `hosts` does not wrap. -/
theorem start_toNat : (net.network + 1#32).toNat = net.network.toNat + 1 := by
  have : net.network.toNat ≠ 2 ^ 32 - 1 := fun e => h (BitVec.eq_of_toNat_eq (by
    rw [e, Ipv4Addr.broadcast, BitVec.toNat_allOnes]))
  have := net.network.isLt
  rw [BitVec.toNat_add, BitVec.toNat_ofNat, Nat.mod_eq_of_lt (by omega)]

theorem mem_hosts :
    ip ∈ net.hosts ↔ net.network.toNat < ip.toNat ∧ ip.toNat < net.broadcast.toNat := by
  unfold hosts
  rw [start_toNat net h, List.mem_map]
  constructor
  · rintro ⟨i, hi, rfl⟩
    rw [List.mem_range'_1] at hi
    have := net.broadcast.isLt
    rw [BitVec.toNat_ofNat, Nat.mod_eq_of_lt (by omega)]
    omega
  · intro hip
    refine ⟨ip.toNat, List.mem_range'_1.mpr (by omega), ?_⟩
    exact BitVec.eq_of_toNat_eq (by rw [BitVec.toNat_ofNat, Nat.mod_eq_of_lt ip.isLt])

theorem mem_hosts_iff : ip ∈ net.hosts ↔ net.IsHost ip := by
  rw [mem_hosts net h]
  unfold IsHost
  rw [contains_iff, ← BitVec.toNat_inj.ne, ← BitVec.toNat_inj.ne]
  omega

end

/-- The loop visits addresses of the network, unless its start wraps: then it visits none. -/
theorem contains_of_mem_hosts (hm : ip ∈ net.hosts) :
    net.contains ip = true ↔ net.network ≠ Ipv4Addr.broadcast := by
  constructor
  · intro hc hn
    rw [contains_iff, hn] at hc
    obtain ⟨i, hi, rfl⟩ := List.mem_map.mp hm
    rw [List.mem_range'_1] at hi
    have := net.broadcast.isLt
    rw [BitVec.toNat_ofNat, Nat.mod_eq_of_lt (by omega), Ipv4Addr.broadcast,
      BitVec.toNat_allOnes] at hc
    omega
  · intro hn
    exact ((net.mem_hosts_iff hn).mp hm).1

/-- The hosts are visited in increasing order. -/
theorem hosts_sorted : net.hosts.Pairwise fun a b => a.toNat < b.toNat := by
  unfold hosts
  rw [List.pairwise_map]
  refine List.Pairwise.imp_of_mem ?_ (List.pairwise_lt_range' (s := (net.network + 1#32).toNat)
    (n := net.broadcast.toNat - (net.network + 1#32).toNat))
  intro a b ha hb hab
  rw [List.mem_range'_1] at ha hb
  have := net.broadcast.isLt
  rw [BitVec.toNat_ofNat, BitVec.toNat_ofNat, Nat.mod_eq_of_lt (by omega),
    Nat.mod_eq_of_lt (by omega)]
  exact hab

/-- The first host with a property is the least one. -/
theorem find_hosts_le {p : Ipv4Addr → Bool} {a b : Ipv4Addr} (ha : net.hosts.find? p = some a)
    (hb : b ∈ net.hosts) (hp : p b = true) : a.toNat ≤ b.toNat := by
  obtain ⟨-, before, after, hl, hno⟩ := List.find?_eq_some_iff_append.mp ha
  have hs := net.hosts_sorted
  rw [hl] at hs hb
  rcases List.mem_append.mp hb with hb | hb
  · exact absurd hp (by simpa using hno b hb)
  · rcases List.mem_cons.mp hb with rfl | hb
    · exact le_refl _
    · exact le_of_lt (List.rel_of_pairwise_cons (List.pairwise_append.mp hs).2.1 hb)

/-- A network with a host is not the last address alone. -/
theorem network_ne_of_isHost (h : net.IsHost ip) : net.network ≠ Ipv4Addr.broadcast := by
  obtain ⟨hc, hn, -⟩ := h
  rw [contains_iff] at hc
  rw [← BitVec.toNat_inj.ne] at hn
  intro he
  have hb : Ipv4Addr.broadcast.toNat = 2 ^ 32 - 1 := by decide
  have := ip.isLt
  rw [he, hb] at hc hn
  omega

/-- A network of at most 30 prefix bits does not start at `255.255.255.255`. -/
theorem network_ne_of_prefix_le (h : net.prefixLen ≤ 30) : net.network ≠ Ipv4Addr.broadcast := by
  intro e
  have hb := net.broadcast_toNat
  have hs : 2 ^ 2 ≤ net.size := Nat.pow_le_pow_right (by omega) (by omega)
  have := net.broadcast.isLt
  have := congrArg BitVec.toNat e
  rw [Ipv4Addr.broadcast, BitVec.toNat_allOnes] at this
  omega

end Ipv4Net

/-- An address of one of the two families. -/
inductive IpAddr
  | v4 (ip : Ipv4Addr)
  | v6 (ip : BitVec 128)
  deriving DecidableEq

/-- `127.0.0.0/8` and `::1`. -/
def IpAddr.isLoopback : IpAddr → Bool
  | .v4 ip => ip >>> 24 == 127#32
  | .v6 ip => ip == 1#128

end Lib
