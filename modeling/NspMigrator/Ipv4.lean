import Mathlib
import NspMigrator.PyText

/-!
# IPv4 addresses, networks and intervals

An address is a number below 2^32, a network is an aligned block of
addresses, and both denote intervals of numbers. Dotted text is written and
read as the standard address library does it.
-/

namespace NspMigrator.Ipv4

open PyText

/-- An IPv4 address, as the number its four octets spell. -/
structure Ipv4Address where
  /-- The address as a number. -/
  toInt : ℕ
  /-- Four octets. -/
  lt : toInt<2^32
  deriving DecidableEq

/-- An IPv4 network: a block whose size is a power of two, aligned to it. -/
structure Ipv4Network where
  /-- The first address. -/
  networkAddress : ℕ
  /-- The number of leading bits all addresses of the block share. -/
  prefixlen : ℕ
  /-- At most all bits are shared. -/
  prefixlen_le : prefixlen≤32
  /-- The first address is an address. -/
  lt : networkAddress<2^32
  /-- No host bits are set in the first address. -/
  aligned : networkAddress%2^(32-prefixlen)=0
  deriving DecidableEq

/-- The address of a number, in four octets. -/
def Ipv4Address.ofNat (n : ℕ) : Ipv4Address := ⟨n%2^32,Nat.mod_lt _ (by decide)⟩

/-- The network an address belongs to. -/
def Ipv4Network.ofNat (n prefixlen : ℕ) : Ipv4Network where
  networkAddress := n%2^32-n%2^32%2^(32-min prefixlen 32)
  prefixlen := min prefixlen 32
  prefixlen_le := Nat.min_le_right _ _
  lt := (Nat.sub_le _ _).trans_lt (Nat.mod_lt _ (by decide))
  aligned := Nat.mod_eq_zero_of_dvd (Nat.dvd_sub_mod _)

/-- The last address of a network. -/
def Ipv4Network.broadcastAddress (network : Ipv4Network) : ℕ :=
  network.networkAddress+(2^(32-network.prefixlen)-1)

theorem Ipv4Network.le_broadcastAddress (network : Ipv4Network) :
    network.networkAddress≤network.broadcastAddress :=
  Nat.le_add_right _ _

/-- The dotted text of the low 32 bits of a number. -/
def dotted (n : ℕ) : String :=
  toString (n/2^24%2^8)++"."++toString (n/2^16%2^8)++"."++toString (n/2^8%2^8)++"."++
    toString (n%2^8)

example : dotted 3232235777="192.168.1.1" := by decide

end NspMigrator.Ipv4
