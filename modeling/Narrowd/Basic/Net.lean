import Mathlib.Tactic

set_option autoImplicit false

/-! # Addresses and subnets

`std::net::IpAddr`, and the subnet key of `admission.rs`: an IPv4 client is grouped by its `/24`,
an IPv6 client by its `/64`.
-/

namespace Narrowd

/-- The four octets of an IPv4 address. -/
structure Ipv4Addr where
  a : UInt8
  b : UInt8
  c : UInt8
  d : UInt8
  deriving DecidableEq, Repr

/-- The eight segments of an IPv6 address. -/
structure Ipv6Addr where
  s0 : UInt16
  s1 : UInt16
  s2 : UInt16
  s3 : UInt16
  s4 : UInt16
  s5 : UInt16
  s6 : UInt16
  s7 : UInt16
  deriving DecidableEq, Repr

inductive IpAddr
  | v4 (ip : Ipv4Addr)
  | v6 (ip : Ipv6Addr)
  deriving DecidableEq, Repr

structure SocketAddr where
  ip : IpAddr
  port : UInt16
  deriving DecidableEq, Repr

/-- A network and the length of its prefix. -/
structure SubnetKey where
  addr : IpAddr
  prefixLen : UInt8
  deriving DecidableEq, Repr

def subnetKey : IpAddr → SubnetKey
  | .v4 ip => { addr := .v4 { ip with d := 0 }, prefixLen := 24 }
  | .v6 ip => { addr := .v6 { ip with s4 := 0, s5 := 0, s6 := 0, s7 := 0 }, prefixLen := 64 }

end Narrowd
