import Narrowd.Admission.Guards

set_option autoImplicit false

/-! # Who is blamed for a full subnet

An IPv4 client belongs to its `/24` and an IPv6 client to its `/64`. A dual-stack listener reports
an IPv4 client as the IPv4-mapped address `::ffff:a.b.c.d`; it is an IPv4 client all the same. The
code knows nothing of mapped addresses (`subnet_key` asks for the kind of the address only), so all
of them fall into the one `/64` that holds the whole mapped range. `subnet_blame_iff` says for which
addresses a full subnet is always the client's own: for those outside of that `/64`.
-/

namespace Narrowd.Admission

open Narrowd.Lib

variable {p : Platform}

/-! ## The subnet of a client -/

/-- The IPv4 address that an IPv4-mapped IPv6 address stands for. -/
def toIpv4Mapped (ip : Ipv6Addr) : Option Ipv4Addr :=
  if ip.s0 = 0 ∧ ip.s1 = 0 ∧ ip.s2 = 0 ∧ ip.s3 = 0 ∧ ip.s4 = 0 ∧ ip.s5 = 0xffff then
    some ⟨(ip.s6 >>> 8).toUInt8, ip.s6.toUInt8, (ip.s7 >>> 8).toUInt8, ip.s7.toUInt8⟩
  else none

/-- A `/24` or a `/64`. -/
inductive Subnet
  | v4 (a b c : UInt8)
  | v6 (s0 s1 s2 s3 : UInt16)
  deriving DecidableEq, Repr

/-- The subnet a client belongs to, however the listener reports it. -/
def subnetOf : IpAddr → Subnet
  | .v4 ip => .v4 ip.a ip.b ip.c
  | .v6 ip =>
      match toIpv4Mapped ip with
      | some ip => .v4 ip.a ip.b ip.c
      | none => .v6 ip.s0 ip.s1 ip.s2 ip.s3

/-- The held guards of clients in a subnet. -/
def liveInSubnet (gs : List AdmissionGuard) (n : Subnet) : Nat :=
  gs.countP fun g => decide (subnetOf g.peerIp = n)

/-- The address is in `::/64`, where the mapped addresses are. -/
def InMappedBlock : IpAddr → Prop
  | .v4 _ => False
  | .v6 ip => ip.s0 = 0 ∧ ip.s1 = 0 ∧ ip.s2 = 0 ∧ ip.s3 = 0

theorem toIpv4Mapped_eq_none {ip : Ipv6Addr} (h : ¬ InMappedBlock (.v6 ip)) :
    toIpv4Mapped ip = none :=
  if_neg fun hmapped => h ⟨hmapped.1, hmapped.2.1, hmapped.2.2.1, hmapped.2.2.2.1⟩

variable {a x : IpAddr}

/-- Outside of `::/64` the key of an address is its subnet. -/
theorem subnetOf_eq_of_subnetKey_eq (hkey : subnetKey x = subnetKey a) (ha : ¬ InMappedBlock a) :
    subnetOf x = subnetOf a := by
  cases a with
  | v4 a =>
      cases x with
      | v4 x =>
          simp only [subnetKey, SubnetKey.mk.injEq, IpAddr.v4.injEq, Ipv4Addr.mk.injEq] at hkey
          simp only [subnetOf, hkey.1.1, hkey.1.2.1, hkey.1.2.2.1]
      | v6 x => cases hkey
  | v6 a =>
      cases x with
      | v4 x => cases hkey
      | v6 x =>
          simp only [subnetKey, SubnetKey.mk.injEq, IpAddr.v6.injEq, Ipv6Addr.mk.injEq] at hkey
          obtain ⟨⟨h0, h1, h2, h3, -⟩, -⟩ := hkey
          have hx : ¬ InMappedBlock (.v6 x) := by
            simpa only [InMappedBlock, h0, h1, h2, h3] using ha
          simp only [subnetOf, toIpv4Mapped_eq_none ha, toIpv4Mapped_eq_none hx, h0, h1, h2, h3]

/-! ## A full subnet -/

/-- `try_acquire` answers that the subnet is full only if the counter of its key says so. -/
theorem AdmissionState.le_of_verdict_subnet {s : AdmissionState p} {ip : IpAddr}
    {subnet : SubnetKey} {now : Instant p}
    (h : s.verdict ip subnet now = .error .tooManyUnauthenticatedConnectionsForSubnet) :
    s.config.maxUnauthConnectionsPerSubnet ≤ s.subnetCount subnet := by
  by_contra hroom
  have hroom' : ¬ s.config.maxUnauthConnectionsPerSubnet ≤ (s.perSubnet.lookup subnet).getD 0 :=
    hroom
  simp only [AdmissionState.verdict, if_neg hroom'] at h
  split_ifs at h <;> cases h

/-- A rejection for a full subnet means that the guards of its key are as many as may be held. -/
theorem System.le_liveOfSubnet {config : AdmissionConfig} {sys : System p} {now : Instant p}
    {c' : AdmissionController p} (hi : sys.Inv config) (h : sys.controller.tryAcquireAt a now
      = (some (.error .tooManyUnauthenticatedConnectionsForSubnet), c')) :
    config.maxUnauthConnectionsPerSubnet ≤ liveOfSubnet sys.guards (subnetKey a) := by
  simp only [AdmissionController.tryAcquireAt] at h
  split at h
  · cases h
  · next reason c hl =>
      obtain ⟨hreason, -⟩ := Prod.mk.inj h
      cases hreason
      obtain ⟨s, s', hs, hacq, -⟩ := Lock.withLock_eq_some hl
      obtain ⟨c, hc, hdecide⟩ := AdmissionState.tryAcquire_spec hacq
      rw [AdmissionState.decideAcquire_eq] at hdecide
      have hle := AdmissionState.le_of_verdict_subnet (Prod.mk.inj hdecide).1
      rw [hc.config, hi.config_eq s hs] at hle
      have hcount : c.subnetCount (subnetKey a) = s.subnetCount (subnetKey a) := by
        rw [AdmissionState.subnetCount, hc.perSubnet]
        rfl
      rwa [hcount, (hi.counters s hs).subnetCount_eq] at hle
  · cases h

/-- A full subnet is the client's own: as many clients of it as may be hold a guard. -/
def BlamesOwnSubnet (p : Platform) (a : IpAddr) : Prop :=
  ∀ (config : AdmissionConfig) (h : List (Call p)) (sys : System p) (now : Instant p)
    (c' : AdmissionController p), System.Reachable config h sys →
    sys.controller.tryAcquireAt a now
      = (some (.error .tooManyUnauthenticatedConnectionsForSubnet), c') →
    config.maxUnauthConnectionsPerSubnet ≤ liveInSubnet sys.guards (subnetOf a)

theorem blamesOwnSubnet_of_outside (ha : ¬ InMappedBlock a) : BlamesOwnSubnet p a := by
  intro config h sys now c' hr hrejected
  refine le_trans (System.le_liveOfSubnet hr.inv hrejected)
    (List.countP_mono_left fun g hg hkey => ?_)
  have hsubnet : subnetKey g.peerIp = subnetKey a := by
    rw [← hr.inv.subnet g hg]
    exact of_decide_eq_true hkey
  exact decide_eq_true (subnetOf_eq_of_subnetKey_eq hsubnet ha)

/-! ## The block of the mapped addresses -/

/-- The configuration of the unit tests with room for one connection in a subnet. -/
def oneOfSubnet : AdmissionConfig := { testConfig with maxUnauthConnectionsPerSubnet := 1 }

/-- A second client with the key of the first is rejected for a full subnet. -/
theorem rejected_for_key (hne : a ≠ x) (hkey : subnetKey a = subnetKey x) (now : Instant p) :
    ∃ c', ((System.new oneOfSubnet now).call (.tryAcquireAt x now)).controller.tryAcquireAt a now
      = (some (.error .tooManyUnauthenticatedConnectionsForSubnet), c') := by
  rw [System.call_new x (by decide) (by decide) (by decide)]
  set s := (AdmissionState.new oneOfSubnet now).admitted x (subnetKey x) now with hs
  have hnone : s.perPeer.lookup a = none := AList.lookup_insert_ne hne
  have hclean : s.maybeCleanupPeers now = some s := AdmissionState.maybeCleanupPeers_fresh rfl
  have hown : s.cleanupPeer a now = some s := by
    rw [AdmissionState.cleanupPeer, hnone]
  have hverdict : s.verdict a (subnetKey a) now
      = .error .tooManyUnauthenticatedConnectionsForSubnet := by
    rw [AdmissionState.verdict, hnone, hkey]
    have hcount : (s.perSubnet.lookup (subnetKey x)).getD 0 = 1 := by
      rw [hs, AdmissionState.admitted, AList.lookup_insert]
      rfl
    rw [hcount]
    rfl
  have hacq : s.tryAcquire a (subnetKey a) now
      = some (.error .tooManyUnauthenticatedConnectionsForSubnet, s) := by
    simp only [AdmissionState.tryAcquire, hclean, hown, Option.bind_eq_bind, Option.bind_some,
      AdmissionState.decideAcquire_eq, hverdict]
    rfl
  refine ⟨.healthy s, ?_⟩
  simp only [AdmissionController.tryAcquireAt, Lock.withLock_healthy, hacq]

/-- `::ffff:1.0.0.1`. -/
def mappedOne : IpAddr := .v6 ⟨0, 0, 0, 0, 0, 0xffff, 0x0100, 1⟩

/-- `::ffff:2.0.0.1`. -/
def mappedTwo : IpAddr := .v6 ⟨0, 0, 0, 0, 0, 0xffff, 0x0200, 1⟩

theorem inMappedBlock_mappedOne : InMappedBlock mappedOne := ⟨rfl, rfl, rfl, rfl⟩

theorem inMappedBlock_mappedTwo : InMappedBlock mappedTwo := ⟨rfl, rfl, rfl, rfl⟩

theorem subnetKey_of_inMappedBlock (ha : InMappedBlock a) (hx : InMappedBlock x) :
    subnetKey a = subnetKey x := by
  cases a with
  | v4 a => exact ha.elim
  | v6 a =>
      cases x with
      | v4 x => exact hx.elim
      | v6 x =>
          obtain ⟨a0, a1, a2, a3⟩ := ha
          obtain ⟨x0, x1, x2, x3⟩ := hx
          simp only [subnetKey, a0, a1, a2, a3, x0, x1, x2, x3]

/-- A client in `::/64` is rejected for the connection of an IPv4 client of another network. -/
theorem not_blamesOwnSubnet_of_other (ha : InMappedBlock a) (hx : InMappedBlock x)
    (hother : subnetOf x ≠ subnetOf a) : ¬ BlamesOwnSubnet p a := by
  intro hblame
  have hne : a ≠ x := fun heq => hother (congrArg subnetOf heq.symm)
  obtain ⟨c', hrejected⟩ :=
    rejected_for_key hne (subnetKey_of_inMappedBlock ha hx) (Instant.zero p)
  have hle := hblame oneOfSubnet _ _ _ c' (System.reachable_first (Instant.zero p) x) hrejected
  rw [System.call_new x (by decide) (by decide) (by decide)] at hle
  have hnone : liveInSubnet [guardOf x] (subnetOf a) = 0 := by
    simp [liveInSubnet, guardOf, hother]
  rw [hnone] at hle
  exact absurd hle (by decide)

/-- **When a full subnet is the client's own.** For exactly the addresses outside of `::/64`, the
`/64` of the IPv4-mapped addresses: whatever the configuration and the run, they are rejected for a
full subnet only if as many clients of their own subnet as may be hold a guard. -/
theorem subnet_blame_iff (p : Platform) (a : IpAddr) : BlamesOwnSubnet p a ↔ ¬ InMappedBlock a := by
  constructor
  · intro hblame ha
    by_cases hone : subnetOf mappedOne = subnetOf a
    · have htwo : subnetOf mappedTwo ≠ subnetOf a := by
        rw [← hone]
        decide
      exact not_blamesOwnSubnet_of_other ha inMappedBlock_mappedTwo htwo hblame
    · exact not_blamesOwnSubnet_of_other ha inMappedBlock_mappedOne hone hblame
  · exact blamesOwnSubnet_of_outside

/-- An IPv4 client of a dual-stack listener is rejected for the connection of an IPv4 client of
another network: its own `/24` holds no guard at all. -/
theorem mapped_clients_share_subnet :
    ∃ (sys : System .linux) (c' : AdmissionController .linux),
      System.Reachable oneOfSubnet [.tryAcquireAt mappedOne (.zero .linux)] sys ∧
      sys.controller.tryAcquireAt mappedTwo (.zero .linux)
        = (some (.error .tooManyUnauthenticatedConnectionsForSubnet), c') ∧
      subnetOf mappedTwo = .v4 2 0 0 ∧ liveInSubnet sys.guards (subnetOf mappedTwo) = 0 ∧
      oneOfSubnet.maxUnauthConnectionsPerSubnet = 1 := by
  obtain ⟨c', hrejected⟩ := rejected_for_key (a := mappedTwo) (x := mappedOne) (by decide)
    (by decide) (Instant.zero .linux)
  refine ⟨_, c', System.reachable_first _ _, hrejected, by decide, ?_, rfl⟩
  rw [System.call_new mappedOne (by decide) (by decide) (by decide)]
  decide

end Narrowd.Admission
