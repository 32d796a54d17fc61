import Narrowd.Lib.Run
import Narrowd.Lib.Lock
import Narrowd.Admission.Spec

set_option autoImplicit false

/-! # Admission guards

The controller is the admission state behind its lock. A successful `try_acquire_at` hands out
an `AdmissionGuard`; the guard gives its connection slot back when it is dropped, or when
`mark_authenticated` consumes it, whichever comes first. `System` is the controller with the
guards that are held, and its runs are the interleavings of acquires, failures,
authentications and drops, at any times.

The invariant is `Counters`: each of the three tables counts the held guards. From it follow

* `counters_eq_live_guards`: in every reachable state the counters are exact, and giving back a
  guard decrements each of them by one;
* `caps_hold_iff`: when the connection caps bound the held guards. They do for every limit but
  `MaxUnauthConnectionsPerIp 0`: the per-IP limit is only compared when the peer has an entry,
  so a peer without one is let in once.
-/

namespace Narrowd.Admission

open Narrowd.Lib

variable {p : Platform}

/-! ## The controller -/

structure AdmissionGuard where
  peerIp : IpAddr
  subnet : SubnetKey
  released : Bool
  deriving DecidableEq, Repr

/-- The admission state behind its `Mutex`. -/
abbrev AdmissionController (p : Platform) := Lock (AdmissionState p)

namespace AdmissionController

def new (config : AdmissionConfig) (now : Instant p) : AdmissionController p :=
  .healthy (.new config now)

/-- The outer `Option` is `none` when the call panics. -/
def tryAcquireAt (c : AdmissionController p) (peerIp : IpAddr) (now : Instant p) :
    Option (Except RejectReason AdmissionGuard) × AdmissionController p :=
  let subnet := subnetKey peerIp
  match c.withLock fun s => s.tryAcquire peerIp subnet now with
  | (some (.ok ()), c) =>
      (some (.ok { peerIp := peerIp, subnet := subnet, released := false }), c)
  | (some (.error reason), c) => (some (.error reason), c)
  | (none, c) => (none, c)

def recordAuthFailureAt (c : AdmissionController p) (peerIp : IpAddr) (now : Instant p) :
    Option Bool × AdmissionController p :=
  c.withLock fun s => s.recordAuthFailure peerIp now

/-- `now` is the clock reading the controller takes itself. -/
def release (c : AdmissionController p) (peerIp : IpAddr) (subnet : SubnetKey)
    (now : Instant p) : Option Unit × AdmissionController p :=
  c.withLock fun s => (s.release peerIp subnet now).map fun s => ((), s)

end AdmissionController

namespace AdmissionGuard

/-- `AdmissionGuard::release`: a no-op on a guard that was released before. -/
def release (g : AdmissionGuard) (c : AdmissionController p) (now : Instant p) :
    Option AdmissionGuard × AdmissionController p :=
  if g.released then (some g, c)
  else
    match AdmissionController.release c g.peerIp g.subnet now with
    | (some (), c) => (some { g with released := true }, c)
    | (none, c) => (none, c)

/-- `Drop for AdmissionGuard`. -/
def drop (g : AdmissionGuard) (c : AdmissionController p) (now : Instant p) :
    Option Unit × AdmissionController p :=
  ((g.release c now).1.map fun _ => (), (g.release c now).2)

/-- `mark_authenticated` takes the guard by value: it releases it, and the value is dropped when
the call returns. `nowDrop` is the reading of that drop. -/
def markAuthenticated (g : AdmissionGuard) (c : AdmissionController p) (now nowDrop : Instant p) :
    Option Unit × AdmissionController p :=
  match g.release c now with
  | (some g, c) => g.drop c nowDrop
  | (none, c) => (none, c)

end AdmissionGuard

/-! ## The system of held guards -/

/-- The controller and the guards that are held (issued, and neither dropped nor consumed). -/
structure System (p : Platform) where
  controller : AdmissionController p
  guards : List AdmissionGuard

inductive Call (p : Platform)
  | tryAcquireAt (peerIp : IpAddr) (now : Instant p)
  | recordAuthFailureAt (peerIp : IpAddr) (now : Instant p)
  | markAuthenticated (g : AdmissionGuard) (now nowDrop : Instant p)
  | drop (g : AdmissionGuard) (now : Instant p)

namespace System

def new (config : AdmissionConfig) (now : Instant p) : System p :=
  { controller := .new config now, guards := [] }

/-- A guard given back is no longer held. A call that panics gives nothing back. -/
def giveBack (sys : System p) (g : AdmissionGuard) :
    Option Unit × AdmissionController p → System p
  | (some (), c) => { controller := c, guards := sys.guards.erase g }
  | (none, c) => { sys with controller := c }

def call (sys : System p) : Call p → System p
  | .tryAcquireAt peerIp now =>
      match sys.controller.tryAcquireAt peerIp now with
      | (some (.ok g), c) => { controller := c, guards := g :: sys.guards }
      | (_, c) => { sys with controller := c }
  | .recordAuthFailureAt peerIp now =>
      { sys with controller := (sys.controller.recordAuthFailureAt peerIp now).2 }
  | .markAuthenticated g now nowDrop =>
      sys.giveBack g (g.markAuthenticated sys.controller now nowDrop)
  | .drop g now => sys.giveBack g (g.drop sys.controller now)

/-- Only a held guard can be authenticated or dropped: guards are moved, never copied. -/
def Allowed (sys : System p) : Call p → Prop
  | .tryAcquireAt _ _ => True
  | .recordAuthFailureAt _ _ => True
  | .markAuthenticated g _ _ => g ∈ sys.guards
  | .drop g _ => g ∈ sys.guards

def Step (sys : System p) (e : Call p) (sys' : System p) : Prop :=
  sys.Allowed e ∧ sys' = sys.call e

/-- `Reachable config h sys`: a controller made with `config` is in `sys` after the calls `h`. -/
def Reachable (config : AdmissionConfig) : List (Call p) → System p → Prop :=
  Run (fun sys => ∃ now, sys = System.new config now) Step

end System

/-! ## Counting the held guards -/

/-- The held guards of an address. -/
def liveOfIp (gs : List AdmissionGuard) (ip : IpAddr) : Nat :=
  gs.countP fun g => decide (g.peerIp = ip)

/-- The held guards of a subnet. -/
def liveOfSubnet (gs : List AdmissionGuard) (k : SubnetKey) : Nat :=
  gs.countP fun g => decide (g.subnet = k)

theorem liveOfIp_cons (g : AdmissionGuard) (gs : List AdmissionGuard) (ip : IpAddr) :
    liveOfIp (g :: gs) ip = liveOfIp gs ip + if g.peerIp = ip then 1 else 0 := by
  simp [liveOfIp, List.countP_cons]

theorem liveOfSubnet_cons (g : AdmissionGuard) (gs : List AdmissionGuard) (k : SubnetKey) :
    liveOfSubnet (g :: gs) k = liveOfSubnet gs k + if g.subnet = k then 1 else 0 := by
  simp [liveOfSubnet, List.countP_cons]

variable {g : AdmissionGuard} {gs : List AdmissionGuard}

/-- Giving back a held guard takes one off every count it is in. -/
theorem liveOfIp_erase (hg : g ∈ gs) (ip : IpAddr) :
    liveOfIp gs ip = liveOfIp (gs.erase g) ip + if g.peerIp = ip then 1 else 0 := by
  rw [← liveOfIp_cons]
  exact (List.perm_cons_erase hg).countP_eq _

theorem liveOfSubnet_erase (hg : g ∈ gs) (k : SubnetKey) :
    liveOfSubnet gs k = liveOfSubnet (gs.erase g) k + if g.subnet = k then 1 else 0 := by
  rw [← liveOfSubnet_cons]
  exact (List.perm_cons_erase hg).countP_eq _

theorem liveOfIp_pos (hg : g ∈ gs) :
    0 < liveOfIp gs g.peerIp := List.countP_pos_iff.mpr ⟨g, hg, by simp⟩

theorem liveOfSubnet_pos (hg : g ∈ gs) :
    0 < liveOfSubnet gs g.subnet := List.countP_pos_iff.mpr ⟨g, hg, by simp⟩

/-- The connections the state counts for an address; an absent entry counts none. -/
def AdmissionState.peerCount (s : AdmissionState p) (ip : IpAddr) : Nat :=
  ((s.perPeer.lookup ip).map PeerState.unauthenticatedConnections).getD 0

/-- The connections the state counts for a subnet. -/
def AdmissionState.subnetCount (s : AdmissionState p) (k : SubnetKey) : Nat :=
  (s.perSubnet.lookup k).getD 0

/-- **The counters count the guards.** A subnet without guards has no entry; an address with
guards has one. -/
structure Counters (s : AdmissionState p) (gs : List AdmissionGuard) : Prop where
  global : s.unauthenticatedConnections = gs.length
  subnet : ∀ k, s.perSubnet.lookup k
    = if liveOfSubnet gs k = 0 then none else some (liveOfSubnet gs k)
  peer : ∀ ip, s.peerCount ip = liveOfIp gs ip

variable {ip : IpAddr}

namespace Counters

variable {s : AdmissionState p} {gs : List AdmissionGuard}

theorem subnetCount_eq (h : Counters s gs) (k : SubnetKey) :
    s.subnetCount k = liveOfSubnet gs k := by
  rw [AdmissionState.subnetCount, h.subnet]
  split
  · next h0 => rw [h0]; rfl
  · rfl

/-- A held guard's address has an entry. -/
theorem exists_peer (h : Counters s gs) (hpos : 0 < liveOfIp gs ip) :
    ∃ peer, s.perPeer.lookup ip = some peer ∧
      peer.unauthenticatedConnections = liveOfIp gs ip := by
  have hc := h.peer ip
  cases hl : s.perPeer.lookup ip with
  | none =>
      rw [AdmissionState.peerCount, hl] at hc
      simp at hc
      omega
  | some peer =>
      rw [AdmissionState.peerCount, hl] at hc
      exact ⟨peer, rfl, hc⟩

end Counters

/-! ## The cleanup does not touch the counters -/

theorem PeerState.cleaned_count (peer : PeerState p) (now : Instant p) (window : Duration) :
    ((peer.cleaned now window).map PeerState.unauthenticatedConnections).getD 0
      = peer.unauthenticatedConnections := by
  unfold PeerState.cleaned
  split
  · next h => exact (PeerState.canBeRemoved_iff.mp h).1.symm
  · rfl

theorem AdmissionState.sweptPeer_count (s : AdmissionState p) (now : Instant p) (ip : IpAddr) :
    ((s.sweptPeer now ip).map PeerState.unauthenticatedConnections).getD 0 = s.peerCount ip := by
  rw [AdmissionState.sweptPeer, AdmissionState.peerCount]
  split
  · cases s.perPeer.lookup ip with
    | none => rfl
    | some peer => exact peer.cleaned_count now _
  · rfl

theorem AdmissionState.cleanedPeer_count (s : AdmissionState p) (own : IpAddr) (now : Instant p)
    (ip : IpAddr) :
    ((s.cleanedPeer own now ip).map PeerState.unauthenticatedConnections).getD 0
      = s.peerCount ip := by
  rw [AdmissionState.cleanedPeer]
  split
  · rw [AdmissionState.peerCount]
    cases s.perPeer.lookup ip with
    | none => rfl
    | some peer => exact peer.cleaned_count now _
  · exact s.sweptPeer_count now ip

variable {s : AdmissionState p}

theorem AdmissionState.SamePeers.counters {c : AdmissionState p}
    {peers : IpAddr → Option (PeerState p)} (h : AdmissionState.SamePeers s c peers)
    (hp : ∀ ip, ((peers ip).map PeerState.unauthenticatedConnections).getD 0 = s.peerCount ip)
    (hc : Counters s gs) : Counters c gs := by
  refine ⟨h.unauthenticatedConnections.trans hc.global, ?_, ?_⟩
  · intro k; rw [h.perSubnet]; exact hc.subnet k
  · intro ip; rw [AdmissionState.peerCount, h.lookup, hp ip]; exact hc.peer ip

/-! ## Each operation keeps the counters exact -/

theorem peerOrNew_count (s : AdmissionState p) (ip : IpAddr) (now : Instant p) :
    (s.peerOrNew ip now).unauthenticatedConnections = s.peerCount ip := by
  rw [AdmissionState.peerOrNew, AdmissionState.peerCount]
  cases s.perPeer.lookup ip <;> rfl

/-- Replacing the entry of an address by one with the same count keeps the counters. -/
theorem Counters.insert_same (hc : Counters s gs) {peer : PeerState p}
    (hpeer : peer.unauthenticatedConnections = s.peerCount ip) :
    Counters { s with perPeer := s.perPeer.insert ip peer } gs := by
  refine ⟨hc.global, hc.subnet, ?_⟩
  intro k
  rw [AdmissionState.peerCount, Table.lookup_insert_ite]
  split
  · next hk => subst hk; rw [← hc.peer k]; exact hpeer
  · exact hc.peer k

theorem Counters.admitted (hc : Counters s gs) (g : AdmissionGuard) (now : Instant p) :
    Counters (s.admitted g.peerIp g.subnet now) (g :: gs) := by
  refine ⟨?_, ?_, ?_⟩
  · show s.unauthenticatedConnections + 1 = (g :: gs).length
    rw [hc.global, List.length_cons]
  · intro k
    show (s.perSubnet.insert g.subnet _).lookup k = _
    rw [Table.lookup_insert_ite, liveOfSubnet_cons]
    by_cases hk : k = g.subnet
    · subst hk
      have hcount := hc.subnetCount_eq g.subnet
      rw [AdmissionState.subnetCount] at hcount
      simp [hcount]
    · simp [hk, Ne.symm hk, hc.subnet k]
  · intro ip
    rw [liveOfIp_cons, AdmissionState.peerCount]
    show (((s.perPeer.insert g.peerIp _).lookup ip).map _).getD 0 = _
    rw [Table.lookup_insert_ite]
    by_cases hk : ip = g.peerIp
    · subst hk
      simp [peerOrNew_count, hc.peer]
    · have := hc.peer ip
      rw [AdmissionState.peerCount] at this
      simp [hk, Ne.symm hk, this]

variable {now : Instant p} {s' : AdmissionState p}

/-- **`try_acquire` counts the guard it hands out.** -/
theorem Counters.tryAcquire {r : Except RejectReason Unit} (hc : Counters s gs)
    (h : s.tryAcquire ip (subnetKey ip) now = some (r, s')) :
    (∃ reason, r = .error reason ∧ Counters s' gs) ∨
    (r = .ok () ∧ ∃ c, AdmissionState.SamePeers s c (s.cleanedPeer ip now) ∧ Counters c gs ∧
      c.Admissible ip (subnetKey ip) now ∧
      Counters s' ({ peerIp := ip, subnet := subnetKey ip, released := false } :: gs)) := by
  obtain ⟨c, hcl, hadmit⟩ := AdmissionState.tryAcquire_spec h
  have hcc : Counters c gs := hcl.counters (s.cleanedPeer_count ip now) hc
  obtain ⟨reason, rfl, rfl⟩ | ⟨rfl, rfl⟩ | ⟨rfl, hadm, rfl⟩ :=
    AdmissionState.decideAcquire_cases hadmit
  · exact Or.inl ⟨reason, rfl, hcc⟩
  · exact Or.inl ⟨_, rfl, hcc.insert_same (peerOrNew_count c ip now)⟩
  · exact Or.inr ⟨rfl, c, hcl, hcc, hadm,
      hcc.admitted { peerIp := ip, subnet := subnetKey ip, released := false } now⟩

theorem Counters.recordAuthFailure {banned : Bool} (hc : Counters s gs)
    (h : s.recordAuthFailure ip now = some (banned, s')) : Counters s' gs := by
  obtain ⟨c, hcl, hcount⟩ := AdmissionState.recordAuthFailure_spec h
  have hcc : Counters c gs := hcl.counters (s.cleanedPeer_count ip now) hc
  obtain ⟨-, -, until_, -, rfl⟩ | ⟨-, -, rfl⟩ := AdmissionState.countFailure_cases hcount
  · exact hcc.insert_same (peerOrNew_count c ip now)
  · exact hcc.insert_same (peerOrNew_count c ip now)

/-- **`release` uncounts the guard it is called for.** -/
theorem Counters.release (hc : Counters s gs) (hg : g ∈ gs)
    (h : s.release g.peerIp g.subnet now = some s') : Counters s' (gs.erase g) := by
  obtain ⟨-, hglobal, hsubnet, hpeer⟩ := AdmissionState.release_spec h
  refine ⟨?_, ?_, ?_⟩
  · rw [hglobal, hc.global, List.length_erase_of_mem hg]
  · intro k
    have hlive := liveOfSubnet_erase hg k
    rw [hsubnet, hc.subnet]
    by_cases hk : k = g.subnet
    · subst hk
      rw [if_pos rfl] at hlive
      rw [if_pos rfl, if_neg (by omega), AdmissionState.subnetAfterRelease]
      by_cases h1 : liveOfSubnet (gs.erase g) g.subnet = 0
      · simp [hlive, h1]
      · simp only [Option.bind_some]
        rw [if_pos (by omega), if_neg h1, hlive]
        rfl
    · rw [if_neg hk]
      rw [if_neg (Ne.symm hk), Nat.add_zero] at hlive
      rw [hlive]
  · intro ip
    have hlive := liveOfIp_erase hg ip
    rw [AdmissionState.peerCount, hpeer, AdmissionState.peerAfterRelease]
    have hswept := s.sweptPeer_count now ip
    rw [hc.peer] at hswept
    by_cases hk : ip = g.peerIp
    · subst hk
      rw [if_pos rfl] at hlive
      rw [if_pos rfl]
      cases hl : s.sweptPeer now g.peerIp with
      | none => rw [hl] at hswept; simp at hswept; omega
      | some peer =>
          rw [hl] at hswept
          show (((peer.released).cleaned now _).map _).getD 0 = _
          rw [PeerState.cleaned_count]
          show peer.unauthenticatedConnections - 1 = _
          have : peer.unauthenticatedConnections = liveOfIp gs g.peerIp := hswept
          omega
    · rw [if_neg hk]
      rw [if_neg (Ne.symm hk), Nat.add_zero] at hlive
      rw [hswept, hlive]

/-! ## Giving a guard back -/

variable {c c' : AdmissionController p}

namespace AdmissionGuard

/-- Releasing a fresh guard is one `release` of the state behind the lock. -/
theorem release_fresh {g' : AdmissionGuard} (hg : g.released = false)
    (h : g.release c now = (some g', c')) :
    g' = { g with released := true } ∧
    ∃ s s', c = .healthy s ∧ s.release g.peerIp g.subnet now = some s' ∧ c' = .healthy s' := by
  simp only [release, hg, Bool.false_eq_true, if_false] at h
  split at h
  · next c'' hrel =>
      obtain ⟨hg', rfl⟩ := Prod.mk.inj h
      obtain ⟨s, s', hs, hrel', hs'⟩ := Lock.withLock_eq_some hrel
      simp only [Option.map_eq_some_iff, Prod.mk.injEq, true_and] at hrel'
      obtain ⟨s'', hrel'', rfl⟩ := hrel'
      exact ⟨(Option.some.inj hg').symm, s, s'', hs, hrel'', hs'⟩
  · cases h

theorem release_panic (h : g.release c now = (none, c')) : c' = .poisoned := by
  unfold release at h
  split at h
  · cases h
  · split at h
    · cases h
    · next c'' hrel =>
        obtain ⟨-, rfl⟩ := Prod.mk.inj h
        exact Lock.withLock_eq_none hrel

/-- Dropping a fresh guard releases it once. -/
theorem drop_fresh (hg : g.released = false) (h : g.drop c now = (some (), c')) :
    ∃ s s', c = .healthy s ∧ s.release g.peerIp g.subnet now = some s' ∧ c' = .healthy s' := by
  unfold drop at h
  cases hrel : g.release c now with
  | mk r c'' =>
      rw [hrel] at h
      cases r with
      | none => cases h
      | some g' =>
          obtain ⟨-, rfl⟩ := Prod.mk.inj h
          exact (release_fresh hg hrel).2

/-- `mark_authenticated` releases a fresh guard once: the drop that follows finds it released. -/
theorem markAuthenticated_fresh {nowDrop : Instant p} (hg : g.released = false)
    (h : g.markAuthenticated c now nowDrop = (some (), c')) :
    ∃ s s', c = .healthy s ∧ s.release g.peerIp g.subnet now = some s' ∧ c' = .healthy s' := by
  unfold markAuthenticated at h
  split at h
  · next g' c'' hrel =>
      obtain ⟨rfl, hs⟩ := release_fresh hg hrel
      simp only [drop, release, if_true, Option.map_some, Prod.mk.injEq, true_and] at h
      subst h
      exact hs
  · cases h

theorem drop_panic (h : g.drop c now = (none, c')) : c' = .poisoned := by
  unfold drop at h
  cases hrel : g.release c now with
  | mk r c'' =>
      rw [hrel] at h
      cases r with
      | some g' => cases h
      | none =>
          obtain ⟨-, rfl⟩ := Prod.mk.inj h
          exact release_panic hrel

theorem markAuthenticated_panic {nowDrop : Instant p}
    (h : g.markAuthenticated c now nowDrop = (none, c')) : c' = .poisoned := by
  unfold markAuthenticated at h
  split at h
  · exact drop_panic h
  · next c'' hrel =>
      obtain ⟨-, rfl⟩ := Prod.mk.inj h
      exact release_panic hrel

end AdmissionGuard

/-! ## The invariant of the system -/

/-- The invariant of the system: held guards are fresh and filed under their own subnet, and
behind a healthy lock the counters count them. -/
structure System.Inv (config : AdmissionConfig) (sys : System p) : Prop where
  fresh : ∀ g ∈ sys.guards, g.released = false
  subnet : ∀ g ∈ sys.guards, g.subnet = subnetKey g.peerIp
  config_eq : ∀ s, sys.controller = .healthy s → s.config = config
  counters : ∀ s, sys.controller = .healthy s → Counters s sys.guards

variable {sys : System p}

namespace System

variable {config : AdmissionConfig}

theorem Inv.new (config : AdmissionConfig) (now : Instant p) :
    (System.new config now).Inv config := by
  refine ⟨by simp [System.new], by simp [System.new], ?_, ?_⟩
  · intro s hs; cases hs; rfl
  · intro s hs
    cases hs
    exact ⟨rfl, fun k => rfl, fun ip => rfl⟩

/-- A poisoned lock gives access to no state, so nothing has to be kept behind it. -/
theorem Inv.poison (hi : sys.Inv config) :
    ({ sys with controller := .poisoned } : System p).Inv config :=
  ⟨hi.fresh, hi.subnet, (fun _ h => by cases h), (fun _ h => by cases h)⟩

/-- The guards held after an acquire, with the checks an admitted one has passed. -/
theorem Inv.tryAcquireAt (hi : sys.Inv config) (ip : IpAddr) (now : Instant p) :
    (sys.call (.tryAcquireAt ip now)).Inv config ∧
    ((sys.call (.tryAcquireAt ip now)).guards = sys.guards ∨
      ∃ c : AdmissionState p, c.config = config ∧ Counters c sys.guards ∧
        c.Admissible ip (subnetKey ip) now ∧
        (sys.call (.tryAcquireAt ip now)).guards
          = { peerIp := ip, subnet := subnetKey ip, released := false } :: sys.guards) := by
  simp only [call, AdmissionController.tryAcquireAt]
  cases hl : Lock.withLock sys.controller fun s => s.tryAcquire ip (subnetKey ip) now with
  | mk r c' =>
      cases r with
      | none =>
          have hpois := Lock.withLock_eq_none hl
          subst hpois
          exact ⟨hi.poison, Or.inl rfl⟩
      | some r =>
          obtain ⟨s, s', hs, hacq, rfl⟩ := Lock.withLock_eq_some hl
          have hconf : s'.config = config :=
            (AdmissionState.tryAcquire_config hacq).trans (hi.config_eq s hs)
          obtain ⟨reason, rfl, hc⟩ | ⟨rfl, c, hcl, hcc, hadm, hc⟩ :=
            (hi.counters s hs).tryAcquire hacq
          · refine ⟨⟨hi.fresh, hi.subnet, ?_, ?_⟩, Or.inl rfl⟩
            · intro s'' h; cases h; exact hconf
            · intro s'' h; cases h; exact hc
          · refine ⟨⟨?_, ?_, ?_, ?_⟩, Or.inr
              ⟨c, hcl.config.trans (hi.config_eq s hs), hcc, hadm, rfl⟩⟩
            · intro g hg
              rcases List.mem_cons.mp hg with rfl | hg
              · rfl
              · exact hi.fresh g hg
            · intro g hg
              rcases List.mem_cons.mp hg with rfl | hg
              · rfl
              · exact hi.subnet g hg
            · intro s'' h; cases h; exact hconf
            · intro s'' h; cases h; exact hc

theorem Inv.recordAuthFailureAt (hi : sys.Inv config) (ip : IpAddr) (now : Instant p) :
    (sys.call (.recordAuthFailureAt ip now)).Inv config := by
  simp only [call, AdmissionController.recordAuthFailureAt]
  cases hl : Lock.withLock sys.controller fun s => s.recordAuthFailure ip now with
  | mk r c' =>
      cases r with
      | none =>
          have hpois := Lock.withLock_eq_none hl
          subst hpois
          exact hi.poison
      | some banned =>
          obtain ⟨s, s', hs, hrec, rfl⟩ := Lock.withLock_eq_some hl
          refine ⟨hi.fresh, hi.subnet, ?_, ?_⟩
          · intro s'' h
            cases h
            exact (AdmissionState.recordAuthFailure_config hrec).trans (hi.config_eq s hs)
          · intro s'' h
            cases h
            exact (hi.counters s hs).recordAuthFailure hrec

/-- Giving back a held guard, by either route. -/
theorem Inv.giveBack (hi : sys.Inv config) (hg : g ∈ sys.guards) (now : Instant p) {r : Option Unit}
    (hsome : r = some () → ∃ s s', sys.controller = .healthy s ∧
      s.release g.peerIp g.subnet now = some s' ∧ c' = .healthy s')
    (hnone : r = none → c' = .poisoned) : (sys.giveBack g (r, c')).Inv config := by
  cases r with
  | none => rw [hnone rfl]; exact hi.poison
  | some u =>
      obtain ⟨s, s', hs, hrel, rfl⟩ := hsome rfl
      refine ⟨fun g' hg' => hi.fresh g' (List.mem_of_mem_erase hg'),
        fun g' hg' => hi.subnet g' (List.mem_of_mem_erase hg'), ?_, ?_⟩
      · intro s'' h
        cases h
        exact (AdmissionState.release_spec hrel).1.trans (hi.config_eq s hs)
      · intro s'' h
        cases h
        exact (hi.counters s hs).release hg hrel

theorem Inv.step {sys' : System p} {e : Call p} (hi : sys.Inv config) (hs : sys.Step e sys') :
    sys'.Inv config := by
  obtain ⟨hallow, rfl⟩ := hs
  cases e with
  | tryAcquireAt ip now => exact (hi.tryAcquireAt ip now).1
  | recordAuthFailureAt ip now => exact hi.recordAuthFailureAt ip now
  | markAuthenticated g now nowDrop =>
      refine hi.giveBack hallow now (fun h => ?_) (fun h => ?_)
      · exact AdmissionGuard.markAuthenticated_fresh (hi.fresh g hallow) (Prod.ext h rfl)
      · exact AdmissionGuard.markAuthenticated_panic (Prod.ext h rfl)
  | drop g now =>
      refine hi.giveBack hallow now (fun h => ?_) (fun h => ?_)
      · exact AdmissionGuard.drop_fresh (hi.fresh g hallow) (Prod.ext h rfl)
      · exact AdmissionGuard.drop_panic (Prod.ext h rfl)

theorem Reachable.inv {h : List (Call p)} (hr : Reachable config h sys) : sys.Inv config := by
  refine hr.invariant (P := fun _ sys => sys.Inv config) ?_ ?_
  · rintro sys ⟨now, rfl⟩
    exact .new config now
  · intro h sys e sys' _ hi hs
    exact hi.step hs

end System

/-! ## The first connection -/

/-- The guard a peer is given. -/
def guardOf (ip : IpAddr) : AdmissionGuard :=
  { peerIp := ip, subnet := subnetKey ip, released := false }

variable {config : AdmissionConfig}

/-- The system after the first connection to a fresh controller. -/
theorem System.call_new (ip : IpAddr) (hglobal : 0 < config.maxUnauthConnectionsGlobal)
    (hsubnet : 0 < config.maxUnauthConnectionsPerSubnet)
    (hburst : 0 < config.newConnectionsBurstPerIp) :
    (System.new config now).call (.tryAcquireAt ip now)
      = { controller := .healthy ((AdmissionState.new config now).admitted ip (subnetKey ip) now)
          guards := [guardOf ip] } := by
  simp only [System.call, System.new, AdmissionController.tryAcquireAt, AdmissionController.new,
    Lock.withLock_healthy, AdmissionState.tryAcquire_new ip (subnetKey ip) hglobal hsubnet hburst]
  rfl

theorem System.reachable_first (now : Instant p) (ip : IpAddr) :
    System.Reachable config [.tryAcquireAt ip now]
      ((System.new config now).call (.tryAcquireAt ip now)) :=
  .cons (.nil ⟨now, rfl⟩) ⟨trivial, rfl⟩

/-! ## The counters are the live guards -/

/-- The three counters a guard is in, each one smaller in `s'` than in `s`. -/
def DecrementedOnce (s s' : AdmissionState p) (g : AdmissionGuard) : Prop :=
  s'.unauthenticatedConnections + 1 = s.unauthenticatedConnections ∧
  s'.subnetCount g.subnet + 1 = s.subnetCount g.subnet ∧
  s'.peerCount g.peerIp + 1 = s.peerCount g.peerIp

theorem Counters.decrementedOnce (hc : Counters s gs) (hg : g ∈ gs)
    (h : s.release g.peerIp g.subnet now = some s') : DecrementedOnce s s' g := by
  have hc' := hc.release hg h
  have hlen := List.length_erase_of_mem hg
  have hpos : 0 < gs.length := List.length_pos_of_mem hg
  refine ⟨?_, ?_, ?_⟩
  · rw [hc'.global, hc.global]; omega
  · have := liveOfSubnet_erase hg g.subnet
    rw [hc'.subnetCount_eq, hc.subnetCount_eq, this, if_pos rfl]
  · have := liveOfIp_erase hg g.peerIp
    rw [hc'.peer, hc.peer, this, if_pos rfl]

/-- The comparisons of `release`, all of which find something to decrement. -/
def NothingSkipped (c : AdmissionState p) (g : AdmissionGuard) : Prop :=
  0 < c.unauthenticatedConnections ∧
  (∃ n, c.perSubnet.lookup g.subnet = some n ∧ 0 < n) ∧
  ∃ peer, c.perPeer.lookup g.peerIp = some peer ∧ 0 < peer.unauthenticatedConnections

theorem Counters.nothingSkipped {c : AdmissionState p} (hc : Counters s gs) (hg : g ∈ gs)
    (h : s.maybeCleanupPeers now = some c) : NothingSkipped c g := by
  have hcc : Counters c gs :=
    (AdmissionState.maybeCleanupPeers_spec h).counters (s.sweptPeer_count now) hc
  have hsub := liveOfSubnet_pos hg
  have hip := liveOfIp_pos hg
  refine ⟨?_, ?_, ?_⟩
  · rw [hcc.global]; exact List.length_pos_of_mem hg
  · exact ⟨_, by rw [hcc.subnet, if_neg (by omega)], hsub⟩
  · obtain ⟨peer, hpeer, hcount⟩ := hcc.exists_peer hip
    exact ⟨peer, hpeer, by omega⟩

/-- **The admission counters are exactly the live guards**, in every state reached by any
calls at any times none of which panicked (behind a healthy lock). Giving back a guard, by
`mark_authenticated` or by a drop, decrements its three counters by one, and no comparison of
`release` finds nothing to decrement. -/
theorem counters_eq_live_guards {config : AdmissionConfig} {h : List (Call p)} {sys : System p}
    {s : AdmissionState p} (hr : System.Reachable config h sys)
    (hs : sys.controller = .healthy s) :
    s.unauthenticatedConnections = sys.guards.length ∧
    (∀ k, s.perSubnet.lookup k
      = if liveOfSubnet sys.guards k = 0 then none else some (liveOfSubnet sys.guards k)) ∧
    (∀ ip, 0 < liveOfIp sys.guards ip → ∃ peer, s.perPeer.lookup ip = some peer ∧
      peer.unauthenticatedConnections = liveOfIp sys.guards ip) ∧
    (∀ ip, liveOfIp sys.guards ip = 0 → ∀ peer, s.perPeer.lookup ip = some peer →
      peer.unauthenticatedConnections = 0) ∧
    (∀ g ∈ sys.guards, ∀ now nowDrop c',
      g.markAuthenticated sys.controller now nowDrop = (some (), c') →
        ∃ s', c' = .healthy s' ∧ DecrementedOnce s s' g) ∧
    (∀ g ∈ sys.guards, ∀ now c', g.drop sys.controller now = (some (), c') →
      ∃ s', c' = .healthy s' ∧ DecrementedOnce s s' g) ∧
    (∀ g ∈ sys.guards, ∀ now c, s.maybeCleanupPeers now = some c → NothingSkipped c g) := by
  have hi := hr.inv
  have hc := hi.counters s hs
  refine ⟨hc.global, hc.subnet, fun ip => hc.exists_peer, ?_, ?_, ?_, ?_⟩
  · intro ip h0 peer hpeer
    have := hc.peer ip
    rw [AdmissionState.peerCount, hpeer, h0] at this
    exact this
  · intro g hg now nowDrop c' hmark
    obtain ⟨s₀, s', hs₀, hrel, rfl⟩ :=
      AdmissionGuard.markAuthenticated_fresh (hi.fresh g hg) hmark
    rw [hs] at hs₀
    cases hs₀
    exact ⟨s', rfl, hc.decrementedOnce hg hrel⟩
  · intro g hg now c' hdrop
    obtain ⟨s₀, s', hs₀, hrel, rfl⟩ := AdmissionGuard.drop_fresh (hi.fresh g hg) hdrop
    rw [hs] at hs₀
    cases hs₀
    exact ⟨s', rfl, hc.decrementedOnce hg hrel⟩
  · intro g hg now c hc'
    exact hc.nothingSkipped hg hc'

/-- The system after some calls, the newest first. -/
def System.after (config : AdmissionConfig) (calls : List (Call .linux)) : System .linux :=
  calls.foldr (fun e sys => sys.call e) (.new config (linuxAt 0))

/-- Two peers connect, one of them twice; it drops a connection, and a failure of a third peer comes
with a sweep. -/
def mixedCalls : List (Call .linux) :=
  [.recordAuthFailureAt idlePeer (linuxAt 70), .drop (guardOf testPeer) (linuxAt 4),
    .tryAcquireAt testPeer (linuxAt 2), .tryAcquireAt otherPeer (linuxAt 1),
    .tryAcquireAt testPeer (linuxAt 0)]

theorem run_mixedCalls : Run (· = System.new testConfig (linuxAt 0)) System.Step mixedCalls
    (System.after testConfig mixedCalls) := by
  have hheld : guardOf testPeer ∈ (System.after testConfig (mixedCalls.drop 2)).guards := by
    decide +kernel
  exact .cons (.cons (.cons (.cons (.cons (.nil rfl) ⟨trivial, rfl⟩) ⟨trivial, rfl⟩)
    ⟨trivial, rfl⟩) ⟨hheld, rfl⟩) ⟨trivial, rfl⟩

theorem counters_after_release_and_sweep :
    ∃ s, (System.after testConfig mixedCalls).controller = .healthy s ∧
      s.lastPeerSweep = linuxAt 70 ∧ s.unauthenticatedConnections = 2 := by
  have hreach : System.Reachable testConfig mixedCalls (System.after testConfig mixedCalls) :=
    run_mixedCalls.mono (fun _ h0 => ⟨linuxAt 0, h0⟩) fun _ _ _ hs => hs
  have hlength : (System.after testConfig mixedCalls).guards.length = 2 := by decide +kernel
  have hsweep : (System.after testConfig mixedCalls).controller.state?.map (·.lastPeerSweep) =
      some (linuxAt 70) := by decide +kernel
  obtain ⟨s, hs, hswept⟩ := Option.map_eq_some_iff.mp hsweep
  have hhealthy := Lock.state?_eq_some_iff.mp hs
  exact ⟨s, hhealthy, hswept, (counters_eq_live_guards hreach hhealthy).1.trans hlength⟩

/-! ## The connection caps -/

/-- The held guards are within the three limits. -/
structure CapsHold (config : AdmissionConfig) (gs : List AdmissionGuard) : Prop where
  global : gs.length ≤ config.maxUnauthConnectionsGlobal
  ip : ∀ ip, liveOfIp gs ip ≤ config.maxUnauthConnectionsPerIp
  subnet : ∀ k, liveOfSubnet gs k ≤ config.maxUnauthConnectionsPerSubnet

/-- The per-IP limit admits a first connection, or nothing is ever admitted. -/
def FirstConnectionCovered (config : AdmissionConfig) : Prop :=
  0 < config.maxUnauthConnectionsPerIp ∨ config.maxUnauthConnectionsGlobal = 0 ∨
    config.maxUnauthConnectionsPerSubnet = 0 ∨ config.newConnectionsBurstPerIp = 0

theorem TokenBucket.level_le_burst (b : TokenBucket p) (limit burst : Nat) (now : Instant p) :
    b.level limit burst now ≤ burst := min_le_right _ _

/-- An admitted connection keeps the guards within the caps. -/
theorem CapsHold.admitted {c : AdmissionState p} (hcov : FirstConnectionCovered config)
    (h : CapsHold config gs) (hconf : c.config = config) (hc : Counters c gs)
    (hadm : c.Admissible g.peerIp g.subnet now) : CapsHold config (g :: gs) := by
  have hglobal := hadm.global_lt
  have hsubnet := hadm.subnet_lt
  have hcount := hc.subnetCount_eq g.subnet
  rw [AdmissionState.subnetCount] at hcount
  rw [hc.global, hconf] at hglobal
  rw [hcount, hconf] at hsubnet
  refine ⟨?_, ?_, ?_⟩
  · rw [List.length_cons]; omega
  · intro ip
    rw [liveOfIp_cons]
    by_cases hip : g.peerIp = ip
    · subst hip
      rw [if_pos rfl]
      rcases Nat.eq_zero_or_pos (liveOfIp gs g.peerIp) with h0 | hpos
      · -- the first connection of this address: no entry was compared
        have htoken := le_trans hadm.token (TokenBucket.level_le_burst _ _ _ _)
        rw [hconf] at htoken
        have hburst : 1 ≤ config.newConnectionsBurstPerIp := by exact_mod_cast htoken
        rcases hcov with h1 | h1 | h1 | h1 <;> omega
      · obtain ⟨peer, hpeer, hpc⟩ := hc.exists_peer hpos
        have := hadm.ip_lt peer hpeer
        rw [hconf] at this
        omega
    · rw [if_neg hip, Nat.add_zero]; exact h.ip ip
  · intro k
    rw [liveOfSubnet_cons]
    by_cases hk : g.subnet = k
    · subst hk; rw [if_pos rfl]; omega
    · rw [if_neg hk, Nat.add_zero]; exact h.subnet k

theorem CapsHold.erase (h : CapsHold config gs) : CapsHold config (gs.erase g) := by
  refine ⟨?_, ?_, ?_⟩
  · exact le_trans List.length_erase_le h.global
  · intro ip
    exact le_trans ((List.erase_sublist).countP_le) (h.ip ip)
  · intro k
    exact le_trans ((List.erase_sublist).countP_le) (h.subnet k)

theorem CapsHold.giveBack (h : CapsHold config sys.guards) (g : AdmissionGuard)
    (r : Option Unit × AdmissionController p) : CapsHold config (sys.giveBack g r).guards := by
  rcases r with ⟨_ | _, c⟩
  · exact h
  · exact h.erase

theorem System.Reachable.caps (hcov : FirstConnectionCovered config) {h : List (Call p)}
    (hr : System.Reachable config h sys) : CapsHold config sys.guards := by
  refine hr.invariant (P := fun _ sys => CapsHold config sys.guards) ?_ ?_
  · rintro sys ⟨now, rfl⟩
    exact ⟨Nat.zero_le _, fun _ => Nat.zero_le _, fun _ => Nat.zero_le _⟩
  · rintro h sys e sys' hr hcaps ⟨hallow, rfl⟩
    have hi := System.Reachable.inv hr
    cases e with
    | tryAcquireAt ip now =>
        rcases (hi.tryAcquireAt ip now).2 with hg | ⟨c, hconf, hc, hadm, hg⟩
        · rw [hg]; exact hcaps
        · rw [hg]; exact hcaps.admitted hcov hconf hc hadm
    | recordAuthFailureAt ip now => exact hcaps
    | markAuthenticated g now nowDrop => exact hcaps.giveBack g _
    | drop g now => exact hcaps.giveBack g _

/-- **When the caps hold.** In every state reached by any calls at any times, whether or not one
of them panicked, the held guards are within the three limits, if and only if the per-IP limit
is positive or another limit keeps every connection out. -/
theorem caps_hold_iff (config : AdmissionConfig) :
    (∀ (h : List (Call p)) (sys : System p), System.Reachable config h sys →
      CapsHold config sys.guards) ↔ FirstConnectionCovered config := by
  constructor
  · intro hall
    by_contra hcov
    simp only [FirstConnectionCovered, not_or] at hcov
    obtain ⟨hip, hglobal, hsubnet, hburst⟩ := hcov
    have hmin : p.instantMin ≤ 0 := by cases p <;> decide
    have hmax : 0 ≤ p.instantMax := by cases p <;> decide
    have hr : System.Reachable config _ _ :=
      System.reachable_first (⟨0, hmin, hmax⟩ : Instant p) testPeer
    rw [System.call_new testPeer (by omega) (by omega) (by omega)] at hr
    have hone := (hall _ _ hr).ip testPeer
    have : liveOfIp [guardOf testPeer] testPeer = 1 := by decide
    have hle : liveOfIp [guardOf testPeer] testPeer ≤ config.maxUnauthConnectionsPerIp := hone
    omega
  · intro hcov h sys hr
    exact hr.caps hcov

/-- `testConfig` with `MaxUnauthConnectionsPerIp 0`. -/
def noPerIpConfig : AdmissionConfig := { testConfig with maxUnauthConnectionsPerIp := 0 }

/-- `MaxUnauthConnectionsPerIp 0` admits a connection. -/
theorem caps_exceeded_at_zero :
    ∃ (h : List (Call .linux)) (sys : System .linux), System.Reachable noPerIpConfig h sys ∧
      ¬ liveOfIp sys.guards testPeer ≤ noPerIpConfig.maxUnauthConnectionsPerIp := by
  have hr : System.Reachable noPerIpConfig _ _ := System.reachable_first (linuxAt 7) testPeer
  rw [System.call_new testPeer (by decide) (by decide) (by decide)] at hr
  exact ⟨_, _, hr, by decide⟩

end Narrowd.Admission
