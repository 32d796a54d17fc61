import Narrowd.Lib.Table
import Narrowd.Basic.Time
import Narrowd.Basic.Net
import Mathlib.Data.Rat.Floor
import Mathlib.Tactic

set_option autoImplicit false

/-! # The admission state

The state behind the admission lock (`admission.rs`): the connection counters, and for each
peer its failures, its ban and the token bucket of its connection attempts. The operations are
translated statement by statement. `none` is the panic of an `Instant` computation that leaves
the representable range; it can only come from `now - auth_failure_ban_window` and
`now + auth_failure_ban_duration`.

Bucket levels are rational numbers instead of `f64`. The counters are natural numbers: each
increment follows a comparison with a `usize` limit, so none of them can overflow.
-/

namespace Narrowd.Admission

open Narrowd.Lib

/-! ## Configuration -/

structure AdmissionConfig where
  maxUnauthConnectionsGlobal : Nat
  maxUnauthConnectionsPerIp : Nat
  maxUnauthConnectionsPerSubnet : Nat
  newConnectionsPerMinutePerIp : Nat
  newConnectionsBurstPerIp : Nat
  authFailureBanThreshold : Nat
  authFailureBanWindow : Duration
  authFailureBanDuration : Duration
  deriving DecidableEq, Repr

def peerSweepInterval : Duration := Duration.fromSecs 60

inductive RejectReason
  | tooManyUnauthenticatedConnections
  | tooManyUnauthenticatedConnectionsForIp
  | tooManyUnauthenticatedConnectionsForSubnet
  | connectionRateLimited
  | temporarilyBanned
  deriving DecidableEq, Repr

/-! ## The token bucket -/

structure TokenBucket (p : Platform) where
  tokens : ℚ
  lastRefill : Instant p

namespace TokenBucket

variable {p : Platform}

def new (burstLimit : Nat) (now : Instant p) : TokenBucket p :=
  { tokens := burstLimit, lastRefill := now }

/-- `Duration::as_secs_f64`. -/
def asSecs (d : Duration) : ℚ := d / 1000000000

def refill (b : TokenBucket p) (limitPerMinute burstLimit : Nat) (now : Instant p) :
    TokenBucket p :=
  let refillRatePerSecond : ℚ := limitPerMinute / 60
  let elapsed := asSecs (now.saturatingDurationSince b.lastRefill)
  { tokens := min (b.tokens + elapsed * refillRatePerSecond) burstLimit, lastRefill := now }

def tryConsume (b : TokenBucket p) (limitPerMinute burstLimit : Nat) (now : Instant p) :
    Bool × TokenBucket p :=
  let b := b.refill limitPerMinute burstLimit now
  if 1 ≤ b.tokens then (true, { b with tokens := b.tokens - 1 }) else (false, b)

end TokenBucket

/-! ## Peers -/

structure PeerState (p : Platform) where
  unauthenticatedConnections : Nat
  /-- Oldest first: the `VecDeque` is pushed at the back and pruned at the front. -/
  authFailures : List (Instant p)
  bannedUntil : Option (Instant p)
  connectionBucket : TokenBucket p

/-- Drop the values before `oldestAllowed` from the front of the queue. -/
def pruneBefore {p : Platform} (values : List (Instant p)) (oldestAllowed : Instant p) :
    List (Instant p) :=
  values.dropWhile fun value => decide (value < oldestAllowed)

namespace PeerState

variable {p : Platform}

def new (burstLimit : Nat) (now : Instant p) : PeerState p :=
  { unauthenticatedConnections := 0
    authFailures := []
    bannedUntil := none
    connectionBucket := .new burstLimit now }

def isBanned (peer : PeerState p) (now : Instant p) : Bool :=
  peer.bannedUntil.any fun until_ => decide (now < until_)

def refreshTransientState (peer : PeerState p) (now : Instant p)
    (authFailureBanWindow : Duration) : Option (PeerState p) := do
  let bannedUntil :=
    if peer.bannedUntil.any fun until_ => decide (until_ ≤ now) then none else peer.bannedUntil
  let oldestAllowed ← now.checkedSub authFailureBanWindow
  some { peer with
    bannedUntil := bannedUntil
    authFailures := pruneBefore peer.authFailures oldestAllowed }

def canBeRemoved (peer : PeerState p) : Bool :=
  peer.unauthenticatedConnections == 0 && peer.bannedUntil.isNone && peer.authFailures.isEmpty

end PeerState

/-! ## The state and its operations -/

structure AdmissionState (p : Platform) where
  config : AdmissionConfig
  unauthenticatedConnections : Nat
  perSubnet : Table SubnetKey Nat
  perPeer : Table IpAddr (PeerState p)
  lastPeerSweep : Instant p

namespace AdmissionState

variable {p : Platform}

def new (config : AdmissionConfig) (now : Instant p) : AdmissionState p :=
  { config := config
    unauthenticatedConnections := 0
    perSubnet := ∅
    perPeer := ∅
    lastPeerSweep := now }

/-- The sweep over all peers, at most once per `peerSweepInterval`. -/
def maybeCleanupPeers (s : AdmissionState p) (now : Instant p) : Option (AdmissionState p) :=
  if now.saturatingDurationSince s.lastPeerSweep < peerSweepInterval then some s
  else do
    let perPeer ← s.perPeer.retain? fun peer => do
      let peer ← peer.refreshTransientState now s.config.authFailureBanWindow
      some (if peer.canBeRemoved then none else some peer)
    some { s with perPeer := perPeer, lastPeerSweep := now }

def cleanupPeer (s : AdmissionState p) (peerIp : IpAddr) (now : Instant p) :
    Option (AdmissionState p) :=
  match s.perPeer.lookup peerIp with
  | none => some s
  | some peer => do
      let peer ← peer.refreshTransientState now s.config.authFailureBanWindow
      if peer.canBeRemoved then some { s with perPeer := s.perPeer.erase peerIp }
      else some { s with perPeer := s.perPeer.insert peerIp peer }

/-- The entry of a peer, created with a full bucket when there is none
(`entry(..).or_insert_with(..)`). -/
def peerOrNew (s : AdmissionState p) (peerIp : IpAddr) (now : Instant p) : PeerState p :=
  (s.perPeer.lookup peerIp).getD (.new s.config.newConnectionsBurstPerIp now)

/-- The checks and updates of `try_acquire` once stale peers are cleaned up. The per-IP limit is
only compared when the peer has an entry. -/
def decideAcquire (s : AdmissionState p) (peerIp : IpAddr) (subnet : SubnetKey) (now : Instant p) :
    Except RejectReason Unit × AdmissionState p :=
  let peer? := s.perPeer.lookup peerIp
  if peer?.any fun peer => peer.isBanned now then (.error .temporarilyBanned, s)
  else if s.config.maxUnauthConnectionsGlobal ≤ s.unauthenticatedConnections then
    (.error .tooManyUnauthenticatedConnections, s)
  else if peer?.any fun peer =>
      decide (s.config.maxUnauthConnectionsPerIp ≤ peer.unauthenticatedConnections) then
    (.error .tooManyUnauthenticatedConnectionsForIp, s)
  else
    let subnetConnections := (s.perSubnet.lookup subnet).getD 0
    if s.config.maxUnauthConnectionsPerSubnet ≤ subnetConnections then
      (.error .tooManyUnauthenticatedConnectionsForSubnet, s)
    else
      let peer := s.peerOrNew peerIp now
      match peer.connectionBucket.tryConsume s.config.newConnectionsPerMinutePerIp
          s.config.newConnectionsBurstPerIp now with
      | (false, bucket) =>
          let peer := { peer with connectionBucket := bucket }
          (.error .connectionRateLimited, { s with perPeer := s.perPeer.insert peerIp peer })
      | (true, bucket) =>
          let peer := { peer with
            connectionBucket := bucket
            unauthenticatedConnections := peer.unauthenticatedConnections + 1 }
          (.ok (),
            { s with
              unauthenticatedConnections := s.unauthenticatedConnections + 1
              perPeer := s.perPeer.insert peerIp peer
              perSubnet := s.perSubnet.insert subnet (subnetConnections + 1) })

def tryAcquire (s : AdmissionState p) (peerIp : IpAddr) (subnet : SubnetKey) (now : Instant p) :
    Option (Except RejectReason Unit × AdmissionState p) := do
  let s ← s.maybeCleanupPeers now
  let s ← s.cleanupPeer peerIp now
  some (s.decideAcquire peerIp subnet now)

/-- The part of `record_auth_failure` after the cleanup: prune, count the new failure, and ban
the peer when the threshold is reached. -/
def countFailure (s : AdmissionState p) (peerIp : IpAddr) (now : Instant p) :
    Option (Bool × AdmissionState p) := do
  let peer := s.peerOrNew peerIp now
  let oldestAllowed ← now.checkedSub s.config.authFailureBanWindow
  let authFailures := pruneBefore peer.authFailures oldestAllowed ++ [now]
  if s.config.authFailureBanThreshold ≤ authFailures.length then do
    let bannedUntil ← now.checkedAdd s.config.authFailureBanDuration
    let peer := { peer with authFailures := [], bannedUntil := some bannedUntil }
    some (true, { s with perPeer := s.perPeer.insert peerIp peer })
  else
    let peer := { peer with authFailures := authFailures }
    some (false, { s with perPeer := s.perPeer.insert peerIp peer })

def recordAuthFailure (s : AdmissionState p) (peerIp : IpAddr) (now : Instant p) :
    Option (Bool × AdmissionState p) := do
  let s ← s.maybeCleanupPeers now
  let s ← s.cleanupPeer peerIp now
  s.countFailure peerIp now

/-- The counters of `release`. Each decrement is skipped when there is nothing to decrement. -/
def releaseCounters (s : AdmissionState p) (peerIp : IpAddr) (subnet : SubnetKey) :
    AdmissionState p :=
  { s with
    unauthenticatedConnections :=
      if 0 < s.unauthenticatedConnections then s.unauthenticatedConnections - 1
      else s.unauthenticatedConnections
    perSubnet :=
      match s.perSubnet.lookup subnet with
      | some count =>
          if 1 < count then s.perSubnet.insert subnet (count - 1) else s.perSubnet.erase subnet
      | none => s.perSubnet
    perPeer :=
      match s.perPeer.lookup peerIp with
      | some peer =>
          let released := { peer with
            unauthenticatedConnections := peer.unauthenticatedConnections - 1 }
          if 0 < peer.unauthenticatedConnections then s.perPeer.insert peerIp released
          else s.perPeer
      | none => s.perPeer }

def release (s : AdmissionState p) (peerIp : IpAddr) (subnet : SubnetKey) (now : Instant p) :
    Option (AdmissionState p) := do
  let s ← s.maybeCleanupPeers now
  (s.releaseCounters peerIp subnet).cleanupPeer peerIp now

end AdmissionState

/-! ## The fixtures of the unit tests -/

/-- The configuration of the unit tests of `admission.rs`. -/
def testConfig : AdmissionConfig :=
  { maxUnauthConnectionsGlobal := 4
    maxUnauthConnectionsPerIp := 2
    maxUnauthConnectionsPerSubnet := 3
    newConnectionsPerMinutePerIp := 12
    newConnectionsBurstPerIp := 2
    authFailureBanThreshold := 3
    authFailureBanWindow := Duration.fromSecs 30
    authFailureBanDuration := Duration.fromSecs 60 }

instance neZero_linuxAt : NeZero 100000 := ⟨by decide⟩

theorem instantMin_le_linux (secs : Fin 100000) :
    Platform.instantMin .linux ≤ secs.val * 1000000000 := by
  simp only [Platform.instantMin]
  omega

theorem linux_le_instantMax (secs : Fin 100000) :
    secs.val * 1000000000 ≤ Platform.instantMax .linux := by
  simp only [Platform.instantMax]
  omega

/-- The instant `secs` seconds after the boot of a Linux machine. -/
def linuxAt (secs : Fin 100000) : Instant .linux :=
  ⟨secs.val * 1000000000, instantMin_le_linux secs, linux_le_instantMax secs⟩

/-- The peer `10.0.0.1`. -/
def testPeer : IpAddr := .v4 ⟨10, 0, 0, 1⟩

/-- Two peers in another subnet. -/
def otherPeer : IpAddr := .v4 ⟨10, 0, 1, 2⟩

def idlePeer : IpAddr := .v4 ⟨10, 0, 1, 3⟩

end Narrowd.Admission
