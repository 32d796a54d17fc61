import Narrowd.Admission.State
import Narrowd.Lib.Window
import Mathlib.Data.List.DropRight

set_option autoImplicit false

/-! # What the admission operations do

One lemma per operation, stated through lookups, so that no later proof unfolds an operation.

The cleanup is the delicate part. Every operation first sweeps all peers if a sweep is due, and
cleans up its own peer: `try_acquire` and `record_auth_failure` before they act, `release` after
it has decremented. `PeerState.cleaned` is what a cleanup makes of one entry, and `cleanedPeer`
what the cleanup at the start of an operation makes of each entry of the table. A cleanup before
a cleanup makes no difference (`PeerState.cleaned_cleaned`), so whether a sweep was due cannot be
seen on the operation's own peer.
-/

namespace Narrowd.Admission

open Narrowd.Lib

variable {p : Platform}

/-! ## Token buckets -/

namespace TokenBucket

/-- What the bucket holds at time `now`: its tokens, what has dripped in since the last refill,
and never more than the burst. -/
def level (b : TokenBucket p) (limitPerMinute burstLimit : Nat) (now : Instant p) : ℚ :=
  (b.refill limitPerMinute burstLimit now).tokens

/-- `try_consume` in terms of the level. -/
theorem tryConsume_eq (b : TokenBucket p) (limit burst : Nat) (now : Instant p) :
    b.tryConsume limit burst now
      = if 1 ≤ b.level limit burst now then
          (true, { tokens := b.level limit burst now - 1, lastRefill := now })
        else (false, { tokens := b.level limit burst now, lastRefill := now }) := rfl

end TokenBucket

/-! ## Peers -/

variable {now : Instant p} {peer : PeerState p} {window : Duration}

namespace PeerState

/-- `refresh_transient_state` where it does not panic. -/
def refreshed (peer : PeerState p) (now : Instant p) (window : Duration) : PeerState p :=
  { peer with
    bannedUntil :=
      if peer.bannedUntil.any fun until_ => decide (until_ ≤ now) then none
      else peer.bannedUntil
    authFailures := peer.authFailures.dropWhile fun t => decide (t.ns < now.ns - window) }

/-- What a cleanup makes of an entry: `none` when it removes it. -/
def cleaned (peer : PeerState p) (now : Instant p) (window : Duration) : Option (PeerState p) :=
  if (peer.refreshed now window).canBeRemoved then none else some (peer.refreshed now window)

/-- The entry after one of its connections is released. -/
def released (peer : PeerState p) : PeerState p :=
  { peer with unauthenticatedConnections := peer.unauthenticatedConnections - 1 }

theorem pruneBefore_eq {oldest : Instant p} (h : now.checkedSub window = some oldest)
    (values : List (Instant p)) :
    pruneBefore values oldest = values.dropWhile fun t => decide (t.ns < now.ns - window) := by
  have hns : oldest.ns = now.ns - window := Instant.checkedSub_eq_some.mp h
  simp only [pruneBefore, Instant.lt_iff, hns]

theorem refreshTransientState_eq_some {peer' : PeerState p}
    (h : peer.refreshTransientState now window = some peer') :
    peer' = peer.refreshed now window := by
  simp only [refreshTransientState, Option.bind_eq_bind, Option.bind_eq_some_iff] at h
  obtain ⟨oldest, hold, h⟩ := h
  rw [pruneBefore_eq hold] at h
  exact (Option.some.inj h).symm

/-- Refreshing an entry panics exactly when the window reaches below the clock's range. -/
theorem refreshTransientState_isSome :
    (peer.refreshTransientState now window).isSome ↔ p.instantMin ≤ now.ns - window := by
  rw [← Instant.checkedSub_isSome]
  cases h : now.checkedSub window <;> simp [refreshTransientState, h]

/-- A refresh in between makes no difference. -/
theorem refreshed_refreshed (peer : PeerState p) {t : Instant p} (ht : t ≤ now)
    (window : Duration) :
    (peer.refreshed t window).refreshed now window = peer.refreshed now window := by
  obtain ⟨count, queue, ban, bucket⟩ := peer
  have hqueue : (queue.dropWhile fun f => decide (f.ns < t.ns - window)).dropWhile
      (fun f => decide (f.ns < now.ns - window))
        = queue.dropWhile fun f => decide (f.ns < now.ns - window) := by
    have hns : t.ns ≤ now.ns := ht
    refine dropWhile_dropWhile_of_imp (fun f hf => ?_) _
    simp only [decide_eq_true_eq] at hf ⊢
    omega
  simp only [refreshed, hqueue]
  cases ban with
  | none => simp
  | some until_ =>
      by_cases hover : until_ ≤ t
      · have hlater : until_ ≤ now := le_trans hover ht
        simp [hover, hlater]
      · simp [hover]

theorem canBeRemoved_iff :
    peer.canBeRemoved = true ↔ peer.unauthenticatedConnections = 0 ∧ peer.bannedUntil = none ∧
      peer.authFailures = [] := by
  simp [canBeRemoved, and_assoc]

/-- An entry that holds nothing stays such when it is refreshed. -/
theorem canBeRemoved_refreshed (h : peer.canBeRemoved = true) (now : Instant p)
    (window : Duration) :
    (peer.refreshed now window).canBeRemoved = true := by
  obtain ⟨hcount, hban, hqueue⟩ := canBeRemoved_iff.mp h
  exact canBeRemoved_iff.mpr ⟨hcount, by simp [refreshed, hban], by simp [refreshed, hqueue]⟩

/-- A cleanup in between makes no difference. -/
theorem cleaned_cleaned (peer : PeerState p) {t : Instant p} (ht : t ≤ now) (window : Duration) :
    ((peer.cleaned t window).bind fun peer => peer.cleaned now window)
      = peer.cleaned now window := by
  by_cases h : (peer.refreshed t window).canBeRemoved = true
  · have hlater : (peer.refreshed now window).canBeRemoved = true := by
      rw [← peer.refreshed_refreshed ht]
      exact canBeRemoved_refreshed h now window
    simp [cleaned, h, hlater]
  · simp [cleaned, h, refreshed_refreshed _ ht]

/-- A cleanup that keeps an entry refreshes it. -/
theorem cleaned_eq_some {peer' : PeerState p} (h : peer.cleaned now window = some peer') :
    peer' = peer.refreshed now window ∧ (peer.refreshed now window).canBeRemoved = false := by
  unfold cleaned at h
  split at h
  · cases h
  · next hr => exact ⟨(Option.some.inj h).symm, by simpa using hr⟩

/-- A cleanup that removes an entry found no connection, no ban and no failure in it. -/
theorem cleaned_eq_none :
    peer.cleaned now window = none ↔ (peer.refreshed now window).canBeRemoved = true := by
  unfold cleaned
  split <;> simp_all

end PeerState

/-! ## The cleanup -/

variable {s s' c : AdmissionState p} {ip : IpAddr} {subnet : SubnetKey}
  {r : Except RejectReason Unit} {banned : Bool}

namespace AdmissionState

/-- A sweep is due at `now`. -/
def sweepDue (s : AdmissionState p) (now : Instant p) : Prop :=
  peerSweepInterval ≤ now.saturatingDurationSince s.lastPeerSweep

instance (s : AdmissionState p) (now : Instant p) : Decidable (s.sweepDue now) :=
  inferInstanceAs (Decidable (_ ≤ _))

/-- The entry of `ip` after the sweep, if one is due. -/
def sweptPeer (s : AdmissionState p) (now : Instant p) (ip : IpAddr) : Option (PeerState p) :=
  if s.sweepDue now then
    (s.perPeer.lookup ip).bind fun peer => peer.cleaned now s.config.authFailureBanWindow
  else s.perPeer.lookup ip

/-- The entry of `ip` after the sweep, if one is due, and the cleanup of `own`. -/
def cleanedPeer (s : AdmissionState p) (own : IpAddr) (now : Instant p) (ip : IpAddr) :
    Option (PeerState p) :=
  if ip = own then
    (s.perPeer.lookup ip).bind fun peer => peer.cleaned now s.config.authFailureBanWindow
  else s.sweptPeer now ip

/-- `c` differs from `s` in its peers only, and these are given by `peers`. -/
structure SamePeers (s c : AdmissionState p) (peers : IpAddr → Option (PeerState p)) : Prop where
  config : c.config = s.config
  unauthenticatedConnections : c.unauthenticatedConnections = s.unauthenticatedConnections
  perSubnet : c.perSubnet = s.perSubnet
  lookup : ∀ ip, c.perPeer.lookup ip = peers ip

/-- The sweep itself, whether it is due or not. -/
def sweep (s : AdmissionState p) (now : Instant p) : Option (AdmissionState p) := do
  let perPeer ← s.perPeer.retain? fun peer => do
    let peer ← peer.refreshTransientState now s.config.authFailureBanWindow
    some (if peer.canBeRemoved then none else some peer)
  some { s with perPeer := perPeer, lastPeerSweep := now }

theorem sweep_spec (h : s.sweep now = some c) :
    SamePeers s c fun ip =>
      (s.perPeer.lookup ip).bind fun peer => peer.cleaned now s.config.authFailureBanWindow := by
  simp only [sweep, Option.bind_eq_bind, Option.bind_eq_some_iff] at h
  obtain ⟨peers, hpeers, h⟩ := h
  cases h
  refine ⟨rfl, rfl, rfl, fun ip => ?_⟩
  show peers.lookup ip = _
  rw [Table.lookup_of_retain? hpeers ip]
  -- the sweep succeeded, so the refresh of this entry did too
  cases hl : s.perPeer.lookup ip with
  | none => rfl
  | some peer =>
      have hsome := Table.retain?_isSome.mp (by rw [hpeers]; rfl) ip peer hl
      cases hr : peer.refreshTransientState now s.config.authFailureBanWindow with
      | none => simp [hr] at hsome
      | some peer' =>
          simp only [Option.bind_some, hr, Option.join_some, PeerState.cleaned,
            PeerState.refreshTransientState_eq_some hr]

theorem maybeCleanupPeers_eq (s : AdmissionState p) (now : Instant p) :
    s.maybeCleanupPeers now = if s.sweepDue now then s.sweep now else some s := by
  unfold maybeCleanupPeers
  by_cases hdue : s.sweepDue now
  · rw [if_neg (not_lt.mpr hdue), if_pos hdue]
    rfl
  · rw [if_pos (not_le.mp hdue), if_neg hdue]

theorem maybeCleanupPeers_spec (h : s.maybeCleanupPeers now = some c) :
    SamePeers s c (s.sweptPeer now) := by
  rw [maybeCleanupPeers_eq] at h
  split at h
  · next hdue =>
      have hs := sweep_spec h
      exact ⟨hs.config, hs.unauthenticatedConnections, hs.perSubnet, fun ip => by
        rw [sweptPeer, if_pos hdue, hs.lookup]⟩
  · next hdue =>
      cases h
      exact ⟨rfl, rfl, rfl, fun ip => by rw [sweptPeer, if_neg hdue]⟩

theorem cleanupPeer_spec {own : IpAddr} (h : s.cleanupPeer own now = some c) :
    SamePeers s c fun ip =>
      if ip = own then
        (s.perPeer.lookup ip).bind fun peer => peer.cleaned now s.config.authFailureBanWindow
      else s.perPeer.lookup ip := by
  unfold cleanupPeer at h
  cases hl : s.perPeer.lookup own with
  | none =>
      rw [hl] at h
      cases h
      refine ⟨rfl, rfl, rfl, fun ip => ?_⟩
      by_cases hip : ip = own
      · subst hip; simp [hl]
      · simp [hip]
  | some peer =>
      simp only [hl, Option.bind_eq_bind, Option.bind_eq_some_iff] at h
      obtain ⟨peer', hr, h⟩ := h
      have hpeer := PeerState.refreshTransientState_eq_some hr
      subst hpeer
      split at h
      · next hrem =>
          cases h
          refine ⟨rfl, rfl, rfl, fun ip => ?_⟩
          show (s.perPeer.erase own).lookup ip = _
          rw [Table.lookup_erase_ite]
          by_cases hip : ip = own
          · subst hip; simp [hl, PeerState.cleaned, hrem]
          · simp [hip]
      · next hrem =>
          cases h
          refine ⟨rfl, rfl, rfl, fun ip => ?_⟩
          show (s.perPeer.insert own _).lookup ip = _
          rw [Table.lookup_insert_ite]
          by_cases hip : ip = own
          · subst hip; simp [hl, PeerState.cleaned, hrem]
          · simp [hip]

/-- The cleanup at the start of `try_acquire` and `record_auth_failure`. -/
theorem cleanup_spec {c' : AdmissionState p} {own : IpAddr} (h : s.maybeCleanupPeers now = some c)
    (h' : c.cleanupPeer own now = some c') : SamePeers s c' (s.cleanedPeer own now) := by
  have hs := maybeCleanupPeers_spec h
  have hc := cleanupPeer_spec h'
  refine ⟨hc.config.trans hs.config, hc.unauthenticatedConnections.trans
    hs.unauthenticatedConnections, hc.perSubnet.trans hs.perSubnet, fun ip => ?_⟩
  rw [hc.lookup, hs.lookup, hs.config, cleanedPeer]
  by_cases hip : ip = own
  · rw [if_pos hip, if_pos hip, sweptPeer]
    split
    · -- a sweep cleaned the peer already: the second cleanup is idle
      cases s.perPeer.lookup ip with
      | none => rfl
      | some peer => exact PeerState.cleaned_cleaned peer le_rfl _
    · rfl
  · rw [if_neg hip, if_neg hip]

/-! ## `try_acquire` -/

/-- `try_acquire` cleans up and then decides on the cleaned state. -/
theorem tryAcquire_spec (h : s.tryAcquire ip subnet now = some (r, s')) :
    ∃ c, SamePeers s c (s.cleanedPeer ip now) ∧ c.decideAcquire ip subnet now = (r, s') := by
  simp only [tryAcquire, Option.bind_eq_bind, Option.bind_eq_some_iff] at h
  obtain ⟨c, hc, c', hc', h⟩ := h
  exact ⟨c', cleanup_spec hc hc', Option.some.inj h⟩

/-- The bucket of the peer that asks, refilled to now. -/
def bucketLevel (s : AdmissionState p) (ip : IpAddr) (now : Instant p) : ℚ :=
  (s.peerOrNew ip now).connectionBucket.level s.config.newConnectionsPerMinutePerIp
    s.config.newConnectionsBurstPerIp now

/-- The state after a rate-limited attempt: the bucket is refilled, nothing else changes. -/
def rateLimited (s : AdmissionState p) (ip : IpAddr) (now : Instant p) : AdmissionState p :=
  { s with
    perPeer := s.perPeer.insert ip
      { s.peerOrNew ip now with
        connectionBucket := { tokens := s.bucketLevel ip now, lastRefill := now } } }

/-- The state after an admitted connection. -/
def admitted (s : AdmissionState p) (ip : IpAddr) (subnet : SubnetKey) (now : Instant p) :
    AdmissionState p :=
  { s with
    unauthenticatedConnections := s.unauthenticatedConnections + 1
    perPeer := s.perPeer.insert ip
      { s.peerOrNew ip now with
        unauthenticatedConnections := (s.peerOrNew ip now).unauthenticatedConnections + 1
        connectionBucket := { tokens := s.bucketLevel ip now - 1, lastRefill := now } }
    perSubnet := s.perSubnet.insert subnet ((s.perSubnet.lookup subnet).getD 0 + 1) }

/-- What must hold for a connection to be admitted. -/
structure Admissible (s : AdmissionState p) (ip : IpAddr) (subnet : SubnetKey)
    (now : Instant p) : Prop where
  not_banned : ∀ peer, s.perPeer.lookup ip = some peer → peer.isBanned now = false
  global_lt : s.unauthenticatedConnections < s.config.maxUnauthConnectionsGlobal
  ip_lt : ∀ peer, s.perPeer.lookup ip = some peer →
    peer.unauthenticatedConnections < s.config.maxUnauthConnectionsPerIp
  subnet_lt : (s.perSubnet.lookup subnet).getD 0 < s.config.maxUnauthConnectionsPerSubnet
  token : 1 ≤ s.bucketLevel ip now

/-- What `try_acquire` answers, check by check. -/
def verdict (s : AdmissionState p) (ip : IpAddr) (subnet : SubnetKey) (now : Instant p) :
    Except RejectReason Unit :=
  if (s.perPeer.lookup ip).any fun peer => peer.isBanned now then .error .temporarilyBanned
  else if s.config.maxUnauthConnectionsGlobal ≤ s.unauthenticatedConnections then
    .error .tooManyUnauthenticatedConnections
  else if (s.perPeer.lookup ip).any fun peer =>
      decide (s.config.maxUnauthConnectionsPerIp ≤ peer.unauthenticatedConnections) then
    .error .tooManyUnauthenticatedConnectionsForIp
  else if s.config.maxUnauthConnectionsPerSubnet ≤ (s.perSubnet.lookup subnet).getD 0 then
    .error .tooManyUnauthenticatedConnectionsForSubnet
  else if 1 ≤ s.bucketLevel ip now then .ok ()
  else .error .connectionRateLimited

/-- The state that an answer leaves. A rejection leaves it as it is, except that a rate-limited
peer keeps its refilled bucket. -/
def answered (s : AdmissionState p) (ip : IpAddr) (subnet : SubnetKey) (now : Instant p) :
    Except RejectReason Unit → AdmissionState p
  | .ok () => s.admitted ip subnet now
  | .error .connectionRateLimited => s.rateLimited ip now
  | .error _ => s

/-- **What `decideAcquire` does.** -/
theorem decideAcquire_eq (s : AdmissionState p) (ip : IpAddr) (subnet : SubnetKey)
    (now : Instant p) :
    s.decideAcquire ip subnet now
      = (s.verdict ip subnet now, s.answered ip subnet now (s.verdict ip subnet now)) := by
  unfold decideAcquire verdict
  simp only [TokenBucket.tryConsume_eq]
  split
  · rfl
  split
  · rfl
  split
  · rfl
  split
  · rfl
  by_cases htok : 1 ≤ s.bucketLevel ip now
  · rw [if_pos htok]
    rw [bucketLevel] at htok
    simp only [if_pos htok]
    rfl
  · rw [if_neg htok]
    rw [bucketLevel] at htok
    simp only [if_neg htok]
    rfl

/-- A connection is admitted exactly when it may be. -/
theorem verdict_ok_iff : s.verdict ip subnet now = .ok () ↔ s.Admissible ip subnet now := by
  unfold verdict
  constructor
  · intro h
    split at h
    · cases h
    next hban =>
    split at h
    · cases h
    next hglobal =>
    split at h
    · cases h
    next hip =>
    split at h
    · cases h
    next hsub =>
    split at h
    · next htok =>
        refine ⟨?_, by omega, ?_, by omega, htok⟩
        · intro peer hp
          simpa [hp] using hban
        · intro peer hp
          simpa [hp] using hip
    · cases h
  · intro h
    have hban : ¬ (s.perPeer.lookup ip).any (fun peer => peer.isBanned now) = true := by
      cases hl : s.perPeer.lookup ip with
      | none => simp
      | some peer => simp [h.not_banned peer hl]
    have hip : ¬ (s.perPeer.lookup ip).any (fun peer =>
        decide (s.config.maxUnauthConnectionsPerIp ≤ peer.unauthenticatedConnections)) = true := by
      cases hl : s.perPeer.lookup ip with
      | none => simp
      | some peer => simpa using h.ip_lt peer hl
    rw [if_neg hban, if_neg (not_le.mpr h.global_lt), if_neg hip,
      if_neg (not_le.mpr h.subnet_lt), if_pos h.token]

/-- **The outcomes of `decideAcquire`.** -/
theorem decideAcquire_cases (h : s.decideAcquire ip subnet now = (r, s')) :
    (∃ reason, r = .error reason ∧ s' = s) ∨
    (r = .error .connectionRateLimited ∧ s' = s.rateLimited ip now) ∨
    (r = .ok () ∧ s.Admissible ip subnet now ∧ s' = s.admitted ip subnet now) := by
  rw [decideAcquire_eq] at h
  obtain ⟨hr, rfl⟩ := Prod.mk.inj h
  rw [hr]
  rcases r with reason | ⟨⟨⟩⟩
  · cases reason with
    | connectionRateLimited => exact Or.inr (Or.inl ⟨rfl, rfl⟩)
    | _ => exact Or.inl ⟨_, rfl, rfl⟩
  · exact Or.inr (Or.inr ⟨rfl, verdict_ok_iff.mp hr, rfl⟩)

/-- What must hold is enough: an admissible connection is admitted. -/
theorem decideAcquire_of_admissible (h : s.Admissible ip subnet now) :
    s.decideAcquire ip subnet now = (.ok (), s.admitted ip subnet now) := by
  rw [decideAcquire_eq, verdict_ok_iff.mpr h]
  rfl

/-- `decideAcquire` answers `TemporarilyBanned` exactly when the peer has a running ban. -/
theorem decideAcquire_banned_iff (s : AdmissionState p) (ip : IpAddr) (subnet : SubnetKey)
    (now : Instant p) :
    (s.decideAcquire ip subnet now).1 = .error .temporarilyBanned ↔
      (s.perPeer.lookup ip).any (fun peer => peer.isBanned now) = true := by
  rw [decideAcquire_eq]
  show s.verdict ip subnet now = _ ↔ _
  unfold verdict
  constructor
  · intro h
    by_contra hban
    simp only [if_neg hban] at h
    split_ifs at h <;> cases h
  · intro h
    rw [if_pos h]

theorem tryAcquire_config (h : s.tryAcquire ip subnet now = some (r, s')) :
    s'.config = s.config := by
  obtain ⟨c, hcl, hd⟩ := tryAcquire_spec h
  obtain ⟨_, _, rfl⟩ | ⟨_, rfl⟩ | ⟨_, _, rfl⟩ := decideAcquire_cases hd <;> exact hcl.config

/-! ### A fresh state -/

theorem maybeCleanupPeers_fresh (h : s.lastPeerSweep = now) : s.maybeCleanupPeers now = some s := by
  have hzero : now.saturatingDurationSince s.lastPeerSweep < peerSweepInterval := by
    simp [h, Instant.saturatingDurationSince, peerSweepInterval, Duration.fromSecs]
  exact if_pos hzero

/-- An address without an entry has a full bucket. -/
theorem bucketLevel_of_none (h : s.perPeer.lookup ip = none) (now : Instant p) :
    s.bucketLevel ip now = s.config.newConnectionsBurstPerIp := by
  rw [bucketLevel, peerOrNew, h]
  show min ((s.config.newConnectionsBurstPerIp : ℚ) + TokenBucket.asSecs
    (now.saturatingDurationSince now) * _) s.config.newConnectionsBurstPerIp = _
  simp [Instant.saturatingDurationSince, TokenBucket.asSecs]

/-- A fresh controller lets the first peer in without looking at the per-IP limit. -/
theorem tryAcquire_new {config : AdmissionConfig} (ip : IpAddr) (subnet : SubnetKey)
    (hglobal : 0 < config.maxUnauthConnectionsGlobal)
    (hsubnet : 0 < config.maxUnauthConnectionsPerSubnet)
    (hburst : 0 < config.newConnectionsBurstPerIp) :
    (AdmissionState.new config now).tryAcquire ip subnet now
      = some (.ok (), (AdmissionState.new config now).admitted ip subnet now) := by
  have hadm : (AdmissionState.new config now).Admissible ip subnet now := by
    refine ⟨?_, hglobal, ?_, hsubnet, ?_⟩
    · intro peer hpeer; cases hpeer
    · intro peer hpeer; cases hpeer
    · rw [bucketLevel_of_none rfl]
      exact_mod_cast hburst
  have hsweep : (AdmissionState.new config now).maybeCleanupPeers now = some (.new config now) :=
    maybeCleanupPeers_fresh rfl
  have hclean : (AdmissionState.new config now).cleanupPeer ip now = some (.new config now) := rfl
  simp only [tryAcquire, hsweep, hclean, Option.bind_eq_bind, Option.bind_some,
    decideAcquire_of_admissible hadm]

/-! ## `record_auth_failure` -/

/-- `record_auth_failure` cleans up and then counts the failure. -/
theorem recordAuthFailure_spec (h : s.recordAuthFailure ip now = some (banned, s')) :
    ∃ c, SamePeers s c (s.cleanedPeer ip now) ∧ c.countFailure ip now = some (banned, s') := by
  simp only [recordAuthFailure, Option.bind_eq_bind, Option.bind_eq_some_iff] at h
  obtain ⟨c, hc, c', hc', h⟩ := h
  exact ⟨c', cleanup_spec hc hc', h⟩

/-- The failures of a peer that count at `now`, the new one included. -/
def countedFailures (s : AdmissionState p) (ip : IpAddr) (now : Instant p) : List (Instant p) :=
  ((s.peerOrNew ip now).authFailures.dropWhile fun t =>
    decide (t.ns < now.ns - s.config.authFailureBanWindow)) ++ [now]

/-- The state with the peer banned and its failures forgotten. -/
def banPeer (s : AdmissionState p) (ip : IpAddr) (now until_ : Instant p) : AdmissionState p :=
  { s with
    perPeer := s.perPeer.insert ip
      { s.peerOrNew ip now with authFailures := [], bannedUntil := some until_ } }

/-- The state with one more failure remembered. -/
def pushFailure (s : AdmissionState p) (ip : IpAddr) (now : Instant p) : AdmissionState p :=
  { s with
    perPeer := s.perPeer.insert ip
      { s.peerOrNew ip now with authFailures := s.countedFailures ip now } }

/-- **The outcomes of `countFailure`.** -/
theorem countFailure_cases (h : s.countFailure ip now = some (banned, s')) :
    (banned = true ∧ s.config.authFailureBanThreshold ≤ (s.countedFailures ip now).length ∧
      ∃ until_ : Instant p, until_.ns = now.ns + s.config.authFailureBanDuration ∧
        s' = s.banPeer ip now until_) ∨
    (banned = false ∧ (s.countedFailures ip now).length < s.config.authFailureBanThreshold ∧
      s' = s.pushFailure ip now) := by
  simp only [countFailure, Option.bind_eq_bind, Option.bind_eq_some_iff] at h
  obtain ⟨oldest, hold, h⟩ := h
  rw [PeerState.pruneBefore_eq hold] at h
  split at h
  · next hlen =>
      simp only [Option.bind_eq_some_iff] at h
      obtain ⟨until_, huntil, h⟩ := h
      cases h
      exact Or.inl ⟨rfl, hlen, until_, Instant.checkedAdd_eq_some.mp huntil, rfl⟩
  · next hlen =>
      cases h
      exact Or.inr ⟨rfl, not_le.mp hlen, rfl⟩

theorem recordAuthFailure_config (h : s.recordAuthFailure ip now = some (banned, s')) :
    s'.config = s.config := by
  obtain ⟨c, hcl, hc⟩ := recordAuthFailure_spec h
  obtain ⟨_, _, _, _, rfl⟩ | ⟨_, _, rfl⟩ := countFailure_cases hc <;> exact hcl.config

/-! ## `release` -/

/-- The number of connections a subnet is left with; it has no entry at zero. -/
def subnetAfterRelease (count : Option Nat) : Option Nat :=
  count.bind fun n => if 1 < n then some (n - 1) else none

theorem releaseCounters_perSubnet (s : AdmissionState p) (ip : IpAddr) (subnet k : SubnetKey) :
    (s.releaseCounters ip subnet).perSubnet.lookup k
      = if k = subnet then subnetAfterRelease (s.perSubnet.lookup k)
        else s.perSubnet.lookup k := by
  simp only [releaseCounters]
  cases hl : s.perSubnet.lookup subnet with
  | none =>
      by_cases hk : k = subnet
      · subst hk; simp [hl, subnetAfterRelease]
      · simp [hk]
  | some n =>
      by_cases hn : 1 < n
      · simp only [if_pos hn, Table.lookup_insert_ite]
        by_cases hk : k = subnet
        · subst hk; simp [hl, subnetAfterRelease, hn]
        · simp [hk]
      · simp only [if_neg hn, Table.lookup_erase_ite]
        by_cases hk : k = subnet
        · subst hk; simp [hl, subnetAfterRelease, hn]
        · simp [hk]

theorem releaseCounters_perPeer (s : AdmissionState p) (ip k : IpAddr) (subnet : SubnetKey) :
    (s.releaseCounters ip subnet).perPeer.lookup k
      = if k = ip then (s.perPeer.lookup k).map PeerState.released else s.perPeer.lookup k := by
  simp only [releaseCounters]
  cases hl : s.perPeer.lookup ip with
  | none =>
      by_cases hk : k = ip
      · subst hk; simp [hl]
      · simp [hk]
  | some peer =>
      by_cases hn : 0 < peer.unauthenticatedConnections
      · simp only [if_pos hn, Table.lookup_insert_ite]
        by_cases hk : k = ip
        · subst hk; simp [hl, PeerState.released]
        · simp [hk]
      · -- nothing to decrement: the entry stays as it is
        have hzero : peer.released = peer := by
          have h0 : peer.unauthenticatedConnections = 0 := by omega
          cases peer
          simp_all [PeerState.released]
        simp only [if_neg hn]
        by_cases hk : k = ip
        · subst hk; simp [hl, hzero]
        · simp [hk]

/-- The entry of `ip` after a `release` for `own`. -/
def peerAfterRelease (s : AdmissionState p) (own : IpAddr) (now : Instant p) (ip : IpAddr) :
    Option (PeerState p) :=
  if ip = own then
    ((s.sweptPeer now ip).map PeerState.released).bind fun peer =>
      peer.cleaned now s.config.authFailureBanWindow
  else s.sweptPeer now ip

/-- **What `release` does.** -/
theorem release_spec (h : s.release ip subnet now = some s') :
    s'.config = s.config ∧
    s'.unauthenticatedConnections = s.unauthenticatedConnections - 1 ∧
    (∀ k, s'.perSubnet.lookup k
      = if k = subnet then subnetAfterRelease (s.perSubnet.lookup k)
        else s.perSubnet.lookup k) ∧
    ∀ k, s'.perPeer.lookup k = s.peerAfterRelease ip now k := by
  simp only [release, Option.bind_eq_bind, Option.bind_eq_some_iff] at h
  obtain ⟨c, hc, h⟩ := h
  have hs := maybeCleanupPeers_spec hc
  have hcl := cleanupPeer_spec h
  refine ⟨?_, ?_, ?_, ?_⟩
  · rw [hcl.config]; exact hs.config
  · rw [hcl.unauthenticatedConnections, ← hs.unauthenticatedConnections]
    show (if 0 < c.unauthenticatedConnections then c.unauthenticatedConnections - 1
        else c.unauthenticatedConnections) = _
    split <;> omega
  · intro k
    rw [hcl.perSubnet, releaseCounters_perSubnet, hs.perSubnet]
  · intro k
    have hconf : (c.releaseCounters ip subnet).config = s.config := hs.config
    rw [hcl.lookup, releaseCounters_perPeer, hs.lookup, hconf, peerAfterRelease]
    by_cases hk : k = ip
    · rw [if_pos hk, if_pos hk, if_pos hk]
    · rw [if_neg hk, if_neg hk, if_neg hk]

end AdmissionState

end Narrowd.Admission
