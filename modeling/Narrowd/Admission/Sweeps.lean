import Narrowd.Admission.Clock

set_option autoImplicit false

/-! # The sweep cannot be seen

Every operation begins with `maybe_cleanup_peers`, which now and then refreshes all peers and
removes those that hold nothing. The sweep loses whole entries, token bucket and all. It makes no
difference to any answer: an operation cleans up its own peer before it looks at it, and what a
sweep took away, this cleanup would have taken away as well.

`Unseen` says when no call from some time on can tell two entries apart: they are alike once they
are cleaned up. `Indistinct` is the same for two states, and `Indistinct.follow` is the simulation
step: whatever an operation answers in one of them it answers in the other, and the two stay
indistinct. `sweeps_unseen` compares the controller with one that never sweeps, and with one that
sweeps whenever it likes.

A sweep can do one thing that is not an answer: panic, because `now - auth_failure_ban_window` is
before the clock's beginning. Runs are runs of calls that return, and `Unseen.present` makes sure
that the other controller does not panic where this one returns.
-/

namespace Narrowd.Admission

open Narrowd.Lib

variable {p : Platform}

/-! ## The operations without their sweep -/

namespace AdmissionState

/-- `try_acquire` without its sweep. -/
def tryAcquireUnswept (s : AdmissionState p) (peerIp : IpAddr) (subnet : SubnetKey)
    (now : Instant p) : Option (Except RejectReason Unit × AdmissionState p) := do
  let s ← s.cleanupPeer peerIp now
  some (s.decideAcquire peerIp subnet now)

/-- `record_auth_failure` without its sweep. -/
def recordAuthFailureUnswept (s : AdmissionState p) (peerIp : IpAddr) (now : Instant p) :
    Option (Bool × AdmissionState p) := do
  let s ← s.cleanupPeer peerIp now
  s.countFailure peerIp now

/-- `release` without its sweep. -/
def releaseUnswept (s : AdmissionState p) (peerIp : IpAddr) (subnet : SubnetKey)
    (now : Instant p) : Option (AdmissionState p) :=
  (s.releaseCounters peerIp subnet).cleanupPeer peerIp now

end AdmissionState

/-- The calls of a controller that never sweeps. -/
def UnsweptStep (s : AdmissionState p) (e : Event p) (s' : AdmissionState p) : Prop :=
  match e with
  | .tryAcquire ip subnet now r => s.tryAcquireUnswept ip subnet now = some (r, s')
  | .recordAuthFailure ip now banned => s.recordAuthFailureUnswept ip now = some (banned, s')
  | .release ip subnet now => s.releaseUnswept ip subnet now = some s'

def UnsweptRun (config : AdmissionConfig) : List (Event p) → AdmissionState p → Prop :=
  Run (IsNew config) UnsweptStep

/-- The calls of a controller that sweeps before any call it likes. -/
def FreelySweptStep (s : AdmissionState p) (e : Event p) (s' : AdmissionState p) : Prop :=
  ∃ c, (c = s ∨ s.sweep e.time = some c) ∧ UnsweptStep c e s'

def FreelySweptRun (config : AdmissionConfig) : List (Event p) → AdmissionState p → Prop :=
  Run (IsNew config) FreelySweptStep

variable {s s' : AdmissionState p} {e : Event p}

/-- A call is the sweep, if one is due, and the rest. -/
theorem opStep_iff :
    OpStep s e s' ↔ ∃ c, s.maybeCleanupPeers e.time = some c ∧ UnsweptStep c e s' := by
  cases e with
  | tryAcquire ip subnet now r =>
      simp only [OpStep, AdmissionState.tryAcquire, UnsweptStep, AdmissionState.tryAcquireUnswept,
        Event.time, Option.bind_eq_bind, Option.bind_eq_some_iff]
  | recordAuthFailure ip now banned =>
      simp only [OpStep, AdmissionState.recordAuthFailure, UnsweptStep,
        AdmissionState.recordAuthFailureUnswept, Event.time, Option.bind_eq_bind,
        Option.bind_eq_some_iff]
  | release ip subnet now =>
      simp only [OpStep, AdmissionState.release, UnsweptStep, AdmissionState.releaseUnswept,
        Event.time, Option.bind_eq_bind, Option.bind_eq_some_iff]

/-- The controller sweeps at times of its own choice. -/
theorem OpStep.freelySwept (hs : OpStep s e s') : FreelySweptStep s e s' := by
  obtain ⟨c, hc, hrest⟩ := opStep_iff.mp hs
  refine ⟨c, ?_, hrest⟩
  rw [AdmissionState.maybeCleanupPeers_eq] at hc
  split at hc
  · exact Or.inr hc
  · exact Or.inl (Option.some.inj hc).symm

variable {config : AdmissionConfig}

theorem OpRun.freelySwept {h : List (Event p)} (hr : OpRun config h s) :
    FreelySweptRun config h s :=
  hr.mono (fun _ h0 => h0) fun _ _ _ hs => OpStep.freelySwept hs

/-- Only a sweep moves the time of the last sweep. -/
theorem UnsweptStep.lastPeerSweep (hs : UnsweptStep s e s') :
    s'.lastPeerSweep = s.lastPeerSweep := by
  have hclean : ∀ {c d : AdmissionState p} {ip : IpAddr} {now : Instant p},
      c.cleanupPeer ip now = some d → d.lastPeerSweep = c.lastPeerSweep := by
    intro c d ip now h
    unfold AdmissionState.cleanupPeer at h
    split at h
    · cases h
      rfl
    · simp only [Option.bind_eq_bind, Option.bind_eq_some_iff] at h
      obtain ⟨peer, -, h⟩ := h
      split at h <;> cases h <;> rfl
  cases e with
  | tryAcquire ip subnet now r =>
      simp only [UnsweptStep, AdmissionState.tryAcquireUnswept, Option.bind_eq_bind,
        Option.bind_eq_some_iff] at hs
      obtain ⟨c, hc, hdecide⟩ := hs
      rw [← hclean hc]
      obtain ⟨_, _, rfl⟩ | ⟨_, rfl⟩ | ⟨_, _, rfl⟩ :=
        AdmissionState.decideAcquire_cases (Option.some.inj hdecide) <;> rfl
  | recordAuthFailure ip now banned =>
      simp only [UnsweptStep, AdmissionState.recordAuthFailureUnswept, Option.bind_eq_bind,
        Option.bind_eq_some_iff] at hs
      obtain ⟨c, hc, hcount⟩ := hs
      rw [← hclean hc]
      obtain ⟨_, _, _, _, rfl⟩ | ⟨_, _, rfl⟩ := AdmissionState.countFailure_cases hcount <;> rfl
  | release ip subnet now => exact hclean (c := s.releaseCounters ip subnet) hs

theorem AdmissionState.maybeCleanupPeers_lastPeerSweep {c : AdmissionState p} {now : Instant p}
    (h : s.maybeCleanupPeers now = some c) :
    c.lastPeerSweep = if s.sweepDue now then now else s.lastPeerSweep := by
  rw [maybeCleanupPeers_eq] at h
  split at h
  · next hdue =>
      simp only [sweep, Option.bind_eq_bind, Option.bind_eq_some_iff] at h
      obtain ⟨_, _, h⟩ := h
      cases h
      rw [if_pos hdue]
  · next hdue =>
      cases h
      rw [if_neg hdue]

theorem OpStep.lastPeerSweep (hs : OpStep s e s') :
    s'.lastPeerSweep = if s.sweepDue e.time then e.time else s.lastPeerSweep := by
  obtain ⟨c, hc, hrest⟩ := opStep_iff.mp hs
  rw [hrest.lastPeerSweep, AdmissionState.maybeCleanupPeers_lastPeerSweep hc]

/-! ## Entries that are alike -/

/-- Two entries that agree in everything but the way their buckets are stored: from `t` on the
buckets hold the same. -/
structure PeerState.Alike (config : AdmissionConfig) (t : Instant p) (x y : PeerState p) :
    Prop where
  unauthenticatedConnections : x.unauthenticatedConnections = y.unauthenticatedConnections
  authFailures : x.authFailures = y.authFailures
  bannedUntil : x.bannedUntil = y.bannedUntil
  level : ∀ now, t ≤ now →
    x.connectionBucket.level config.newConnectionsPerMinutePerIp config.newConnectionsBurstPerIp now
      = y.connectionBucket.level config.newConnectionsPerMinutePerIp
          config.newConnectionsBurstPerIp now

variable {t' : Instant p}

namespace PeerState.Alike

variable {config : AdmissionConfig} {t : Instant p} {x y : PeerState p}

theorem refl (x : PeerState p) : Alike config t x x := ⟨rfl, rfl, rfl, fun _ _ => rfl⟩

theorem mono (h : Alike config t x y) (ht : t ≤ t') : Alike config t' x y :=
  ⟨h.unauthenticatedConnections, h.authFailures, h.bannedUntil,
    fun now hnow => h.level now (le_trans ht hnow)⟩

theorem refreshed (h : Alike config t x y) (now : Instant p) (window : Duration) :
    Alike config t (x.refreshed now window) (y.refreshed now window) := by
  refine ⟨h.unauthenticatedConnections, ?_, ?_, h.level⟩
  · simp only [PeerState.refreshed, h.authFailures]
  · simp only [PeerState.refreshed, h.bannedUntil]

theorem released (h : Alike config t x y) : Alike config t x.released y.released :=
  ⟨congrArg (· - 1) h.unauthenticatedConnections, h.authFailures, h.bannedUntil, h.level⟩

theorem canBeRemoved_eq (h : Alike config t x y) : y.canBeRemoved = x.canBeRemoved := by
  simp only [PeerState.canBeRemoved, h.unauthenticatedConnections, h.authFailures, h.bannedUntil]

theorem cleaned (h : Alike config t x y) (now : Instant p) (window : Duration) :
    Option.Rel (Alike config t) (x.cleaned now window) (y.cleaned now window) := by
  have hr := h.refreshed now window
  unfold PeerState.cleaned
  rw [hr.canBeRemoved_eq]
  split
  · exact .none
  · exact .some hr

end PeerState.Alike

/-! ## Entries that cannot be told apart -/

/-- The entry that a cleanup at `now` leaves. -/
def cleanedAt (config : AdmissionConfig) (now : Instant p) (x : Option (PeerState p)) :
    Option (PeerState p) :=
  x.bind fun peer => peer.cleaned now config.authFailureBanWindow

/-- No call from `t` on can tell the entries `x` and `y` of an address apart. As long as a refresh
would still panic, there is an entry `y` only where there is an entry `x`. -/
structure Unseen (config : AdmissionConfig) (t : Instant p) (x y : Option (PeerState p)) :
    Prop where
  alike : Option.Rel (PeerState.Alike config t) (cleanedAt config t x) (cleanedAt config t y)
  present : WindowFits config t ∨ (x = none → y = none)

section

variable {config : AdmissionConfig} {t : Instant p} {x y : Option (PeerState p)}

theorem WindowFits.mono (h : WindowFits config t) (ht : t ≤ t') : WindowFits config t' := by
  have hns : t.ns ≤ t'.ns := ht
  unfold WindowFits at h ⊢
  omega

theorem cleanedAt_cleanedAt (ht : t ≤ t') (x : Option (PeerState p)) :
    cleanedAt config t' (cleanedAt config t x) = cleanedAt config t' x := by
  cases x with
  | none => rfl
  | some peer => exact peer.cleaned_cleaned ht _

theorem cleanedAt_eq_none {peer : PeerState p} (h : peer.canBeRemoved = true) :
    cleanedAt config t (some peer) = none :=
  PeerState.cleaned_eq_none.mpr (PeerState.canBeRemoved_refreshed h t _)

theorem alike_cleanedAt (h : Option.Rel (PeerState.Alike config t) x y) (ht : t ≤ t') :
    Option.Rel (PeerState.Alike config t') (cleanedAt config t' x) (cleanedAt config t' y) := by
  cases h with
  | none => exact .none
  | some h => exact (h.mono ht).cleaned t' _

theorem Unseen.of_alike (h : Option.Rel (PeerState.Alike config t) x y) : Unseen config t x y := by
  refine ⟨alike_cleanedAt h le_rfl, Or.inr fun hx => ?_⟩
  subst hx
  cases h
  rfl

theorem alike_refl (x : Option (PeerState p)) : Option.Rel (PeerState.Alike config t) x x := by
  cases x with
  | none => exact .none
  | some peer => exact .some (.refl peer)

theorem Unseen.mono (h : Unseen config t x y) (ht : t ≤ t') : Unseen config t' x y := by
  refine ⟨?_, h.present.imp_left fun hw => hw.mono ht⟩
  rw [← cleanedAt_cleanedAt ht x, ← cleanedAt_cleanedAt ht y]
  exact alike_cleanedAt h.alike ht

/-- A cleanup of one side or the other is not seen. -/
theorem Unseen.cleaned (h : Unseen config t x y) {x' y' : Option (PeerState p)}
    (hx : x' = x ∨ (WindowFits config t ∧ x' = cleanedAt config t x))
    (hy : y' = y ∨ (WindowFits config t ∧ y' = cleanedAt config t y)) :
    Unseen config t x' y' := by
  have hclean : ∀ z z' : Option (PeerState p),
      z' = z ∨ (WindowFits config t ∧ z' = cleanedAt config t z) →
        cleanedAt config t z' = cleanedAt config t z := by
    rintro z z' (rfl | ⟨-, rfl⟩)
    · rfl
    · exact cleanedAt_cleanedAt le_rfl z
  refine ⟨?_, ?_⟩
  · rw [hclean x x' hx, hclean y y' hy]
    exact h.alike
  · rcases hx with rfl | ⟨hw, -⟩
    · rcases hy with rfl | ⟨hw, -⟩
      · exact h.present
      · exact Or.inl hw
    · exact Or.inl hw

/-- Giving a connection back and cleaning up does not see a cleanup before it: an entry that the
cleanup removes has no connection to give back. -/
theorem cleanedAt_released (x : Option (PeerState p)) :
    cleanedAt config t ((cleanedAt config t x).map PeerState.released)
      = cleanedAt config t (x.map PeerState.released) := by
  cases x with
  | none => rfl
  | some peer =>
      have hcomm : (peer.refreshed t config.authFailureBanWindow).released
          = peer.released.refreshed t config.authFailureBanWindow := rfl
      show cleanedAt config t ((peer.cleaned t config.authFailureBanWindow).map _)
        = peer.released.cleaned t config.authFailureBanWindow
      by_cases hrem : (peer.refreshed t config.authFailureBanWindow).canBeRemoved = true
      · have hrem' : (peer.released.refreshed t config.authFailureBanWindow).canBeRemoved
            = true := by
          obtain ⟨hcount, hban, hqueue⟩ := PeerState.canBeRemoved_iff.mp hrem
          refine PeerState.canBeRemoved_iff.mpr ⟨?_, hban, hqueue⟩
          show peer.unauthenticatedConnections - 1 = 0
          rw [show peer.unauthenticatedConnections = 0 from hcount]
        rw [PeerState.cleaned_eq_none.mpr hrem, PeerState.cleaned_eq_none.mpr hrem']
        rfl
      · rw [PeerState.cleaned, if_neg hrem]
        show (peer.refreshed t config.authFailureBanWindow).released.cleaned t _ = _
        rw [hcomm]
        simp only [PeerState.cleaned, PeerState.refreshed_refreshed _ le_rfl]

theorem alike_released (h : Option.Rel (PeerState.Alike config t) x y) :
    Option.Rel (PeerState.Alike config t) (x.map PeerState.released)
      (y.map PeerState.released) := by
  cases h with
  | none => exact .none
  | some h => exact .some h.released

theorem Unseen.released (h : Unseen config t x y) :
    Unseen config t (x.map PeerState.released) (y.map PeerState.released) := by
  refine ⟨?_, h.present.imp_right fun hp hx => ?_⟩
  · rw [← cleanedAt_released x, ← cleanedAt_released y]
    exact alike_cleanedAt (alike_released h.alike) le_rfl
  · rw [hp (Option.map_eq_none_iff.mp hx)]
    rfl

end

/-! ## States that cannot be told apart -/

variable {ip : IpAddr}

namespace AdmissionState

/-- No call from `t` on can tell the states apart. -/
structure Indistinct (t : Instant p) (s u : AdmissionState p) : Prop where
  config : u.config = s.config
  unauthenticatedConnections : u.unauthenticatedConnections = s.unauthenticatedConnections
  perSubnet : u.perSubnet = s.perSubnet
  peer : ∀ ip, Unseen s.config t (s.perPeer.lookup ip) (u.perPeer.lookup ip)

/-- `c` is `s` with some of its entries, or none, cleaned up at `now`. -/
structure Swept (s c : AdmissionState p) (now : Instant p) : Prop where
  config : c.config = s.config
  unauthenticatedConnections : c.unauthenticatedConnections = s.unauthenticatedConnections
  perSubnet : c.perSubnet = s.perSubnet
  peer : ∀ ip, c.perPeer.lookup ip = s.perPeer.lookup ip ∨
    (WindowFits s.config now ∧ c.perPeer.lookup ip = cleanedAt s.config now (s.perPeer.lookup ip))

variable {s u c d : AdmissionState p} {t now : Instant p}

theorem Swept.refl (s : AdmissionState p) (now : Instant p) : Swept s s now :=
  ⟨rfl, rfl, rfl, fun _ => Or.inl rfl⟩

/-- A refresh that does not panic needs the window on the clock. -/
theorem windowFits_of_sweep (h : s.sweep now = some c) {peer : PeerState p}
    (hpeer : s.perPeer.lookup ip = some peer) : WindowFits s.config now := by
  simp only [sweep, Option.bind_eq_bind, Option.bind_eq_some_iff] at h
  obtain ⟨peers, hpeers, -⟩ := h
  have hsome := Table.retain?_isSome.mp (by rw [hpeers]; rfl) ip peer hpeer
  by_contra hno
  have hnone : peer.refreshTransientState now s.config.authFailureBanWindow = none := by
    rw [← Option.not_isSome_iff_eq_none, PeerState.refreshTransientState_isSome]
    exact hno
  simp [hnone] at hsome

theorem swept_of_sweep (h : s.sweep now = some c) : Swept s c now := by
  have hs := sweep_spec h
  refine ⟨hs.config, hs.unauthenticatedConnections, hs.perSubnet, fun ip => ?_⟩
  cases hl : s.perPeer.lookup ip with
  | none => exact Or.inl (by rw [hs.lookup, hl]; rfl)
  | some peer => exact Or.inr ⟨windowFits_of_sweep h hl, by rw [hs.lookup, hl]; rfl⟩

theorem swept_of_maybeCleanupPeers (h : s.maybeCleanupPeers now = some c) : Swept s c now := by
  rw [maybeCleanupPeers_eq] at h
  split at h
  · exact swept_of_sweep h
  · cases h
    exact .refl s now

theorem Indistinct.refl (t : Instant p) (s : AdmissionState p) : Indistinct t s s :=
  ⟨rfl, rfl, rfl, fun _ => .of_alike (alike_refl _)⟩

theorem Indistinct.mono (h : Indistinct t s u) (ht : t ≤ t') : Indistinct t' s u :=
  ⟨h.config, h.unauthenticatedConnections, h.perSubnet, fun ip => (h.peer ip).mono ht⟩

/-- Sweeps of either state are not seen. -/
theorem Indistinct.swept (h : Indistinct now s u) (hs : Swept s c now) (hu : Swept u d now) :
    Indistinct now c d := by
  refine ⟨hu.config.trans (h.config.trans hs.config.symm),
    hu.unauthenticatedConnections.trans
      (h.unauthenticatedConnections.trans hs.unauthenticatedConnections.symm),
    hu.perSubnet.trans (h.perSubnet.trans hs.perSubnet.symm), fun ip => ?_⟩
  have hpeer := hu.peer ip
  rw [h.config] at hpeer
  rw [hs.config]
  exact (h.peer ip).cleaned (hs.peer ip) hpeer

/-! ## The cleanup of the own peer -/

theorem cleanupPeer_isSome_iff :
    (s.cleanupPeer ip now).isSome ↔ s.perPeer.lookup ip = none ∨ WindowFits s.config now := by
  constructor
  · intro h
    by_contra hno
    obtain ⟨hentry, hwindow⟩ := not_or.mp hno
    obtain ⟨peer, hpeer⟩ := Option.ne_none_iff_exists'.mp hentry
    have hnone : peer.refreshTransientState now s.config.authFailureBanWindow = none := by
      rw [← Option.not_isSome_iff_eq_none, PeerState.refreshTransientState_isSome]
      exact hwindow
    simp [cleanupPeer, hpeer, hnone] at h
  · rintro (hnone | hwindow)
    · simp [cleanupPeer, hnone]
    · exact cleanupPeer_isSome hwindow ip

theorem swept_of_cleanupPeer (h : s.cleanupPeer ip now = some c) : Swept s c now := by
  have hs := cleanupPeer_spec h
  refine ⟨hs.config, hs.unauthenticatedConnections, hs.perSubnet, fun k => ?_⟩
  rw [hs.lookup]
  by_cases hk : k = ip
  · subst hk
    rw [if_pos rfl]
    rcases cleanupPeer_isSome_iff.mp (by rw [h]; rfl) with hnone | hwindow
    · exact Or.inl (by rw [hnone]; rfl)
    · exact Or.inr ⟨hwindow, rfl⟩
  · rw [if_neg hk]
    exact Or.inl rfl

/-- The cleanup of the own peer gets through in both states, and leaves entries that are alike. -/
theorem Indistinct.cleanupPeer (h : Indistinct now s u) (hc : s.cleanupPeer ip now = some c) :
    ∃ d, u.cleanupPeer ip now = some d ∧ Indistinct now c d ∧
      Option.Rel (PeerState.Alike c.config now) (c.perPeer.lookup ip) (d.perPeer.lookup ip) := by
  have hsome : (u.cleanupPeer ip now).isSome := by
    rw [cleanupPeer_isSome_iff, h.config]
    rcases cleanupPeer_isSome_iff.mp (by rw [hc]; rfl) with hnone | hwindow
    · exact (h.peer ip).present.symm.imp_left fun hpresent => hpresent hnone
    · exact Or.inr hwindow
  obtain ⟨d, hd⟩ := Option.isSome_iff_exists.mp hsome
  refine ⟨d, hd, h.swept (swept_of_cleanupPeer hc) (swept_of_cleanupPeer hd), ?_⟩
  have ha := (h.peer ip).alike
  rw [(cleanupPeer_spec hc).config, (cleanupPeer_spec hc).lookup, (cleanupPeer_spec hd).lookup,
    if_pos rfl, if_pos rfl, h.config]
  exact ha

/-! ## The rest of the operations -/

section

variable {ip : IpAddr} (hcd : Indistinct now c d)
  (hown : Option.Rel (PeerState.Alike c.config now) (c.perPeer.lookup ip) (d.perPeer.lookup ip))

include hcd

/-- Entries that are alike may be written to both states. -/
theorem Indistinct.insert {x y : PeerState p} (hxy : PeerState.Alike c.config now x y)
    (ip k : IpAddr) :
    Unseen c.config now ((c.perPeer.insert ip x).lookup k) ((d.perPeer.insert ip y).lookup k) := by
  rw [Table.lookup_insert_ite, Table.lookup_insert_ite]
  split
  · exact .of_alike (.some hxy)
  · exact hcd.peer k

include hown

theorem Indistinct.peerOrNew :
    PeerState.Alike c.config now (c.peerOrNew ip now) (d.peerOrNew ip now) := by
  unfold AdmissionState.peerOrNew
  rw [hcd.config]
  cases hc : c.perPeer.lookup ip with
  | none =>
      rw [hc] at hown
      generalize d.perPeer.lookup ip = y at hown
      cases hown
      exact .refl _
  | some x =>
      rw [hc] at hown
      generalize d.perPeer.lookup ip = y at hown
      cases hown with
      | some h => exact h

theorem Indistinct.bucketLevel : d.bucketLevel ip now = c.bucketLevel ip now := by
  unfold AdmissionState.bucketLevel
  rw [hcd.config]
  exact ((hcd.peerOrNew hown).level now le_rfl).symm

/-- Both states give the same answer. -/
theorem Indistinct.verdict (subnet : SubnetKey) :
    d.verdict ip subnet now = c.verdict ip subnet now := by
  have hany : ∀ f : PeerState p → Bool,
      (∀ x y, PeerState.Alike c.config now x y → f y = f x) →
        (d.perPeer.lookup ip).any f = (c.perPeer.lookup ip).any f := by
    intro f hf
    generalize c.perPeer.lookup ip = x at hown
    generalize d.perPeer.lookup ip = y at hown
    cases hown with
    | none => rfl
    | some h => exact hf _ _ h
  have hban := hany (fun peer => peer.isBanned now) fun x y h => by
    simp only [PeerState.isBanned, h.bannedUntil]
  have hip := hany
    (fun peer => decide (c.config.maxUnauthConnectionsPerIp ≤ peer.unauthenticatedConnections))
    fun x y h => by simp only [h.unauthenticatedConnections]
  simp only [AdmissionState.verdict, hban, hcd.config, hip, hcd.unauthenticatedConnections,
    hcd.perSubnet, hcd.bucketLevel hown]

theorem Indistinct.answered (subnet : SubnetKey) (r : Except RejectReason Unit) :
    Indistinct now (c.answered ip subnet now r) (d.answered ip subnet now r) := by
  have hpeer := hcd.peerOrNew hown
  have hlevel := hcd.bucketLevel hown
  rcases r with reason | ⟨⟨⟩⟩
  · cases reason with
    | connectionRateLimited =>
        show Indistinct now (c.rateLimited ip now) (d.rateLimited ip now)
        refine ⟨hcd.config, hcd.unauthenticatedConnections, hcd.perSubnet,
          fun k => hcd.insert ?_ ip k⟩
        exact ⟨hpeer.unauthenticatedConnections, hpeer.authFailures, hpeer.bannedUntil,
          fun _ _ => by rw [hlevel]⟩
    | _ => exact hcd
  · show Indistinct now (c.admitted ip subnet now) (d.admitted ip subnet now)
    refine ⟨hcd.config, ?_, ?_, fun k => hcd.insert ?_ ip k⟩
    · exact congrArg (· + 1) hcd.unauthenticatedConnections
    · show d.perSubnet.insert subnet _ = c.perSubnet.insert subnet _
      rw [hcd.perSubnet]
    · exact ⟨congrArg (· + 1) hpeer.unauthenticatedConnections, hpeer.authFailures,
        hpeer.bannedUntil, fun _ _ => by rw [hlevel]⟩

/-- Both states count a failure alike. -/
theorem Indistinct.countFailure {banned : Bool} {c' : AdmissionState p}
    (h : c.countFailure ip now = some (banned, c')) :
    ∃ d', d.countFailure ip now = some (banned, d') ∧ Indistinct now c' d' := by
  have hpeer := hcd.peerOrNew hown
  simp only [AdmissionState.countFailure, Option.bind_eq_bind, Option.bind_eq_some_iff] at h
  obtain ⟨oldest, hold, h⟩ := h
  simp only [AdmissionState.countFailure, hcd.config, hold, ← hpeer.authFailures,
    Option.bind_eq_bind, Option.bind_some]
  split at h
  · next hlen =>
      simp only [Option.bind_eq_some_iff] at h
      obtain ⟨until_, huntil, h⟩ := h
      cases h
      rw [if_pos hlen]
      simp only [huntil, Option.bind_some]
      refine ⟨_, rfl, rfl, hcd.unauthenticatedConnections, hcd.perSubnet,
        fun k => hcd.insert ?_ ip k⟩
      exact ⟨hpeer.unauthenticatedConnections, rfl, rfl, hpeer.level⟩
  · next hlen =>
      cases h
      rw [if_neg hlen]
      refine ⟨_, rfl, rfl, hcd.unauthenticatedConnections, hcd.perSubnet,
        fun k => hcd.insert ?_ ip k⟩
      exact ⟨hpeer.unauthenticatedConnections, rfl, hpeer.bannedUntil, hpeer.level⟩

omit hown in
theorem Indistinct.releaseCounters (ip : IpAddr) (subnet : SubnetKey) :
    Indistinct now (c.releaseCounters ip subnet) (d.releaseCounters ip subnet) := by
  refine ⟨hcd.config, ?_, ?_, fun k => ?_⟩
  · simp only [AdmissionState.releaseCounters, hcd.unauthenticatedConnections]
  · simp only [AdmissionState.releaseCounters, hcd.perSubnet]
  · show Unseen c.config now _ _
    rw [releaseCounters_perPeer, releaseCounters_perPeer]
    split
    · exact (hcd.peer k).released
    · exact hcd.peer k

end

/-- **One call.** What a call answers in one of two indistinct states it answers in the other. -/
theorem Indistinct.follow (h : Indistinct e.time s u) (hs : UnsweptStep s e s') :
    ∃ u', UnsweptStep u e u' ∧ Indistinct e.time s' u' := by
  cases e with
  | tryAcquire ip subnet now r =>
      change Indistinct now s u at h
      simp only [UnsweptStep, tryAcquireUnswept, Option.bind_eq_bind,
        Option.bind_eq_some_iff] at hs
      obtain ⟨c, hc, hdecide⟩ := hs
      obtain ⟨d, hd, hcd, hown⟩ := h.cleanupPeer hc
      rw [decideAcquire_eq] at hdecide
      obtain ⟨hr, rfl⟩ := Prod.mk.inj (Option.some.inj hdecide)
      refine ⟨d.answered ip subnet now r, ?_, ?_⟩
      · simp only [UnsweptStep, tryAcquireUnswept, hd, Option.bind_eq_bind, Option.bind_some,
          decideAcquire_eq, hcd.verdict hown, hr]
      · rw [hr]
        exact hcd.answered hown subnet r
  | recordAuthFailure ip now banned =>
      change Indistinct now s u at h
      simp only [UnsweptStep, recordAuthFailureUnswept, Option.bind_eq_bind,
        Option.bind_eq_some_iff] at hs
      obtain ⟨c, hc, hcount⟩ := hs
      obtain ⟨d, hd, hcd, hown⟩ := h.cleanupPeer hc
      obtain ⟨d', hd', hrel⟩ := hcd.countFailure hown hcount
      refine ⟨d', ?_, hrel⟩
      simp only [UnsweptStep, recordAuthFailureUnswept, hd, Option.bind_eq_bind,
        Option.bind_some, hd']
  | release ip subnet now =>
      obtain ⟨d, hd, hrel, -⟩ := (Indistinct.releaseCounters h ip subnet).cleanupPeer hs
      exact ⟨d, hd, hrel⟩

end AdmissionState

/-! ## Whole runs -/

/-- A controller that sweeps whenever it likes is followed by one that never does. -/
theorem FreelySweptRun.unswept {h : List (Event p)} (hr : FreelySweptRun config h s)
    (ho : Ordered Event.time h) : ∃ u, UnsweptRun config h u := by
  suffices hsim : ∃ u, Run (IsNew config) UnsweptStep h u ∧
      ∀ now, NotBefore h now → AdmissionState.Indistinct now s u from
    hsim.imp fun _ hu => hu.1
  refine Run.simulate (R := fun h s u => ∀ now, NotBefore h now → AdmissionState.Indistinct now s u)
    (fun _ _ ho => ho.tail) ?_ ?_ hr ho
  · exact fun s hs => ⟨s, hs, fun now _ => .refl now s⟩
  · rintro h s u e s' ho hrel ⟨c, hc, hrest⟩
    have hswept : AdmissionState.Swept s c e.time := by
      rcases hc with rfl | hc
      · exact .refl c e.time
      · exact AdmissionState.swept_of_sweep hc
    have hind := (hrel e.time (Ordered.notBefore ho)).swept hswept (.refl u e.time)
    obtain ⟨u', hu', hind'⟩ := hind.follow hrest
    exact ⟨u', hu', fun now hnow => hind'.mono (hnow e List.mem_cons_self)⟩

/-- **The sweep is invisible.** What the calls of a run answer, a controller that never sweeps
answers as well, whenever the sweeps happen: at the times of `maybe_cleanup_peers`, or at any
other times. -/
theorem sweeps_unseen (config : AdmissionConfig) :
    (∀ (h : List (Event p)) (s : AdmissionState p), OpRun config h s → Ordered Event.time h →
      ∃ u, UnsweptRun config h u) ∧
    (∀ (h : List (Event p)) (s : AdmissionState p), FreelySweptRun config h s →
      Ordered Event.time h → ∃ u, UnsweptRun config h u) :=
  ⟨fun _ _ hr ho => hr.freelySwept.unswept ho, fun _ _ hr ho => hr.unswept ho⟩

/-- One connection at the start, and one from another address when a sweep is due. -/
def acrossSweep : List (Event .linux) :=
  [.tryAcquire (.v4 ⟨10, 0, 0, 2⟩) (subnetKey testPeer) (linuxAt 60) (.ok ()),
    .tryAcquire testPeer (subnetKey testPeer) (linuxAt 0) (.ok ())]

theorem opRun_acrossSweep : ∃ s, OpRun testConfig acrossSweep s := by
  set first := AdmissionState.new testConfig (linuxAt 0) with hfirst
  set s := first.admitted testPeer (subnetKey testPeer) (linuxAt 0) with hs
  have h₁ : first.tryAcquire testPeer (subnetKey testPeer) (linuxAt 0) = some (.ok (), s) :=
    AdmissionState.tryAcquire_new testPeer (subnetKey testPeer) (by decide) (by decide) (by decide)
  have hfits : WindowFits s.config (linuxAt 60) := by
    show Platform.linux.instantMin ≤ (linuxAt 60).ns - (testConfig.authFailureBanWindow : Int)
    decide
  obtain ⟨⟨r, s'⟩, h₂⟩ := Option.isSome_iff_exists.mp
    (AdmissionState.tryAcquire_isSome hfits (.v4 ⟨10, 0, 0, 2⟩) (subnetKey testPeer))
  obtain ⟨c, hc, hdecide⟩ := AdmissionState.tryAcquire_spec h₂
  -- the second address has no entry yet, so it has a full bucket
  have hnone : c.perPeer.lookup (.v4 ⟨10, 0, 0, 2⟩) = none := by
    rw [hc.lookup, AdmissionState.cleanedPeer_own]
    rfl
  have hadm : c.Admissible (.v4 ⟨10, 0, 0, 2⟩) (subnetKey testPeer) (linuxAt 60) := by
    refine ⟨fun peer hp => ?_, ?_, fun peer hp => ?_, ?_, ?_⟩
    · rw [hnone] at hp
      cases hp
    · rw [hc.unauthenticatedConnections, hc.config]
      decide
    · rw [hnone] at hp
      cases hp
    · rw [hc.perSubnet, hc.config]
      decide
    · rw [AdmissionState.bucketLevel_of_none hnone, hc.config]
      decide
  rw [AdmissionState.decideAcquire_of_admissible hadm] at hdecide
  obtain ⟨rfl, rfl⟩ := Prod.mk.inj hdecide
  exact ⟨_, .cons (.cons (.nil ⟨linuxAt 0, rfl⟩) h₁) h₂⟩

theorem sweeps_unseen_across :
    ∃ s u, OpRun testConfig acrossSweep s ∧ UnsweptRun testConfig acrossSweep u := by
  obtain ⟨s, hr⟩ := opRun_acrossSweep
  have ho : Ordered Event.time acrossSweep := by
    simp only [Ordered, acrossSweep]
    decide
  obtain ⟨u, hu⟩ := (sweeps_unseen testConfig).1 acrossSweep s hr ho
  exact ⟨s, u, hr, hu⟩

end Narrowd.Admission
