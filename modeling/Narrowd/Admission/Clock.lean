import Narrowd.Admission.Bans

set_option autoImplicit false

/-! # The admission state and the ends of the clock

The operations compute `now - auth_failure_ban_window`, and on a ban
`now + auth_failure_ban_duration`. They get through whenever both are on the clock. And both have
to be: the first is computed by the first failure, the second by the failure that bans, which
comes after sufficiently many.
-/

namespace Narrowd.Admission

open Narrowd.Lib

variable {p : Platform}

/-- The window does not begin before the clock does. -/
def WindowFits (config : AdmissionConfig) (now : Instant p) : Prop :=
  p.instantMin ≤ now.ns - config.authFailureBanWindow

/-- A ban from `now` on does not end after the clock does. -/
def BanFits (config : AdmissionConfig) (now : Instant p) : Prop :=
  now.ns + config.authFailureBanDuration ≤ p.instantMax

namespace AdmissionState

variable {s : AdmissionState p} {now : Instant p}

/-! ## Operations that get through -/

/-- A sweep needs the window for the peers it finds. -/
theorem maybeCleanupPeers_isSome_of_peers
    (h : ∀ ip peer, s.perPeer.lookup ip = some peer → WindowFits s.config now) :
    (s.maybeCleanupPeers now).isSome := by
  rw [maybeCleanupPeers_eq]
  split
  · have hretain : (s.perPeer.retain? fun peer => do
        let peer ← peer.refreshTransientState now s.config.authFailureBanWindow
        some (if peer.canBeRemoved then none else some peer)).isSome := by
      rw [Table.retain?_isSome]
      intro k peer hk
      obtain ⟨peer', hpeer'⟩ := Option.isSome_iff_exists.mp
        (PeerState.refreshTransientState_isSome.mpr (h k peer hk))
      rw [hpeer']
      rfl
    obtain ⟨perPeer, hperPeer⟩ := Option.isSome_iff_exists.mp hretain
    rw [sweep, hperPeer]
    rfl
  · rfl

theorem maybeCleanupPeers_isSome (h : WindowFits s.config now) :
    (s.maybeCleanupPeers now).isSome :=
  maybeCleanupPeers_isSome_of_peers fun _ _ _ => h

theorem cleanupPeer_isSome (h : WindowFits s.config now) (ip : IpAddr) :
    (s.cleanupPeer ip now).isSome := by
  unfold cleanupPeer
  split
  · rfl
  · next peer _ =>
      obtain ⟨peer', hpeer'⟩ := Option.isSome_iff_exists.mp
        (PeerState.refreshTransientState_isSome.mpr h)
      rw [hpeer']
      simp only [Option.bind_eq_bind, Option.bind_some]
      split <;> rfl

/-- The cleanups that every operation begins with. -/
theorem cleanup_isSome (h : WindowFits s.config now) (ip : IpAddr) :
    ∃ c c', s.maybeCleanupPeers now = some c ∧ c.cleanupPeer ip now = some c' ∧
      c.config = s.config ∧ c'.config = s.config := by
  obtain ⟨c, hc⟩ := Option.isSome_iff_exists.mp (maybeCleanupPeers_isSome h)
  have hconf := (maybeCleanupPeers_spec hc).config
  obtain ⟨c', hc'⟩ := Option.isSome_iff_exists.mp
    (cleanupPeer_isSome (s := c) (hconf ▸ h) ip)
  exact ⟨c, c', hc, hc', hconf, (cleanup_spec hc hc').config⟩

theorem tryAcquire_isSome (h : WindowFits s.config now) (ip : IpAddr) (subnet : SubnetKey) :
    (s.tryAcquire ip subnet now).isSome := by
  obtain ⟨c, c', hc, hc', -⟩ := cleanup_isSome h ip
  unfold tryAcquire
  simp only [hc, hc', Option.bind_eq_bind, Option.bind_some]
  rfl

theorem countFailure_isSome (hw : WindowFits s.config now) (hb : BanFits s.config now)
    (ip : IpAddr) : (s.countFailure ip now).isSome := by
  obtain ⟨oldest, hold⟩ := Option.isSome_iff_exists.mp (Instant.checkedSub_isSome.mpr hw)
  obtain ⟨until_, huntil⟩ := Option.isSome_iff_exists.mp (Instant.checkedAdd_isSome.mpr hb)
  unfold countFailure
  simp only [hold, huntil, Option.bind_eq_bind, Option.bind_some]
  split <;> rfl

theorem recordAuthFailure_isSome (hw : WindowFits s.config now) (hb : BanFits s.config now)
    (ip : IpAddr) : (s.recordAuthFailure ip now).isSome := by
  obtain ⟨c, c', hc, hc', -, hconf⟩ := cleanup_isSome hw ip
  unfold recordAuthFailure
  simp only [hc, hc', Option.bind_eq_bind, Option.bind_some]
  exact countFailure_isSome (hconf ▸ hw) (hconf ▸ hb) ip

theorem release_isSome (h : WindowFits s.config now) (ip : IpAddr) (subnet : SubnetKey) :
    (s.release ip subnet now).isSome := by
  obtain ⟨c, hc⟩ := Option.isSome_iff_exists.mp (maybeCleanupPeers_isSome h)
  have hconf := (maybeCleanupPeers_spec hc).config
  unfold release
  simp only [hc, Option.bind_eq_bind, Option.bind_some]
  exact cleanupPeer_isSome (s := c.releaseCounters ip subnet) (hconf ▸ h) ip

end AdmissionState

/-! ## Operations that do not -/

section

variable {config : AdmissionConfig} {now : Instant p}

/-- The first failure computes the beginning of the window. -/
theorem windowFits_of_recordAuthFailure (ip : IpAddr)
    (h : ((AdmissionState.new config now).recordAuthFailure ip now).isSome) :
    WindowFits config now := by
  have hsweep : (AdmissionState.new config now).maybeCleanupPeers now = some (.new config now) :=
    AdmissionState.maybeCleanupPeers_fresh rfl
  have hclean : (AdmissionState.new config now).cleanupPeer ip now = some (.new config now) := rfl
  unfold AdmissionState.recordAuthFailure at h
  simp only [hsweep, hclean, Option.bind_eq_bind,
    Option.bind_some, AdmissionState.countFailure] at h
  obtain ⟨r, hr⟩ := Option.isSome_iff_exists.mp h
  obtain ⟨oldest, hold, -⟩ := Option.bind_eq_some_iff.mp hr
  exact Instant.checkedSub_isSome.mp (by
    rw [show now.checkedSub config.authFailureBanWindow = some oldest from hold]
    rfl)

theorem inWindow_replicate (now : Instant p) (window : Duration) (k : Nat) :
    inWindow now window (List.replicate k now) = List.replicate k now := by
  cases k with
  | zero => rfl
  | succ k =>
      have hnow : ¬ now.ns < now.ns - window := by omega
      simp [inWindow, List.replicate_succ, hnow]

/-- Failures at `now` either compute the end of a ban, or pile up. -/
theorem failures_pile_up
    (hsafe : ∀ h s, OpRun config h s → (s.recordAuthFailure testPeer now).isSome)
    (hno : ¬ BanFits config now) (k : Nat) :
    ∃ h s, OpRun config h s ∧ queueOf (s.perPeer.lookup testPeer) = List.replicate k now ∧
      (0 < k → k < config.authFailureBanThreshold) := by
  induction k with
  | zero => exact ⟨[], .new config now, .nil ⟨now, rfl⟩, rfl, fun h => absurd h (lt_irrefl 0)⟩
  | succ k ih =>
      obtain ⟨h, s, hr, hqueue, -⟩ := ih
      obtain ⟨⟨banned, s'⟩, hstep⟩ := Option.isSome_iff_exists.mp (hsafe h s hr)
      have hconf := hr.config
      rcases recordAuthFailure_transient hstep with ⟨-, -, -, until_, huntil, -⟩ |
        ⟨-, hlen, hqueue', -⟩
      · -- the end of the ban is an instant of the clock
        rw [hconf] at huntil
        have hfits : BanFits config now := by
          unfold BanFits
          rw [← huntil]
          exact until_.le_max
        exact absurd hfits hno
      · rw [hconf, hqueue, inWindow_replicate, List.length_replicate] at hlen
        rw [hqueue, inWindow_replicate, ← List.replicate_succ'] at hqueue'
        exact ⟨.recordAuthFailure testPeer now banned :: h, s', .cons hr hstep, hqueue',
          fun _ => by omega⟩

/-- Sufficiently many failures compute the end of a ban. -/
theorem banFits_of_recordAuthFailure
    (hsafe : ∀ h s, OpRun config h s → (s.recordAuthFailure testPeer now).isSome) :
    BanFits config now := by
  by_contra hno
  obtain ⟨h, s, -, -, hlt⟩ := failures_pile_up hsafe hno (config.authFailureBanThreshold + 1)
  have := hlt (Nat.succ_pos _)
  omega

end

end Narrowd.Admission
