import Narrowd.Admission.Rate
import Narrowd.Admission.Sweeps

set_option autoImplicit false

/-! # Rejected attempts leave no trace

A `try_acquire` that is rejected does not leave the state as it was: it may have swept, it cleans
up its peer, and a rate-limited one makes an entry if there is none and refills its bucket. None of
this can be seen. The cleanups cannot (`Admission/Sweeps.lean`), and a bucket that is refilled in
between holds the same afterwards as one that is not (`TokenBucket.level_level`). So the state
after the call and the state before it are indistinct, and the run goes on from the one as it does
from the other (`rejections_leave_no_trace`).

Without the call the sweeps of the rest of the run come at other times. As long as
`now - auth_failure_ban_window` is before the clock's beginning, a sweep that finds an entry panics,
so it takes an argument of its own that the run without the call does not panic (`SweepsFollow`): in
that phase no entry is ever removed, and a rejected call that finds none at all makes one, or shows
that none can be made.
-/

namespace Narrowd.Admission

open Narrowd.Lib

variable {p : Platform}

/-! ## Refilling in between -/

/-- A bucket that is refilled in between holds the same as one that is not. -/
theorem TokenBucket.level_level (b : TokenBucket p) (limit burst : Nat) {t now : Instant p}
    (hb : b.lastRefill ≤ t) (ht : t ≤ now) :
    (⟨b.level limit burst t, t⟩ : TokenBucket p).level limit burst now
      = b.level limit burst now := by
  have hfirst : b.lastRefill.ns ≤ t.ns := hb
  have hthen : t.ns ≤ now.ns := ht
  have hsplit : ((now.ns - b.lastRefill.ns).toNat : ℚ)
      = ((t.ns - b.lastRefill.ns).toNat : ℚ) + ((now.ns - t.ns).toNat : ℚ) := by
    have : (now.ns - b.lastRefill.ns).toNat
        = (t.ns - b.lastRefill.ns).toNat + (now.ns - t.ns).toNat := by omega
    exact_mod_cast this
  have hdrip : 0 ≤ ratePerNano limit * ((now.ns - t.ns).toNat : ℚ) :=
    mul_nonneg (ratePerNano_nonneg limit) (Nat.cast_nonneg _)
  show min (min (b.tokens + asSecs (t.ns - b.lastRefill.ns).toNat * ((limit : ℚ) / 60)) burst
      + asSecs (now.ns - t.ns).toNat * ((limit : ℚ) / 60)) (burst : ℚ)
    = min (b.tokens + asSecs (now.ns - b.lastRefill.ns).toNat * ((limit : ℚ) / 60)) burst
  rw [asSecs_mul_rate, asSecs_mul_rate, asSecs_mul_rate, hsplit, mul_add, ← add_assoc,
    ← min_add_add_right, min_assoc, min_eq_right (le_add_of_nonneg_right hdrip)]

/-- The buckets of `s` have not been refilled after `t`. -/
def RefilledBy (t : Instant p) (s : AdmissionState p) : Prop :=
  ∀ ip, BucketMeets (fun b => b.lastRefill ≤ t) (s.perPeer.lookup ip)

variable {e : Event p}

theorem RefilledBy.step {s s' : AdmissionState p} (h : RefilledBy e.time s) (hs : OpStep s e s') :
    RefilledBy e.time s' := fun ip =>
  OpStep.bucketMeets hs (h ip) le_rfl (fun _ _ => le_rfl) fun _ _ _ => le_rfl

variable {config : AdmissionConfig} {h : List (Event p)}

theorem OpRun.refilledBy {s : AdmissionState p} (hr : OpRun config h s) (ho : Ordered Event.time h)
    {t : Instant p} (ht : NotBefore h t) : RefilledBy t s := by
  refine hr.invariant (P := fun h s => Ordered Event.time h → ∀ t, NotBefore h t → RefilledBy t s)
    ?_ ?_ ho t ht
  · rintro s ⟨now, rfl⟩ _ t _ ip peer hpeer
    cases hpeer
  · intro h s e s' _ ih hs ho t ht ip peer hpeer
    have hstep := (ih (Ordered.tail ho) e.time (Ordered.notBefore ho)).step hs
    exact le_trans (hstep ip peer hpeer) (ht e List.mem_cons_self)

/-! ## The state that a rejection leaves -/

section

variable {config : AdmissionConfig} {t : Instant p} {x y z : Option (PeerState p)}

theorem alike_trans (hxy : Option.Rel (PeerState.Alike config t) x y)
    (hyz : Option.Rel (PeerState.Alike config t) y z) :
    Option.Rel (PeerState.Alike config t) x z := by
  cases hxy with
  | none => exact hyz
  | some hxy =>
      cases hyz with
      | some hyz =>
          exact .some ⟨hxy.unauthenticatedConnections.trans hyz.unauthenticatedConnections,
            hxy.authFailures.trans hyz.authFailures, hxy.bannedUntil.trans hyz.bannedUntil,
            fun now hnow => (hxy.level now hnow).trans (hyz.level now hnow)⟩

end

variable {t' : Instant p} {reason : RejectReason} {r : Except RejectReason Unit}

namespace AdmissionState

variable {s s' u c d : AdmissionState p} {t now : Instant p} {ip : IpAddr} {subnet : SubnetKey}

/-- The entry with its bucket refilled. -/
theorem alike_rateLimited (hb : RefilledBy now s) (ip : IpAddr) :
    Option.Rel (PeerState.Alike s.config now)
      (cleanedAt s.config now ((s.rateLimited ip now).perPeer.lookup ip))
      (cleanedAt s.config now (s.perPeer.lookup ip)) := by
  have hentry : (s.rateLimited ip now).perPeer.lookup ip
      = some { s.peerOrNew ip now with
          connectionBucket := ⟨s.bucketLevel ip now, now⟩ } := AList.lookup_insert _
  rw [hentry]
  cases hl : s.perPeer.lookup ip with
  | none =>
      -- a new entry holds nothing, so the next cleanup removes it
      have hnew : s.peerOrNew ip now = .new s.config.newConnectionsBurstPerIp now := by
        rw [peerOrNew, hl]
        rfl
      rw [cleanedAt_eq_none (by rw [hnew]; rfl)]
      exact .none
  | some peer =>
      have hpeer : s.peerOrNew ip now = peer := by
        rw [peerOrNew, hl]
        rfl
      refine alike_cleanedAt (.some ⟨?_, ?_, ?_, fun now' hnow' => ?_⟩) le_rfl
      · rw [hpeer]
      · rw [hpeer]
      · rw [hpeer]
      · rw [bucketLevel, hpeer]
        exact TokenBucket.level_level _ _ _ (hb ip peer hl) hnow'

/-- **A rejected call** leaves a state that cannot be told from the one it found. -/
theorem indistinct_of_rejected (hb : RefilledBy now s)
    (hs : OpStep s (.tryAcquire ip subnet now (.error reason)) s') : Indistinct now s' s := by
  obtain ⟨c, hc, hrest⟩ := opStep_iff.mp hs
  simp only [UnsweptStep, tryAcquireUnswept, Option.bind_eq_bind, Option.bind_eq_some_iff] at hrest
  obtain ⟨d, hd, hdecide⟩ := hrest
  have hclean : Indistinct now d s :=
    ((Indistinct.refl now s).swept (swept_of_maybeCleanupPeers hc) (.refl s now)).swept
      (swept_of_cleanupPeer hd) (.refl s now)
  rw [decideAcquire_eq] at hdecide
  obtain ⟨hr, rfl⟩ := Prod.mk.inj (Option.some.inj hdecide)
  rw [hr]
  by_cases hlimited : reason = .connectionRateLimited
  · subst hlimited
    have hbd : RefilledBy now d := by
      intro k
      have hspec := cleanup_spec hc hd
      rw [hspec.lookup]
      exact FoundPeer.bucketMeets (s.foundPeer_cleaned ip now k) (hb k)
    refine ⟨hclean.config, hclean.unauthenticatedConnections, hclean.perSubnet, fun k => ?_⟩
    by_cases hk : k = ip
    · subst hk
      refine ⟨alike_trans (alike_rateLimited hbd k) (hclean.peer k).alike, Or.inr fun hnone => ?_⟩
      have hentry : (d.rateLimited k now).perPeer.lookup k ≠ none := by
        rw [show (d.rateLimited k now).perPeer.lookup k = some _ from AList.lookup_insert _]
        exact Option.some_ne_none _
      exact absurd hnone hentry
    · have hother : (d.answered ip subnet now (.error .connectionRateLimited)).perPeer.lookup k
          = d.perPeer.lookup k := AList.lookup_insert_ne hk
      rw [hother]
      exact hclean.peer k
  · have hsame : d.answered ip subnet now (.error reason) = d := by
      cases reason <;> first | rfl | exact absurd rfl hlimited
    rw [hsame]
    exact hclean

/-! ## Before the window fits on the clock -/

/-- No peer has an entry. -/
def NoPeers (s : AdmissionState p) : Prop := ∀ ip, s.perPeer.lookup ip = none

/-- With these limits no attempt gets as far as making an entry. -/
def NoneAdmitted (config : AdmissionConfig) : Prop :=
  config.maxUnauthConnectionsGlobal = 0 ∨ config.maxUnauthConnectionsPerSubnet = 0

theorem maybeCleanupPeers_isSome_of_noPeers (h : NoPeers s) (now : Instant p) :
    (s.maybeCleanupPeers now).isSome := by
  refine maybeCleanupPeers_isSome_of_peers fun k peer hk => ?_
  rw [h k] at hk
  cases hk

/-- A sweep that the window is too long for finds no peer. -/
theorem noPeers_of_sweepDue (h : s.maybeCleanupPeers now = some c)
    (hw : ¬ WindowFits s.config now) (hdue : s.sweepDue now) : NoPeers s := by
  rw [maybeCleanupPeers_eq, if_pos hdue] at h
  intro ip
  by_contra hentry
  obtain ⟨peer, hpeer⟩ := Option.ne_none_iff_exists'.mp hentry
  exact hw (windowFits_of_sweep h hpeer)

theorem Swept.lookup_eq (h : Swept s c now) (hw : ¬ WindowFits s.config now) (ip : IpAddr) :
    c.perPeer.lookup ip = s.perPeer.lookup ip :=
  (h.peer ip).resolve_right fun hp => hw hp.1

/-- The own peer of a call the window is too long for has no entry. -/
theorem cleanupPeer_early (h : c.cleanupPeer ip now = some d) (hw : ¬ WindowFits c.config now) :
    c.perPeer.lookup ip = none ∧ d = c := by
  have hnone := (cleanupPeer_isSome_iff.mp (by rw [h]; rfl)).resolve_right hw
  rw [AdmissionState.cleanupPeer, hnone] at h
  exact ⟨hnone, (Option.some.inj h).symm⟩

theorem tryAcquireUnswept_early (h : c.tryAcquireUnswept ip subnet now = some (r, s'))
    (hw : ¬ WindowFits c.config now) :
    c.perPeer.lookup ip = none ∧ c.verdict ip subnet now = r ∧
      s' = c.answered ip subnet now r := by
  simp only [tryAcquireUnswept, Option.bind_eq_bind, Option.bind_eq_some_iff] at h
  obtain ⟨d, hd, hdecide⟩ := h
  obtain ⟨hnone, rfl⟩ := cleanupPeer_early hd hw
  rw [decideAcquire_eq] at hdecide
  obtain ⟨hr, rfl⟩ := Prod.mk.inj (Option.some.inj hdecide)
  exact ⟨hnone, hr, by rw [hr]⟩

/-- **A call the window is too long for** is about a peer without an entry, and either an attempt
to connect or a release. -/
theorem early_cases (hs : UnsweptStep c e s') (hw : ¬ WindowFits c.config e.time) :
    c.perPeer.lookup e.peerIp = none ∧
    ((∃ subnet r, c.verdict e.peerIp subnet e.time = r ∧ s' = c.answered e.peerIp subnet e.time r) ∨
      ∃ subnet, s' = c.releaseCounters e.peerIp subnet) := by
  cases e with
  | tryAcquire ip subnet now r =>
      obtain ⟨hnone, hr, hs'⟩ := tryAcquireUnswept_early hs hw
      exact ⟨hnone, Or.inl ⟨subnet, r, hr, hs'⟩⟩
  | recordAuthFailure ip now banned =>
      simp only [UnsweptStep, recordAuthFailureUnswept, Option.bind_eq_bind,
        Option.bind_eq_some_iff] at hs
      obtain ⟨d, hd, hcount⟩ := hs
      obtain ⟨-, rfl⟩ := cleanupPeer_early hd hw
      -- a failure computes the beginning of the window
      simp only [AdmissionState.countFailure, Option.bind_eq_bind,
        Option.bind_eq_some_iff] at hcount
      obtain ⟨oldest, hold, -⟩ := hcount
      have hsome : (now.checkedSub d.config.authFailureBanWindow).isSome := by
        rw [hold]
        rfl
      exact absurd (Instant.checkedSub_isSome.mp hsome) hw
  | release ip subnet now =>
      obtain ⟨hnone, rfl⟩ := cleanupPeer_early (c := c.releaseCounters ip subnet) hs hw
      refine ⟨?_, Or.inr ⟨subnet, rfl⟩⟩
      rw [releaseCounters_perPeer, if_pos rfl] at hnone
      exact Option.map_eq_none_iff.mp hnone

/-- The entries after an answer: nothing, or one more for the peer. -/
theorem answered_lookup (c : AdmissionState p) (ip : IpAddr) (subnet : SubnetKey) (now : Instant p)
    (r : Except RejectReason Unit) :
    c.answered ip subnet now r = c ∨
      ∃ peer, (c.answered ip subnet now r).perPeer = c.perPeer.insert ip peer := by
  rcases r with reason | ⟨⟨⟩⟩
  · cases reason with
    | connectionRateLimited => exact Or.inr ⟨_, rfl⟩
    | _ => exact Or.inl rfl
  · exact Or.inr ⟨_, rfl⟩

/-- An entry that is there stays, as long as the window is too long. -/
theorem early_keeps (hs : UnsweptStep c e s') (hw : ¬ WindowFits c.config e.time) {k : IpAddr}
    (hk : s'.perPeer.lookup k = none) : c.perPeer.lookup k = none := by
  obtain ⟨-, ⟨subnet, r, -, rfl⟩ | ⟨subnet, rfl⟩⟩ := early_cases hs hw
  · rcases c.answered_lookup e.peerIp subnet e.time r with hsame | ⟨peer, hins⟩
    · rwa [hsame] at hk
    · rw [hins, Table.lookup_insert_ite] at hk
      split at hk
      · cases hk
      · exact hk
  · rw [releaseCounters_perPeer] at hk
    split at hk
    · exact Option.map_eq_none_iff.mp hk
    · exact hk

/-- A release for a peer without an entry changes no entry. -/
theorem releaseCounters_noPeers (h : NoPeers c) (ip : IpAddr) (subnet : SubnetKey) :
    NoPeers (c.releaseCounters ip subnet) := by
  intro k
  rw [releaseCounters_perPeer, h k]
  split <;> rfl

/-- Where nobody can be admitted, no entry comes up. -/
theorem early_noPeers (hs : UnsweptStep c e s') (hw : ¬ WindowFits c.config e.time)
    (hnone : NoneAdmitted c.config) (hc : NoPeers c) : NoPeers s' := by
  obtain ⟨hown, ⟨subnet, r, hr, rfl⟩ | ⟨subnet, rfl⟩⟩ := early_cases hs hw
  · rw [verdict, hown] at hr
    simp only [Option.any_none, Bool.false_eq_true, if_false] at hr
    have hsame : c.answered e.peerIp subnet e.time r = c := by
      by_cases hglobal : c.config.maxUnauthConnectionsGlobal ≤ c.unauthenticatedConnections
      · rw [if_pos hglobal] at hr
        subst hr
        rfl
      · have hsubnet : c.config.maxUnauthConnectionsPerSubnet = 0 :=
          hnone.resolve_left fun hzero => hglobal (by omega)
        rw [if_neg hglobal, if_pos (by omega)] at hr
        subst hr
        rfl
    rwa [hsame]
  · exact releaseCounters_noPeers hc _ _

/-! ### Nobody has come yet -/

/-- Nobody has been let in. -/
structure Untouched (s : AdmissionState p) : Prop where
  unauthenticatedConnections : s.unauthenticatedConnections = 0
  perSubnet : ∀ k, s.perSubnet.lookup k = none

/-- Where nobody has been let in, an attempt makes an entry unless the limits forbid any. -/
theorem Untouched.noneAdmitted (hun : Untouched c) (hown : c.perPeer.lookup ip = none)
    (hr : c.verdict ip subnet now = r) (hempty : NoPeers (c.answered ip subnet now r)) :
    NoneAdmitted c.config := by
  rw [verdict, hown] at hr
  simp only [Option.any_none, Bool.false_eq_true, if_false, hun.unauthenticatedConnections,
    hun.perSubnet, Option.getD_none, Nat.le_zero] at hr
  by_contra hno
  obtain ⟨hglobal, hsubnet⟩ := not_or.mp hno
  rw [if_neg hglobal, if_neg hsubnet] at hr
  have hentry := hempty ip
  split at hr <;> subst hr <;>
    · rw [show (c.answered ip subnet now _).perPeer.lookup ip = some _ from
        AList.lookup_insert _] at hentry
      cases hentry

/-- As long as the window is too long, there are no entries only if nobody has been let in. -/
theorem early_untouched (hr : OpRun config h s) (ho : Ordered Event.time h) (ht : NotBefore h t)
    (hw : ¬ WindowFits config t) : NoPeers s → Untouched s := by
  refine hr.invariant (P := fun h s => Ordered Event.time h → ∀ t, NotBefore h t →
    ¬ WindowFits config t → NoPeers s → Untouched s) ?_ ?_ ho t ht hw
  · rintro s ⟨now, rfl⟩ _ _ _ _ _
    exact ⟨rfl, fun k => rfl⟩
  · intro h s e s' hr ih hs ho t ht hw hempty
    have hconf : s.config = config := OpRun.config hr
    have hw' : ¬ WindowFits s.config e.time := fun hfits =>
      hw (hconf ▸ hfits.mono (ht e List.mem_cons_self))
    obtain ⟨c, hc, hrest⟩ := opStep_iff.mp hs
    have hswept := swept_of_maybeCleanupPeers hc
    have hwc : ¬ WindowFits c.config e.time := hswept.config ▸ hw'
    have hcempty : NoPeers c := fun k => early_keeps hrest hwc (hempty k)
    have hun := ih (Ordered.tail ho) e.time (Ordered.notBefore ho) (hconf ▸ hw')
      fun k => (hswept.lookup_eq hw' k).symm.trans (hcempty k)
    obtain ⟨-, ⟨subnet, r, -, rfl⟩ | ⟨subnet, rfl⟩⟩ := early_cases hrest hwc
    · rcases c.answered_lookup e.peerIp subnet e.time r with hsame | ⟨peer, hins⟩
      · rw [hsame]
        exact ⟨hswept.unauthenticatedConnections.trans hun.unauthenticatedConnections,
          fun k => by rw [hswept.perSubnet]; exact hun.perSubnet k⟩
      · have hentry := hempty e.peerIp
        rw [hins, AList.lookup_insert] at hentry
        cases hentry
    · refine ⟨?_, fun k => ?_⟩
      · show (if 0 < c.unauthenticatedConnections then c.unauthenticatedConnections - 1
            else c.unauthenticatedConnections) = 0
        rw [hswept.unauthenticatedConnections, hun.unauthenticatedConnections]
        rfl
      · rw [releaseCounters_perSubnet, hswept.perSubnet, hun.perSubnet k]
        split <;> rfl

/-! ### The sweeps of the two runs -/

/-- How the sweeps of a run from `u` compare with those of a run from `s`, as long as the window is
too long for a sweep of any entry: they are the same; or `s` has an entry and does not sweep any
more, and `u` does not either, or once more while it has no entry; or no entry ever comes up. -/
def SweepsFollow (t : Instant p) (s u : AdmissionState p) : Prop :=
  s.lastPeerSweep = u.lastPeerSweep ∨
  (¬ NoPeers s ∧ s.lastPeerSweep ≤ u.lastPeerSweep) ∨
  (¬ NoPeers s ∧ s.lastPeerSweep ≤ t ∧ NoPeers u ∧ ∀ now, t ≤ now → u.sweepDue now) ∨
  (NoneAdmitted u.config ∧ NoPeers u)

/-- A sweep that is due is due later as well, and where the last one is longer ago. -/
theorem sweepDue_of_le (hdue : u.sweepDue t') (hlast : s.lastPeerSweep ≤ u.lastPeerSweep)
    (ht : t' ≤ now) : s.sweepDue now := by
  have h₁ : s.lastPeerSweep.ns ≤ u.lastPeerSweep.ns := hlast
  have h₂ : t'.ns ≤ now.ns := ht
  exact le_trans hdue (Int.toNat_le_toNat (by omega))

/-- The run from `u` does not panic where the run from `s` does not. -/
theorem SweepsFollow.isSome (h : SweepsFollow t s u) (hsu : Indistinct now s u)
    (hw : ¬ WindowFits s.config now) (hc : s.maybeCleanupPeers now = some c) :
    (u.maybeCleanupPeers now).isSome := by
  by_cases hdue : u.sweepDue now
  · refine maybeCleanupPeers_isSome_of_noPeers ?_ now
    have hpeers : s.sweepDue now → NoPeers u := fun hdue ip =>
      ((hsu.peer ip).present.resolve_left hw) (noPeers_of_sweepDue hc hw hdue ip)
    rcases h with hlast | ⟨hentry, hlast⟩ | ⟨-, -, hempty, -⟩ | ⟨-, hempty⟩
    · exact hpeers (sweepDue_of_le hdue hlast.le le_rfl)
    · exact hpeers (sweepDue_of_le hdue hlast le_rfl)
    · exact hempty
    · exact hempty
  · rw [maybeCleanupPeers_eq, if_neg hdue]
    rfl

theorem SweepsFollow.step {u' : AdmissionState p} (h : SweepsFollow t s u)
    (hsu : Indistinct e.time s u) (ht : t ≤ e.time) (hw : ¬ WindowFits s.config e.time)
    (hs : OpStep s e s') (hu : OpStep u e u') : SweepsFollow e.time s' u' := by
  have hlast := hs.lastPeerSweep
  have hlast' := hu.lastPeerSweep
  obtain ⟨c, hc, hs⟩ := opStep_iff.mp hs
  obtain ⟨d, hd, hu⟩ := opStep_iff.mp hu
  have hsc := swept_of_maybeCleanupPeers hc
  have hud := swept_of_maybeCleanupPeers hd
  have hwc : ¬ WindowFits c.config e.time := hsc.config ▸ hw
  have hwu : ¬ WindowFits u.config e.time := hsu.config ▸ hw
  have hwd : ¬ WindowFits d.config e.time := hud.config ▸ hwu
  -- an entry stays, so a state with an entry does not sweep
  have hstays : ¬ NoPeers s → ¬ NoPeers s' ∧ s'.lastPeerSweep = s.lastPeerSweep := by
    intro hentry
    refine ⟨fun hempty => hentry fun k => ?_, ?_⟩
    · rw [← hsc.lookup_eq hw k]
      exact early_keeps hs hwc (hempty k)
    · rw [hlast, if_neg fun hdue => hentry (noPeers_of_sweepDue hc hw hdue)]
  rcases h with hsame | ⟨hentry, hle⟩ | ⟨hentry, hle, hempty, hdue⟩ | ⟨hnone, hempty⟩
  · left
    have hiff : s.sweepDue e.time ↔ u.sweepDue e.time := by
      simp only [sweepDue, hsame]
    rw [hlast, hlast', hsame]
    simp only [hiff]
  · obtain ⟨hentry', hkept⟩ := hstays hentry
    refine Or.inr (Or.inl ⟨hentry', ?_⟩)
    have hnot : ¬ u.sweepDue e.time := fun hdue =>
      hentry (noPeers_of_sweepDue hc hw (sweepDue_of_le hdue hle le_rfl))
    rw [hkept, hlast', if_neg hnot]
    exact hle
  · obtain ⟨hentry', hkept⟩ := hstays hentry
    refine Or.inr (Or.inl ⟨hentry', ?_⟩)
    rw [hkept, hlast', if_pos (hdue e.time ht)]
    exact le_trans hle ht
  · have hdempty : NoPeers d := fun k => (hud.lookup_eq hwu k).trans (hempty k)
    have hconf : u'.config = u.config := OpStep.config (opStep_iff.mpr ⟨d, hd, hu⟩)
    exact Or.inr (Or.inr (Or.inr
      ⟨hconf ▸ hnone, early_noPeers hu hwd (hud.config ▸ hnone) hdempty⟩))

theorem SweepsFollow.mono (h : SweepsFollow t s u) (ht : t ≤ t') : SweepsFollow t' s u := by
  rcases h with hsame | hlater | ⟨hentry, hle, hempty, hdue⟩ | hnone
  · exact Or.inl hsame
  · exact Or.inr (Or.inl hlater)
  · exact Or.inr (Or.inr (Or.inl ⟨hentry, le_trans hle ht, hempty,
      fun now hnow => hdue now (le_trans ht hnow)⟩))
  · exact Or.inr (Or.inr (Or.inr hnone))

/-! ## The rest of the run -/

/-- A run from `u` goes like a run from `s` from `t` on. -/
structure Follows (t : Instant p) (s u : AdmissionState p) : Prop where
  indistinct : Indistinct t s u
  sweeps : WindowFits s.config t ∨ SweepsFollow t s u

theorem Follows.mono (h : Follows t s u) (ht : t ≤ t') : Follows t' s u :=
  ⟨h.indistinct.mono ht,
    h.sweeps.imp (fun hfits => hfits.mono ht) fun hsweeps => hsweeps.mono ht⟩

/-- **One call.** What a call answers in `s` it answers in `u`. -/
theorem Follows.step (h : Follows t s u) (ht : t ≤ e.time) (hs : OpStep s e s') :
    ∃ u', OpStep u e u' ∧ Follows e.time s' u' := by
  obtain ⟨c, hc, hrest⟩ := opStep_iff.mp hs
  have hsu := h.indistinct.mono ht
  by_cases hw : WindowFits s.config e.time
  · obtain ⟨d, hd⟩ := Option.isSome_iff_exists.mp
      (maybeCleanupPeers_isSome (s := u) (hsu.config ▸ hw))
    obtain ⟨u', hu', hrel⟩ := (hsu.swept (swept_of_maybeCleanupPeers hc)
      (swept_of_maybeCleanupPeers hd)).follow hrest
    exact ⟨u', opStep_iff.mpr ⟨d, hd, hu'⟩, hrel, Or.inl (hs.config ▸ hw)⟩
  · have hsweeps : SweepsFollow t s u := h.sweeps.resolve_left fun hfits => hw (hfits.mono ht)
    obtain ⟨d, hd⟩ := Option.isSome_iff_exists.mp (hsweeps.isSome hsu hw hc)
    obtain ⟨u', hu', hrel⟩ := (hsu.swept (swept_of_maybeCleanupPeers hc)
      (swept_of_maybeCleanupPeers hd)).follow hrest
    have hu : OpStep u e u' := opStep_iff.mpr ⟨d, hd, hu'⟩
    exact ⟨u', hu, hrel, Or.inr (hsweeps.step hsu ht hw hs hu)⟩

/-- The run goes on from the state before a rejected call as it does from the state after it. -/
theorem follows_of_rejected (hr : OpRun config h s) (ho : Ordered Event.time h)
    (ht : NotBefore h now) (hs : OpStep s (.tryAcquire ip subnet now (.error reason)) s') :
    Follows now s' s := by
  refine ⟨indistinct_of_rejected (hr.refilledBy ho ht) hs, ?_⟩
  by_cases hw : WindowFits s.config now
  · exact Or.inl (hs.config ▸ hw)
  refine Or.inr ?_
  obtain ⟨c, hc, hrest⟩ := opStep_iff.mp hs
  have hsc := swept_of_maybeCleanupPeers hc
  have hwc : ¬ WindowFits c.config now := hsc.config ▸ hw
  have hlast : s'.lastPeerSweep = if s.sweepDue now then now else s.lastPeerSweep :=
    hs.lastPeerSweep
  by_cases hdue : s.sweepDue now
  · -- nobody has come yet: the call has made the first entry, or none can be made
    have hempty := noPeers_of_sweepDue hc hw hdue
    by_cases hentry : NoPeers s'
    · have hun := early_untouched hr ho ht (hr.config ▸ hw) hempty
      have hunc : Untouched c :=
        ⟨hsc.unauthenticatedConnections.trans hun.unauthenticatedConnections,
          fun k => by rw [hsc.perSubnet]; exact hun.perSubnet k⟩
      obtain ⟨hown, hverdict, rfl⟩ := tryAcquireUnswept_early hrest hwc
      exact Or.inr (Or.inr (Or.inr ⟨hsc.config ▸ hunc.noneAdmitted hown hverdict hentry, hempty⟩))
    · refine Or.inr (Or.inr (Or.inl ⟨hentry, ?_, hempty, fun now' hnow' => ?_⟩))
      · rw [hlast, if_pos hdue]
      · exact sweepDue_of_le hdue le_rfl hnow'
  · exact Or.inl (by rw [hlast, if_neg hdue])

end AdmissionState

/-- **Rejected attempts leave no trace.** If a run contains a `try_acquire` that is rejected, for
whatever reason, the same calls without it are a run with the same answers. -/
theorem rejections_leave_no_trace {config : AdmissionConfig} {created : Instant p}
    {before after : List (Event p)} {ip : IpAddr} {subnet : SubnetKey} {now : Instant p}
    {reason : RejectReason} {s : AdmissionState p}
    (hr : Run (· = AdmissionState.new config created) OpStep
      (after ++ .tryAcquire ip subnet now (.error reason) :: before) s)
    (ho : Ordered Event.time (after ++ .tryAcquire ip subnet now (.error reason) :: before)) :
    ∃ u, Run (· = AdmissionState.new config created) OpStep (after ++ before) u := by
  obtain ⟨s₁, hr₁, hafter⟩ := hr.split
  cases hr₁ with
  | @cons _ s₀ _ _ hbefore hs =>
      have hnew : OpRun config before s₀ :=
        hbefore.mono (fun _ h0 => ⟨created, h0⟩) fun _ _ _ hs => hs
      have ho₁ : Ordered Event.time (.tryAcquire ip subnet now (.error reason) :: before) :=
        ho.of_append
      have hfollows : AdmissionState.Follows now s₁ s₀ := AdmissionState.follows_of_rejected hnew
        (Ordered.tail ho₁) (Ordered.notBefore ho₁) hs
      have hlater : Ordered Event.time after ∧ ∀ e ∈ after, now ≤ e.time := by
        obtain ⟨hrest, -, hcross⟩ := List.pairwise_append.mp ho
        exact ⟨hrest, fun e he => hcross e he _ List.mem_cons_self⟩
      suffices hsim : ∃ u, Run (· = s₀) OpStep after u ∧
          ∀ t, now ≤ t → NotBefore after t → AdmissionState.Follows t s u from
        hsim.imp fun u hu => hbefore.append hu.1
      refine Run.simulate
        (H := fun h => Ordered Event.time h ∧ ∀ e ∈ h, now ≤ e.time)
        (R := fun h s u => ∀ t, now ≤ t → NotBefore h t → AdmissionState.Follows t s u)
        ?_ ?_ ?_ hafter hlater
      · exact fun e h hh => ⟨Ordered.tail hh.1, fun e' he' => hh.2 e' (List.mem_cons_of_mem _ he')⟩
      · rintro s rfl
        exact ⟨s₀, rfl, fun t ht _ => hfollows.mono ht⟩
      · intro h s u e s' hh hrel hs
        obtain ⟨u', hu', hrel'⟩ := (hrel e.time (hh.2 e List.mem_cons_self)
          (Ordered.notBefore hh.1)).step le_rfl hs
        exact ⟨u', hu', fun t _ ht => hrel'.mono (ht e List.mem_cons_self)⟩

/-- The configuration of the unit tests with room for one connection. -/
def roomForOne : AdmissionConfig := { testConfig with maxUnauthConnectionsGlobal := 1 }

def firstAttempt : Event .linux :=
  .tryAcquire testPeer (subnetKey testPeer) (linuxAt 0) (.ok ())

def rejectedAttempt : Event .linux :=
  .tryAcquire (.v4 ⟨10, 0, 0, 2⟩) (subnetKey testPeer) (linuxAt 1)
    (.error .tooManyUnauthenticatedConnections)

def firstRelease : Event .linux := .release testPeer (subnetKey testPeer) (linuxAt 2)

/-- A second connection is rejected while the first one is open. -/
theorem rejection_between_leaves_no_trace :
    ∃ s u,
      Run (· = AdmissionState.new roomForOne (linuxAt 0)) OpStep
        ([firstRelease] ++ rejectedAttempt :: [firstAttempt]) s ∧
      Run (· = AdmissionState.new roomForOne (linuxAt 0)) OpStep
        ([firstRelease] ++ [firstAttempt]) u := by
  set first := AdmissionState.new roomForOne (linuxAt 0) with hfirst
  set s₁ := first.admitted testPeer (subnetKey testPeer) (linuxAt 0) with hs₁
  have h₁ : first.tryAcquire testPeer (subnetKey testPeer) (linuxAt 0) = some (.ok (), s₁) :=
    AdmissionState.tryAcquire_new testPeer (subnetKey testPeer) (by decide) (by decide) (by decide)
  have hfits : ∀ {s : AdmissionState .linux} {t : Fin 100000}, s.config = roomForOne →
      WindowFits s.config (linuxAt t) := by
    intro s t hconf
    rw [hconf]
    show -(2 ^ 63 * 1000000000) ≤ (t.val * 1000000000 : Int) - (30000000000 : Nat)
    omega
  obtain ⟨⟨r, s₂⟩, h₂⟩ := Option.isSome_iff_exists.mp
    (AdmissionState.tryAcquire_isSome (s := s₁) (hfits rfl) (.v4 ⟨10, 0, 0, 2⟩)
      (subnetKey testPeer))
  obtain ⟨c, hc, hdecide⟩ := AdmissionState.tryAcquire_spec h₂
  have hnone : c.perPeer.lookup (.v4 ⟨10, 0, 0, 2⟩) = none := by
    rw [hc.lookup, AdmissionState.cleanedPeer_own]
    rfl
  have hverdict : c.verdict (.v4 ⟨10, 0, 0, 2⟩) (subnetKey testPeer) (linuxAt 1)
      = .error .tooManyUnauthenticatedConnections := by
    rw [AdmissionState.verdict, hnone, hc.config, hc.unauthenticatedConnections]
    rfl
  rw [AdmissionState.decideAcquire_eq, hverdict] at hdecide
  obtain ⟨rfl, -⟩ := Prod.mk.inj hdecide
  have hfits₂ : WindowFits s₂.config (linuxAt 2) := hfits (AdmissionState.tryAcquire_config h₂)
  obtain ⟨s₃, h₃⟩ := Option.isSome_iff_exists.mp
    (AdmissionState.release_isSome hfits₂ testPeer (subnetKey testPeer))
  have hr : Run (· = first) OpStep ([firstRelease] ++ rejectedAttempt :: [firstAttempt]) s₃ :=
    .cons (.cons (.cons (.nil rfl) h₁) h₂) h₃
  have ho : Ordered Event.time ([firstRelease] ++ rejectedAttempt :: [firstAttempt]) := by
    simp only [Ordered, firstRelease, rejectedAttempt, firstAttempt]
    decide
  obtain ⟨u, hu⟩ := rejections_leave_no_trace hr ho
  exact ⟨s₃, u, hr, hu⟩

end Narrowd.Admission
