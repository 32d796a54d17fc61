import Narrowd.Admission.Clock
import Narrowd.Admission.Guards
import Narrowd.Admission.Rejections

set_option autoImplicit false

/-! # A peer that keeps its pace is admitted

The limits keep connections out; this file says whom they let in. An address gets its connection
when

* none of its bans is still running,
* the three connection counters are below their limits, and
* none of its connections was admitted less than one refill of a token ago
  (`60 s / new_connections_per_minute_per_ip`).

What the address and everybody else tried in the meantime does not matter. In particular a peer
that was refused and tries again at once does not push its own admission away: a refused attempt
refills the bucket to its own time, and refilling in two stages is refilling once
(`TokenBucket.level_level`). Buckets are exact here. In `f64` every refill rounds, also that of a
refused attempt, and just one refill after an admission the bucket may be short of a token by that.

The invariant looks ahead. It fixes the time `now` of the attempt and says of every earlier state
that the bucket of the address will hold a token at `now`. An admission long enough before `now`
establishes it, whatever was in the bucket before.
-/

namespace Narrowd.Admission

open Narrowd.Lib

variable {p : Platform} {config : AdmissionConfig} {s s' : AdmissionState p} {a : IpAddr}
  {e : Event p}

/-! ## The token of a later attempt -/

/-- A token is refilled between `t` and `now`. -/
def RefillsToken (config : AdmissionConfig) (t now : Instant p) : Prop :=
  60 * 1000000000 ≤ config.newConnectionsPerMinutePerIp * (now.ns - t.ns)

/-- The bucket will hold a token at `now`. -/
def Affords (config : AdmissionConfig) (now : Instant p) (b : TokenBucket p) : Prop :=
  1 ≤ b.level config.newConnectionsPerMinutePerIp config.newConnectionsBurstPerIp now

theorem affords_new (hburst : 0 < config.newConnectionsBurstPerIp) (t now : Instant p) :
    Affords config now (.new config.newConnectionsBurstPerIp t) := by
  have hone : (1 : ℚ) ≤ config.newConnectionsBurstPerIp := by exact_mod_cast hburst
  refine le_min ?_ hone
  refine le_add_of_le_of_nonneg hone ?_
  rw [TokenBucket.asSecs_mul_rate]
  exact mul_nonneg (TokenBucket.ratePerNano_nonneg _) (Nat.cast_nonneg _)

/-- A bucket that is not in debt at `t` holds a token once one has been refilled. -/
theorem affords_of_refill (hburst : 0 < config.newConnectionsBurstPerIp) {t now : Instant p}
    (hrefill : RefillsToken config t now) {x : ℚ} (hx : 0 ≤ x) :
    Affords config now ⟨x, t⟩ := by
  have hone : (1 : ℚ) ≤ config.newConnectionsBurstPerIp := by exact_mod_cast hburst
  refine le_min ?_ hone
  refine le_add_of_nonneg_of_le hx ?_
  show 1 ≤ TokenBucket.asSecs (now.ns - t.ns).toNat *
    ((config.newConnectionsPerMinutePerIp : ℚ) / 60)
  -- a refill takes time, so the clock has moved on
  have hpos : 0 < now.ns - t.ns := by
    by_contra hle
    have := mul_nonpos_of_nonneg_of_nonpos
      (Int.natCast_nonneg config.newConnectionsPerMinutePerIp) (not_lt.mp hle)
    rw [RefillsToken] at hrefill
    omega
  have hnanos : (((now.ns - t.ns).toNat : Int) : ℚ) = ((now.ns - t.ns : Int) : ℚ) := by
    rw [Int.toNat_of_nonneg hpos.le]
  have hmul : (60 * 1000000000 : ℚ)
      ≤ config.newConnectionsPerMinutePerIp * (((now.ns - t.ns).toNat : Int) : ℚ) := by
    rw [hnanos]
    exact_mod_cast hrefill
  rw [TokenBucket.asSecs_mul_rate, TokenBucket.ratePerNano]
  push_cast at hmul ⊢
  linarith

section

variable {now : Instant p}

theorem affords_step (hburst : 0 < config.newConnectionsBurstPerIp) (hconf : s.config = config)
    (hrefilled : RefilledBy e.time s) (hle : e.time ≤ now)
    (hpace : admits a e = true → RefillsToken config e.time now)
    (h : BucketMeets (Affords config now) (s.perPeer.lookup a)) (hs : OpStep s e s') :
    BucketMeets (Affords config now) (s'.perPeer.lookup a) := by
  intro peer' hl
  obtain ⟨b, hfound, hleft⟩ := OpStep.afterCall hs peer' hl
  rw [hconf] at hleft
  -- a peer that was forgotten starts with a full bucket
  have hb : Affords config now b ∧ b.lastRefill ≤ e.time := by
    rcases hfound with ⟨peer, hpeer, rfl⟩ | rfl
    · exact ⟨h peer hpeer, hrefilled a peer hpeer⟩
    · rw [hconf]
      exact ⟨affords_new hburst e.time now, le_rfl⟩
  generalize peer'.connectionBucket = b' at hleft ⊢
  cases hleft with
  | kept => exact hb.1
  | refilled =>
      rw [Affords, TokenBucket.level_level b _ _ hb.2 hle]
      exact hb.1
  | spent hadmits htoken => exact affords_of_refill hburst (hpace hadmits) (sub_nonneg.mpr htoken)

/-- Along a run, the bucket of `a` will hold a token at `now` if every admission of `a` is one
refill before `now`. -/
theorem OpRun.affords {h : List (Event p)} (hr : OpRun config h s) (ho : Ordered Event.time h)
    (hn : NotBefore h now) (hburst : 0 < config.newConnectionsBurstPerIp)
    (hpace : ∀ e ∈ h, admits a e = true → RefillsToken config e.time now) :
    BucketMeets (Affords config now) (s.perPeer.lookup a) := by
  induction hr with
  | nil h0 =>
      obtain ⟨created, rfl⟩ := h0
      intro peer hl
      cases hl
  | @cons h s s' e hr hs ih =>
      have hbefore := ih ho.tail hn.tail fun e' he' => hpace e' (List.mem_cons_of_mem _ he')
      exact affords_step hburst (OpRun.config hr)
        (OpRun.refilledBy hr ho.tail (Ordered.notBefore ho))
        (hn e List.mem_cons_self) (hpace e List.mem_cons_self) hbefore hs

/-! ## Admission -/

/-- No ban of `a` is running: the last one has run out. -/
theorem OpRun.not_banned {h : List (Event p)} (hr : OpRun config h s) (ho : Ordered Event.time h)
    (hn : NotBefore h now)
    (hbans : ∀ t, .recordAuthFailure a t true ∈ h →
      t.ns + config.authFailureBanDuration ≤ now.ns) :
    (s.cleanedOwn now a).any (fun peer => peer.isBanned now) = false := by
  rw [Bool.eq_false_iff, Ne, isBanned_cleanedOwn, (hr.banInv ho a).banned_iff ho hn]
  rintro ⟨t, ht, hlt⟩
  obtain ⟨f, hf, rfl⟩ := List.mem_map.mp ht
  obtain ⟨hmem, hbanned⟩ := List.mem_filter.mp hf
  have hevent := mem_failuresOf hmem
  rw [hbanned] at hevent
  exact absurd (hbans f.1 hevent) (not_le.mpr hlt)

/-- **A peer that keeps its pace is admitted.** After any calls at nondecreasing times, a
connection of `a` at `now` gets `Ok` when the bans of `a` have run out, the counters are below
their limits, and every connection of `a` that was admitted came at least one refill of a token
before `now`. With exact buckets it is immaterial how often `a` was refused in the meantime. -/
theorem admitted_at_its_pace {h : List (Event p)} (hr : OpRun config h s)
    (ho : Ordered Event.time h) (hn : NotBefore h now) (hfits : WindowFits config now)
    (hburst : 0 < config.newConnectionsBurstPerIp)
    (hbans : ∀ t, .recordAuthFailure a t true ∈ h →
      t.ns + config.authFailureBanDuration ≤ now.ns)
    (hpace : ∀ subnet t, .tryAcquire a subnet t (.ok ()) ∈ h → RefillsToken config t now)
    (hglobal : s.unauthenticatedConnections < config.maxUnauthConnectionsGlobal)
    (hip : s.peerCount a < config.maxUnauthConnectionsPerIp)
    (hsubnet : s.subnetCount (subnetKey a) < config.maxUnauthConnectionsPerSubnet) :
    ∃ s', s.tryAcquire a (subnetKey a) now = some (.ok (), s') := by
  have hconf := OpRun.config hr
  obtain ⟨⟨r, s'⟩, hacq⟩ := Option.isSome_iff_exists.mp
    (AdmissionState.tryAcquire_isSome (hconf ▸ hfits) a (subnetKey a))
  obtain ⟨c, hcl, hd⟩ := AdmissionState.tryAcquire_spec hacq
  have hlookup : c.perPeer.lookup a = s.cleanedOwn now a := by
    rw [hcl.lookup, AdmissionState.cleanedPeer_own]
  have hcount : c.peerCount a = s.peerCount a := by
    rw [AdmissionState.peerCount, hcl.lookup]
    exact s.cleanedPeer_count a now a
  have hadmits : ∀ e ∈ h, admits a e = true → RefillsToken config e.time now := by
    rintro (⟨ip, subnet, t, _ | ⟨⟨⟩⟩⟩ | _ | _) he hadmit
    · cases hadmit
    · cases of_decide_eq_true hadmit
      exact hpace subnet t he
    · cases hadmit
    · cases hadmit
  have hadmissible : c.Admissible a (subnetKey a) now :=
    { not_banned := by
        intro peer hl
        have hban := OpRun.not_banned hr ho hn hbans
        rw [← hlookup, hl] at hban
        exact hban
      global_lt := by rw [hcl.unauthenticatedConnections, hcl.config, hconf]; exact hglobal
      ip_lt := by
        intro peer hl
        rw [AdmissionState.peerCount, hl] at hcount
        rw [hcl.config, hconf]
        exact lt_of_eq_of_lt hcount hip
      subnet_lt := by rw [hcl.perSubnet, hcl.config, hconf]; exact hsubnet
      token := by
        have hafford := (SamePeers.bucketMeets hcl (OpRun.affords hr ho hn hburst hadmits)
          (by rw [hconf]; exact affords_new hburst now now)).2 rfl
        rw [AdmissionState.bucketLevel, hcl.config, hconf]
        exact hafford }
  rw [AdmissionState.decideAcquire_of_admissible hadmissible] at hd
  cases hd
  exact ⟨_, hacq⟩

end

/-- Three failures, which ban the peer at 102 s for a minute, and an attempt during the ban. -/
def bannedAttempt : List (Event .linux) :=
  .tryAcquire testPeer (subnetKey testPeer) (linuxAt 150) (.error .temporarilyBanned)
    :: .recordAuthFailure testPeer (linuxAt 102) true :: twoFailures

def afterBannedAttempt : AdmissionState .linux :=
  let banned := afterFailure afterTwoFailures testPeer (linuxAt 102)
  ((banned.tryAcquire testPeer (subnetKey testPeer) (linuxAt 150)).map Prod.snd).getD banned

theorem opRun_bannedAttempt : OpRun testConfig bannedAttempt afterBannedAttempt := by
  have h3 : OpRun testConfig (.recordAuthFailure testPeer (linuxAt 102) true :: twoFailures)
      (afterFailure afterTwoFailures testPeer (linuxAt 102)) :=
    .cons opRun_twoFailures (show _ = _ from rfl)
  exact .cons h3 (show _ = _ from rfl)

/-- The peer is let in again when its ban is over. -/
theorem admitted_after_the_ban :
    ∃ s', afterBannedAttempt.tryAcquire testPeer (subnetKey testPeer) (linuxAt 162)
      = some (.ok (), s') := by
  have hfits : WindowFits testConfig (linuxAt 162) :=
    show Platform.instantMin .linux ≤ (linuxAt 162).ns - testConfig.authFailureBanWindow by decide
  refine admitted_at_its_pace opRun_bannedAttempt ?_ ?_ hfits (by decide) ?_ ?_ (by decide)
    (by decide) (by decide)
  · simp only [Ordered, bannedAttempt, twoFailures, List.pairwise_cons, List.forall_mem_cons]
    decide
  · simp only [NotBefore, bannedAttempt, twoFailures, List.forall_mem_cons]
    exact ⟨by decide, by decide, by decide, by decide, by simp⟩
  · intro t ht
    have ht' : t = linuxAt 102 := by simpa [bannedAttempt, twoFailures] using ht
    subst ht'
    decide
  · intro subnet t ht
    simp [bannedAttempt, twoFailures] at ht

end Narrowd.Admission
