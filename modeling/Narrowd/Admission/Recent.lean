import Narrowd.Admission.Guards
import Narrowd.Admission.Sweeps

set_option autoImplicit false

/-! # Peers that stop coming are forgotten

An entry is kept for a live guard, for a ban or for failures in the window, and a new entry is kept
until the next cleanup. The first reason is a held guard. For the others there is a call that
justifies the entry: the failure that banned, a failure in the window, the call that made it. What
survives a sweep is justified by a call from at most `max(window, duration)` before the sweep
(`Justified`), and no sweep is ever `PEER_SWEEP_INTERVAL` ago once a call has returned.
`idle_peers_forgotten` puts this together for the controller and its guards, whose runs are runs of
the operations (`System.exists_opRun`).
-/

namespace Narrowd.Admission

open Narrowd.Lib

variable {p : Platform}

/-! ## Calls of the controller and calls of the state -/

/-- What is asked of the admission state. -/
inductive Op (p : Platform)
  | tryAcquire (peerIp : IpAddr) (subnet : SubnetKey) (now : Instant p)
  | recordAuthFailure (peerIp : IpAddr) (now : Instant p)
  | release (peerIp : IpAddr) (subnet : SubnetKey) (now : Instant p)

namespace Op

def time : Op p → Instant p
  | tryAcquire _ _ now => now
  | recordAuthFailure _ now => now
  | release _ _ now => now

/-- A connection or a failure of `ip`, not the release of a guard. -/
def attempts (ip : IpAddr) : Op p → Bool
  | tryAcquire peerIp _ _ => decide (peerIp = ip)
  | recordAuthFailure peerIp _ => decide (peerIp = ip)
  | release _ _ _ => false

end Op

def Event.op : Event p → Op p
  | tryAcquire ip subnet now _ => .tryAcquire ip subnet now
  | recordAuthFailure ip now _ => .recordAuthFailure ip now
  | release ip subnet now => .release ip subnet now

@[simp] theorem Event.op_time (e : Event p) : e.op.time = e.time := by
  cases e <;> rfl

/-- The guards read the clock themselves; the drop after `mark_authenticated` finds the guard
released and asks nothing. -/
def Call.op : Call p → Op p
  | tryAcquireAt ip now => .tryAcquire ip (subnetKey ip) now
  | recordAuthFailureAt ip now => .recordAuthFailure ip now
  | markAuthenticated g now _ => .release g.peerIp g.subnet now
  | drop g now => .release g.peerIp g.subnet now

variable {sys : System p} {now : Instant p} {s' : AdmissionState p}

/-- A guard given back is a release, unless it panics. -/
theorem System.giveBack_opStep {g : AdmissionGuard} {r : Option Unit × AdmissionController p}
    (hsome : r.1 = some () → ∃ s s', sys.controller = .healthy s ∧
      s.release g.peerIp g.subnet now = some s' ∧ r.2 = .healthy s')
    (hnone : r.1 = none → r.2 = .poisoned) (hs' : (sys.giveBack g r).controller = .healthy s') :
    ∃ s e', sys.controller = .healthy s ∧ OpStep s e' s' ∧
      e'.op = .release g.peerIp g.subnet now := by
  obtain ⟨_ | ⟨⟨⟩⟩, c'⟩ := r
  · have hc : c' = .healthy s' := hs'
    rw [show c' = .poisoned from hnone rfl] at hc
    cases hc
  · obtain ⟨s, s'', hs, hrel, hc''⟩ := hsome rfl
    have hc : c' = .healthy s' := hs'
    rw [show c' = .healthy s'' from hc''] at hc
    cases hc
    exact ⟨s, .release g.peerIp g.subnet now, hs, hrel, rfl⟩

variable {config : AdmissionConfig}

/-- A call that leaves the lock healthy is one call of the state behind it. -/
theorem System.Step.opStep {sys' : System p} {e : Call p} (hi : sys.Inv config)
    (hs : sys.Step e sys') (hs' : sys'.controller = .healthy s') :
    ∃ s e', sys.controller = .healthy s ∧ OpStep s e' s' ∧ e'.op = e.op := by
  obtain ⟨hallow, rfl⟩ := hs
  cases e with
  | tryAcquireAt ip now =>
      have hlock : (sys.controller.withLock fun s => s.tryAcquire ip (subnetKey ip) now).2
          = .healthy s' := by
        simp only [System.call, AdmissionController.tryAcquireAt] at hs'
        generalize sys.controller.withLock _ = r at hs' ⊢
        obtain ⟨_ | _ | ⟨⟨⟩⟩, c'⟩ := r <;> exact hs'
      obtain ⟨s, r, hs, hacq⟩ := Lock.exists_of_healthy_after hlock
      exact ⟨s, .tryAcquire ip (subnetKey ip) now r, hs, hacq, rfl⟩
  | recordAuthFailureAt ip now =>
      obtain ⟨s, banned, hs, hrec⟩ := Lock.exists_of_healthy_after hs'
      exact ⟨s, .recordAuthFailure ip now banned, hs, hrec, rfl⟩
  | markAuthenticated g now nowDrop =>
      exact System.giveBack_opStep
        (fun h => AdmissionGuard.markAuthenticated_fresh (hi.fresh g hallow) (Prod.ext h rfl))
        (fun h => AdmissionGuard.markAuthenticated_panic (Prod.ext h rfl)) hs'
  | drop g now =>
      exact System.giveBack_opStep
        (fun h => AdmissionGuard.drop_fresh (hi.fresh g hallow) (Prod.ext h rfl))
        (fun h => AdmissionGuard.drop_panic (Prod.ext h rfl)) hs'

variable {s : AdmissionState p} {created : Instant p}

/-- **The runs of the controller are runs of the state**, as long as nothing panics. -/
theorem System.exists_opRun {h : List (Call p)}
    (hr : Run (· = System.new config created) System.Step h sys)
    (hs : sys.controller = .healthy s) :
    ∃ h', Run (· = AdmissionState.new config created) OpStep h' s ∧
      h'.map Event.op = h.map Call.op := by
  induction hr generalizing s with
  | nil h0 =>
      subst h0
      cases hs
      exact ⟨[], .nil rfl, rfl⟩
  | @cons h sys sys' e hr hstep ih =>
      have hreach : System.Reachable config h sys :=
        hr.mono (fun _ h0 => ⟨created, h0⟩) fun _ _ _ hs => hs
      obtain ⟨s₀, e', hs₀, hop, heq⟩ := hstep.opStep hreach.inv hs
      obtain ⟨h', hr', hmap⟩ := ih hs₀
      exact ⟨e' :: h', .cons hr' hop, by rw [List.map_cons, List.map_cons, heq, hmap]⟩

/-! ## What justifies an entry -/

/-- How long a failure can keep an entry. -/
def memory (config : AdmissionConfig) : Duration :=
  max config.authFailureBanWindow config.authFailureBanDuration

/-- `ip` has come at most `memory` before `since`. -/
def Justified (config : AdmissionConfig) (h : List (Event p)) (since : Instant p) (ip : IpAddr) :
    Prop :=
  ∃ e ∈ h, e.op.attempts ip = true ∧ since.ns - memory config ≤ e.time.ns

variable {peer' peer : PeerState p}

/-- An entry that is left after a cleanup and has no connection has a running ban or a failure in
the window. -/
theorem PeerState.recent_of_cleaned {window : Duration} (h : peer.cleaned now window = some peer')
    (hcount : peer'.unauthenticatedConnections = 0) :
    (∃ until_, peer'.bannedUntil = some until_ ∧ now < until_) ∨
      ∃ f ∈ peer'.authFailures, now.ns - window ≤ f.ns := by
  obtain ⟨rfl, hkept⟩ := PeerState.cleaned_eq_some h
  cases hban : (peer.refreshed now window).bannedUntil with
  | some until_ =>
      refine Or.inl ⟨until_, rfl, ?_⟩
      simp only [PeerState.refreshed] at hban
      split at hban
      · cases hban
      · next hrunning =>
          rw [hban] at hrunning
          simpa using hrunning
  | none =>
      right
      have hqueue : (peer.refreshed now window).authFailures ≠ [] := by
        intro hnil
        rw [PeerState.canBeRemoved_iff.mpr ⟨hcount, hban, hnil⟩] at hkept
        cases hkept
      refine ⟨_, List.head_mem hqueue, ?_⟩
      -- the head of the pruned queue is not before the window
      exact not_lt.mp (of_decide_eq_false (List.head_dropWhile_not
        (fun t : Instant p => decide (t.ns < now.ns - window)) hqueue))

variable {e : Event p}

section

variable {config : AdmissionConfig} {h : List (Event p)} {s s' : AdmissionState p} {ip : IpAddr}

theorem BanInv.exists_failure (hi : BanInv config h s ip) {f : Instant p}
    (hf : f ∈ queueOf (s.perPeer.lookup ip)) : ∃ banned, .recordAuthFailure ip f banned ∈ h := by
  obtain ⟨c, -, hqueue⟩ := hi.queue
  rw [hqueue, failuresFrom] at hf
  obtain ⟨g, hg, rfl⟩ := List.mem_map.mp (List.mem_reverse.mp (List.mem_filter.mp hf).1)
  exact ⟨g.2, mem_failuresOf ((List.takeWhile_sublist _).subset hg)⟩

theorem BanInv.exists_ban (hi : BanInv config h s ip) {until_ : Instant p}
    (hban : banOf (s.perPeer.lookup ip) = some until_) :
    ∃ t, .recordAuthFailure ip t true ∈ h ∧
      until_.ns = t.ns + config.authFailureBanDuration := by
  cases hbans : bansOf (failuresOf h ip) with
  | nil =>
      rw [hi.no_ban hbans] at hban
      cases hban
  | cons t bans =>
      rcases hi.last_ban t bans hbans with ⟨u, hu, hsome⟩ | ⟨hnone, -⟩
      · rw [hsome] at hban
        cases hban
        refine ⟨t, ?_, hu⟩
        have ht : t ∈ bansOf (failuresOf h ip) := by
          rw [hbans]
          exact List.mem_cons_self
        obtain ⟨f, hf, rfl⟩ := List.mem_map.mp ht
        obtain ⟨hf, hbanned⟩ := List.mem_filter.mp hf
        have hmem := mem_failuresOf hf
        rwa [hbanned] at hmem
      · rw [hnone] at hban
        cases hban

/-- An entry that a cleanup at `now` has left without a connection is justified. -/
theorem BanInv.justified (hi : BanInv config h s ip)
    (hclean : peer.cleaned now config.authFailureBanWindow = some peer')
    (hl : s.perPeer.lookup ip = some peer') (hcount : peer'.unauthenticatedConnections = 0) :
    Justified config h now ip := by
  have hwindow : config.authFailureBanWindow ≤ memory config := le_max_left _ _
  have hduration : config.authFailureBanDuration ≤ memory config := le_max_right _ _
  rcases PeerState.recent_of_cleaned hclean hcount with ⟨until_, hban, hlt⟩ | ⟨f, hf, hle⟩
  · have hbanOf : banOf (s.perPeer.lookup ip) = some until_ := by
      rw [hl]
      exact hban
    obtain ⟨t, hmem, ht⟩ := hi.exists_ban hbanOf
    have hns : now.ns < until_.ns := hlt
    refine ⟨_, hmem, decide_eq_true rfl, ?_⟩
    show now.ns - (memory config : Int) ≤ t.ns
    have hcast : (config.authFailureBanDuration : Int) ≤ (memory config : Int) := by
      exact_mod_cast hduration
    omega
  · have hqueue : f ∈ queueOf (s.perPeer.lookup ip) := by
      rw [hl]
      exact hf
    obtain ⟨banned, hmem⟩ := hi.exists_failure hqueue
    refine ⟨_, hmem, decide_eq_true rfl, ?_⟩
    show now.ns - (memory config : Int) ≤ f.ns
    have hcast : (config.authFailureBanWindow : Int) ≤ (memory config : Int) := by
      exact_mod_cast hwindow
    omega

/-- **Where an entry comes from.** It is the entry of the peer that came, or it has just been
cleaned up, or it is as it was and there was no sweep. -/
theorem OpStep.entry_cases (hs : OpStep s e s') (hl : s'.perPeer.lookup ip = some peer') :
    e.op.attempts ip = true ∨
    (∃ peer : PeerState p, peer.cleaned e.time s.config.authFailureBanWindow = some peer') ∨
    (¬ s.sweepDue e.time ∧ s.perPeer.lookup ip = some peer') := by
  have hswept : ∀ {now : Instant p} {peer : PeerState p}, s.sweptPeer now ip = some peer →
      (∃ peer₀ : PeerState p, peer₀.cleaned now s.config.authFailureBanWindow = some peer) ∨
      (¬ s.sweepDue now ∧ s.perPeer.lookup ip = some peer) := by
    intro now peer hpeer
    rw [AdmissionState.sweptPeer] at hpeer
    split at hpeer
    · obtain ⟨peer₀, -, hclean⟩ := Option.bind_eq_some_iff.mp hpeer
      exact Or.inl ⟨peer₀, hclean⟩
    · next hdue => exact Or.inr ⟨hdue, hpeer⟩
  have hother : ∀ {own : IpAddr} {now : Instant p} {c : AdmissionState p} {peer : PeerState p},
      ip ≠ own → s.SamePeers c (s.cleanedPeer own now) → c.perPeer.lookup ip = some peer →
        s.sweptPeer now ip = some peer := by
    intro own now c peer hne hc hpeer
    rwa [hc.lookup, AdmissionState.cleanedPeer, if_neg hne] at hpeer
  cases e with
  | tryAcquire own subnet now r =>
      by_cases hown : own = ip
      · exact Or.inl (decide_eq_true hown)
      refine Or.inr (hswept ?_)
      obtain ⟨c, hc, hdecide⟩ := AdmissionState.tryAcquire_spec hs
      obtain ⟨_, _, rfl⟩ | ⟨_, rfl⟩ | ⟨_, _, rfl⟩ := AdmissionState.decideAcquire_cases hdecide
      · exact hother (Ne.symm hown) hc hl
      · exact hother (Ne.symm hown) hc (by
          rwa [AdmissionState.rateLimited, AList.lookup_insert_ne (Ne.symm hown)] at hl)
      · exact hother (Ne.symm hown) hc (by
          rwa [AdmissionState.admitted, AList.lookup_insert_ne (Ne.symm hown)] at hl)
  | recordAuthFailure own now banned =>
      by_cases hown : own = ip
      · exact Or.inl (decide_eq_true hown)
      refine Or.inr (hswept ?_)
      obtain ⟨c, hc, hcount⟩ := AdmissionState.recordAuthFailure_spec hs
      obtain ⟨_, _, _, _, rfl⟩ | ⟨_, _, rfl⟩ := AdmissionState.countFailure_cases hcount
      · exact hother (Ne.symm hown) hc (by
          rwa [AdmissionState.banPeer, AList.lookup_insert_ne (Ne.symm hown)] at hl)
      · exact hother (Ne.symm hown) hc (by
          rwa [AdmissionState.pushFailure, AList.lookup_insert_ne (Ne.symm hown)] at hl)
  | release own subnet now =>
      obtain ⟨-, -, -, hpeer⟩ := AdmissionState.release_spec hs
      rw [hpeer, AdmissionState.peerAfterRelease] at hl
      split at hl
      · obtain ⟨peer, -, hclean⟩ := Option.bind_eq_some_iff.mp hl
        exact Or.inr (Or.inl ⟨peer, hclean⟩)
      · exact Or.inr (hswept hl)

end

/-! ## Along a run -/

/-- What holds of the peers after the calls `h`. -/
structure Kept (config : AdmissionConfig) (created : Instant p) (h : List (Event p))
    (s : AdmissionState p) : Prop where
  last_sweep : s.lastPeerSweep = created ∨ ∃ e ∈ h, s.lastPeerSweep = e.time
  justified : ∀ ip peer, s.perPeer.lookup ip = some peer → peer.unauthenticatedConnections = 0 →
    Justified config h s.lastPeerSweep ip

variable {h : List (Event p)} {since : Instant p} {ip : IpAddr}

theorem Justified.cons (hj : Justified config h since ip) (e : Event p) :
    Justified config (e :: h) since ip := by
  obtain ⟨e', he', hattempt, htime⟩ := hj
  exact ⟨e', List.mem_cons_of_mem _ he', hattempt, htime⟩

/-- A justification is one for every earlier time as well. -/
theorem Justified.mono {since' : Instant p} (hj : Justified config h since ip)
    (hle : since' ≤ since) : Justified config h since' ip := by
  obtain ⟨e', he', hattempt, htime⟩ := hj
  have hns : since'.ns ≤ since.ns := hle
  exact ⟨e', he', hattempt, by omega⟩

theorem kept_of_run (hr : Run (· = AdmissionState.new config created) OpStep h s)
    (ho : Ordered Event.time h) (hc : ∀ e ∈ h, created ≤ e.time) : Kept config created h s := by
  refine hr.invariant (P := fun h s => Ordered Event.time h → (∀ e ∈ h, created ≤ e.time) →
    Kept config created h s) ?_ ?_ ho hc
  · rintro s rfl _ _
    exact ⟨Or.inl rfl, fun ip peer hl => by cases hl⟩
  · intro h s e s' hr ih hs ho hc
    have hkept := ih (Ordered.tail ho) fun e' he' => hc e' (List.mem_cons_of_mem _ he')
    have hnew : OpRun config (e :: h) s' :=
      (Run.cons hr hs).mono (fun _ h0 => ⟨created, h0⟩) fun _ _ _ hs => hs
    have hconf : s.config = config := hs.config.symm.trans hnew.config
    have hlast := hs.lastPeerSweep
    have hle : s'.lastPeerSweep ≤ e.time := by
      rw [hlast]
      split
      · exact le_rfl
      · rcases hkept.last_sweep with hcreated | ⟨e', he', heq⟩
        · rw [hcreated]
          exact hc e List.mem_cons_self
        · rw [heq]
          exact Ordered.le_head ho he'
    refine ⟨?_, fun ip peer hl hcount => ?_⟩
    · rw [hlast]
      split
      · exact Or.inr ⟨e, List.mem_cons_self, rfl⟩
      · exact hkept.last_sweep.imp_right fun ⟨e', he', heq⟩ =>
          ⟨e', List.mem_cons_of_mem _ he', heq⟩
    · rcases OpStep.entry_cases hs hl with hattempt | ⟨peer₀, hclean⟩ | ⟨hdue, hbefore⟩
      · refine Justified.mono ⟨e, List.mem_cons_self, hattempt, ?_⟩ hle
        have : (0 : Int) ≤ memory config := Int.natCast_nonneg _
        omega
      · rw [hconf] at hclean
        exact ((hnew.banInv ho ip).justified hclean hl hcount).mono hle
      · rw [hlast, if_neg hdue]
        exact (hkept.justified ip peer hbefore hcount).cons e

/-- After a call the last sweep is less than `PEER_SWEEP_INTERVAL` ago. -/
theorem OpStep.sweep_recent (hs : OpStep s e s') :
    e.time.ns - peerSweepInterval < s'.lastPeerSweep.ns := by
  have hpos : (0 : Int) < peerSweepInterval := by decide
  rw [hs.lastPeerSweep]
  split
  · omega
  · next hdue =>
      have hlt : (e.time.ns - s.lastPeerSweep.ns).toNat < peerSweepInterval := not_le.mp hdue
      have hcast : ((e.time.ns - s.lastPeerSweep.ns).toNat : Int) < peerSweepInterval := by
        exact_mod_cast hlt
      omega

/-- **Peer state is bounded by recent activity.** After every call, made at `now`, an entry whose
address has no live guard belongs to an address that has connected or failed to authenticate later
than `now` minus the sweep interval and the longer of ban window and ban duration. -/
theorem idle_peers_forgotten {config : AdmissionConfig} {created : Instant p} {e : Call p}
    {h : List (Call p)} {sys : System p} {s : AdmissionState p}
    (hr : Run (· = System.new config created) System.Step (e :: h) sys)
    (ho : Ordered (fun e => e.op.time) (e :: h)) (hc : ∀ e' ∈ e :: h, created ≤ e'.op.time)
    (hs : sys.controller = .healthy s) {ip : IpAddr} {peer : PeerState p}
    (hpeer : s.perPeer.lookup ip = some peer) (hidle : liveOfIp sys.guards ip = 0) :
    ∃ e' ∈ e :: h, e'.op.attempts ip = true ∧
      e.op.time.ns - peerSweepInterval
        - max config.authFailureBanWindow config.authFailureBanDuration < e'.op.time.ns := by
  have hreach : System.Reachable config (e :: h) sys :=
    hr.mono (fun _ h0 => ⟨created, h0⟩) fun _ _ _ hs => hs
  have hcount : peer.unauthenticatedConnections = 0 := by
    have hcounter := (hreach.inv.counters s hs).peer ip
    rw [AdmissionState.peerCount, hpeer, hidle] at hcounter
    exact hcounter
  obtain ⟨h', hr', hmap⟩ := System.exists_opRun hr hs
  cases hr' with
  | nil _ => cases hmap
  | @cons h' s₀ _ e' hr' hs' =>
      obtain ⟨hop, hops⟩ := List.cons.inj hmap
      have hordered : Ordered Event.time (e' :: h') := by
        have hpair : ((e' :: h').map Event.op).Pairwise fun o o' => o'.time ≤ o.time := by
          rw [hmap]
          exact List.pairwise_map.mpr ho
        have hordered := List.pairwise_map.mp hpair
        simp only [Event.op_time] at hordered
        exact hordered
      have hback : ∀ a ∈ e' :: h', ∃ b ∈ e :: h, b.op = a.op := fun a ha => by
        have hmem := List.mem_map_of_mem (f := Event.op) ha
        rw [hmap] at hmem
        exact List.mem_map.mp hmem
      have hcreated : ∀ a ∈ e' :: h', created ≤ a.time := fun a ha => by
        obtain ⟨b, hb, heq⟩ := hback a ha
        rw [← a.op_time, ← heq]
        exact hc b hb
      obtain ⟨a, ha, hattempt, hjust⟩ :=
        (kept_of_run (.cons hr' hs') hordered hcreated).justified ip peer hpeer hcount
      obtain ⟨b, hb, heq⟩ := hback a ha
      refine ⟨b, hb, by rw [heq]; exact hattempt, ?_⟩
      have hrecent := OpStep.sweep_recent hs'
      have hmemory : (memory config : Int)
          = max (config.authFailureBanWindow : Int) config.authFailureBanDuration :=
        Nat.cast_max _ _
      rw [heq, a.op_time, ← hop, e'.op_time]
      omega

/-- A failure keeps the entry of a peer that has no connection, over the sweep that comes with
it. -/
theorem idle_peer_kept_by_failure :
    ∃ s, (System.after testConfig mixedCalls).controller = .healthy s ∧
      (s.perPeer.lookup idlePeer).isSome = true ∧
      ∃ e ∈ mixedCalls, e.op.attempts idlePeer = true ∧
        (linuxAt 70).ns - peerSweepInterval
          - max testConfig.authFailureBanWindow testConfig.authFailureBanDuration
            < e.op.time.ns := by
  have hentry : ((System.after testConfig mixedCalls).controller.state?.bind
      fun s => s.perPeer.lookup idlePeer).isSome = true := by decide +kernel
  have hidle : liveOfIp (System.after testConfig mixedCalls).guards idlePeer = 0 := by
    decide +kernel
  obtain ⟨peer, hpeer⟩ := Option.isSome_iff_exists.mp hentry
  obtain ⟨s, hs, hlookup⟩ := Option.bind_eq_some_iff.mp hpeer
  have hhealthy := Lock.state?_eq_some_iff.mp hs
  refine ⟨s, hhealthy, Option.isSome_iff_exists.mpr ⟨peer, hlookup⟩, ?_⟩
  exact idle_peers_forgotten run_mixedCalls (by unfold Ordered; decide) (by decide) hhealthy hlookup
    hidle

end Narrowd.Admission
