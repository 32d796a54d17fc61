import Narrowd.Lib.Window
import Narrowd.Admission.Runs

set_option autoImplicit false

/-! # Temporary bans are a sliding window over the failures

The reference looks at the failures of one address only. `failuresOf h a` are the
`record_auth_failure` calls for `a` with their answers, newest first; the ones since the last
ban are `failuresSinceBan`, and `bansOf` are the times of the calls that banned. A new failure at
`now` bans when it and the failures since the last ban that lie in the window reach the
threshold; a connection at `now` is refused when some ban has not run out.

The implementation keeps the failures in a queue that four operations prune from the front, and
both queue and ban in an entry that they may remove. `BanInv` says what survives: the queue is the
failures since the last ban from some cutoff on, and every cutoff is out of the window by the
time of the next call; the ban is the last one, or none once that one has run out.
-/

namespace Narrowd.Admission

open Narrowd.Lib

variable {p : Platform}

/-! ## The reference -/

/-- The failure calls of one address with their answers, newest first. -/
def failuresOf (h : List (Event p)) (a : IpAddr) : List (Instant p × Bool) :=
  h.filterMap fun e =>
    match e with
    | .recordAuthFailure ip now banned => if ip = a then some (now, banned) else none
    | _ => none

/-- The failures after the last one that banned, newest first. -/
def failuresSinceBan (fs : List (Instant p × Bool)) : List (Instant p) :=
  (fs.takeWhile fun f => !f.2).map Prod.fst

/-- The times of the failures that banned, newest first. -/
def bansOf (fs : List (Instant p × Bool)) : List (Instant p) :=
  (fs.filter fun f => f.2).map Prod.fst

/-- The reference answer of `record_auth_failure` at `now`. -/
def ReferenceBans (config : AdmissionConfig) (fs : List (Instant p × Bool)) (now : Instant p) :
    Prop :=
  config.authFailureBanThreshold
    ≤ 1 + (failuresSinceBan fs).countP fun t => decide (now.ns - config.authFailureBanWindow ≤ t.ns)

/-- The reference says that a connection at `now` is refused. -/
def ReferenceBanned (config : AdmissionConfig) (fs : List (Instant p × Bool)) (now : Instant p) :
    Prop :=
  ∃ t ∈ bansOf fs, now.ns < t.ns + config.authFailureBanDuration

theorem failuresOf_cons_failure (h : List (Event p)) (a : IpAddr) (now : Instant p)
    (banned : Bool) :
    failuresOf (.recordAuthFailure a now banned :: h) a = (now, banned) :: failuresOf h a := by
  simp [failuresOf]

variable {a : IpAddr} {h : List (Event p)} {e : Event p}

/-- A call that is not a failure of `a` adds nothing to its failures. -/
theorem failuresOf_cons_other (he : ∀ now banned, e ≠ .recordAuthFailure a now banned) :
    failuresOf (e :: h) a = failuresOf h a := by
  cases e with
  | tryAcquire ip subnet now r => simp [failuresOf]
  | release ip subnet now => simp [failuresOf]
  | recordAuthFailure ip now banned =>
      have hne : ip ≠ a := by
        rintro rfl
        exact he now banned rfl
      simp [failuresOf, hne]

theorem mem_failuresOf {f : Instant p × Bool} (hf : f ∈ failuresOf h a) :
    .recordAuthFailure a f.1 f.2 ∈ h := by
  simp only [failuresOf, List.mem_filterMap] at hf
  obtain ⟨e, he, hfe⟩ := hf
  cases e with
  | tryAcquire ip subnet now r => cases hfe
  | release ip subnet now => cases hfe
  | recordAuthFailure ip now banned =>
      simp only at hfe
      split at hfe
      · next hip =>
          cases hfe
          exact hip ▸ he
      · cases hfe

/-- The failures of an ordered history are ordered. -/
theorem failuresOf_sorted (ho : Ordered Event.time h) (a : IpAddr) :
    (failuresOf h a).Pairwise fun f g => g.1 ≤ f.1 := by
  induction h with
  | nil => exact List.Pairwise.nil
  | cons e h ih =>
      by_cases he : ∃ now banned, e = .recordAuthFailure a now banned
      · obtain ⟨now, banned, rfl⟩ := he
        rw [failuresOf_cons_failure]
        refine List.pairwise_cons.mpr ⟨?_, ih ho.tail⟩
        intro f hf
        exact ho.le_head (mem_failuresOf hf)
      · rw [failuresOf_cons_other fun now banned heq => he ⟨now, banned, heq⟩]
        exact ih ho.tail

/-- The failures since the last ban, oldest first, are sorted. -/
theorem failuresSinceBan_reverse_sorted {fs : List (Instant p × Bool)}
    (hs : fs.Pairwise fun f g => g.1 ≤ f.1) :
    (failuresSinceBan fs).reverse.Pairwise fun t u => t.ns ≤ u.ns := by
  rw [List.pairwise_reverse, failuresSinceBan, List.pairwise_map]
  exact (hs.sublist (List.takeWhile_sublist _)).imp fun hle => hle

/-! ## The queue and the ban of an entry -/

/-- The failures an entry remembers; an absent entry remembers none. -/
def queueOf (o : Option (PeerState p)) : List (Instant p) := (o.map PeerState.authFailures).getD []

/-- The ban an entry remembers. -/
def banOf (o : Option (PeerState p)) : Option (Instant p) := o.bind PeerState.bannedUntil

/-- What is left of a ban at `now`. -/
def unexpired (now : Instant p) (ban : Option (Instant p)) : Option (Instant p) :=
  if ban.any fun until_ => decide (until_ ≤ now) then none else ban

/-- What is left of a queue at `now`. -/
def inWindow (now : Instant p) (window : Duration) (queue : List (Instant p)) :
    List (Instant p) :=
  queue.dropWhile fun t => decide (t.ns < now.ns - window)

/-- A removed entry had nothing left to remember. -/
theorem queueOf_cleaned (peer : PeerState p) (now : Instant p) (window : Duration) :
    queueOf (peer.cleaned now window) = inWindow now window peer.authFailures := by
  cases hc : peer.cleaned now window with
  | none => exact (PeerState.canBeRemoved_iff.mp (PeerState.cleaned_eq_none.mp hc)).2.2.symm
  | some peer' =>
      rw [(PeerState.cleaned_eq_some hc).1]
      rfl

theorem banOf_cleaned (peer : PeerState p) (now : Instant p) (window : Duration) :
    banOf (peer.cleaned now window) = unexpired now peer.bannedUntil := by
  cases hc : peer.cleaned now window with
  | none => exact (PeerState.canBeRemoved_iff.mp (PeerState.cleaned_eq_none.mp hc)).2.1.symm
  | some peer' =>
      rw [(PeerState.cleaned_eq_some hc).1]
      rfl

theorem queueOf_cleanedOwn (s : AdmissionState p) (now : Instant p) (a : IpAddr) :
    queueOf (s.cleanedOwn now a)
      = inWindow now s.config.authFailureBanWindow (queueOf (s.perPeer.lookup a)) := by
  rw [AdmissionState.cleanedOwn]
  cases s.perPeer.lookup a with
  | none => rfl
  | some peer => exact queueOf_cleaned peer now _

theorem banOf_cleanedOwn (s : AdmissionState p) (now : Instant p) (a : IpAddr) :
    banOf (s.cleanedOwn now a) = unexpired now (banOf (s.perPeer.lookup a)) := by
  rw [AdmissionState.cleanedOwn]
  cases s.perPeer.lookup a with
  | none => rfl
  | some peer => exact banOf_cleaned peer now _

theorem queueOf_peerOrNew (s : AdmissionState p) (a : IpAddr) (now : Instant p) :
    (s.peerOrNew a now).authFailures = queueOf (s.perPeer.lookup a) := by
  rw [AdmissionState.peerOrNew]
  cases s.perPeer.lookup a <;> rfl

theorem banOf_peerOrNew (s : AdmissionState p) (a : IpAddr) (now : Instant p) :
    (s.peerOrNew a now).bannedUntil = banOf (s.perPeer.lookup a) := by
  rw [AdmissionState.peerOrNew]
  cases s.perPeer.lookup a <;> rfl

/-! ## What a step does to the queue and the ban -/

/-- `s'` remembers for `a` what `s` does, or what is left of it at `now`. -/
def KeepsTransient (s s' : AdmissionState p) (now : Instant p) (a : IpAddr) : Prop :=
  ∃ x, s.FoundPeer now a x ∧ queueOf (s'.perPeer.lookup a) = queueOf x ∧
    banOf (s'.perPeer.lookup a) = banOf x

/-- Putting an entry with the same queue and ban under an address is invisible here. -/
theorem transient_insert (c : AdmissionState p) (own a : IpAddr) (now : Instant p)
    (peer : PeerState p) (hq : peer.authFailures = (c.peerOrNew own now).authFailures)
    (hb : peer.bannedUntil = (c.peerOrNew own now).bannedUntil) :
    queueOf ((c.perPeer.insert own peer).lookup a) = queueOf (c.perPeer.lookup a) ∧
    banOf ((c.perPeer.insert own peer).lookup a) = banOf (c.perPeer.lookup a) := by
  rw [Table.lookup_insert_ite]
  split
  · next h =>
      subst h
      rw [queueOf_peerOrNew] at hq
      rw [banOf_peerOrNew] at hb
      exact ⟨hq, hb⟩
  · exact ⟨rfl, rfl⟩

variable {s s' : AdmissionState p} {now : Instant p} {ip : IpAddr}

theorem keepsTransient_tryAcquire {subnet : SubnetKey} {r : Except RejectReason Unit}
    (h : s.tryAcquire ip subnet now = some (r, s')) (a : IpAddr) : KeepsTransient s s' now a := by
  obtain ⟨c, hcl, hd⟩ := AdmissionState.tryAcquire_spec h
  have hfound := s.foundPeer_cleaned ip now a
  rw [← hcl.lookup] at hfound
  obtain ⟨_, _, rfl⟩ | ⟨_, rfl⟩ | ⟨_, _, rfl⟩ := AdmissionState.decideAcquire_cases hd
  · exact ⟨_, hfound, rfl, rfl⟩
  · exact ⟨_, hfound, transient_insert c ip a now _ rfl rfl⟩
  · exact ⟨_, hfound, transient_insert c ip a now _ rfl rfl⟩

variable {banned : Bool}

theorem keepsTransient_failure_other (h : s.recordAuthFailure ip now = some (banned, s'))
    (hne : a ≠ ip) : KeepsTransient s s' now a := by
  obtain ⟨c, hcl, hc⟩ := AdmissionState.recordAuthFailure_spec h
  have hfound := s.foundPeer_cleaned ip now a
  rw [← hcl.lookup] at hfound
  refine ⟨_, hfound, ?_⟩
  obtain ⟨_, _, until_, _, rfl⟩ | ⟨_, _, rfl⟩ := AdmissionState.countFailure_cases hc
  · rw [AdmissionState.banPeer, Table.lookup_insert_ite, if_neg hne]
    exact ⟨rfl, rfl⟩
  · rw [AdmissionState.pushFailure, Table.lookup_insert_ite, if_neg hne]
    exact ⟨rfl, rfl⟩

theorem keepsTransient_release {subnet : SubnetKey} (h : s.release ip subnet now = some s')
    (a : IpAddr) : KeepsTransient s s' now a := by
  obtain ⟨-, -, -, hpeer⟩ := AdmissionState.release_spec h
  by_cases ha : a = ip
  · -- released and then cleaned: the same as cleaned, as far as queue and ban go
    refine ⟨s.cleanedOwn now a, Or.inr rfl, ?_⟩
    rw [hpeer, AdmissionState.peerAfterRelease, if_pos ha, queueOf_cleanedOwn, banOf_cleanedOwn]
    have hswept : queueOf (s.sweptPeer now a) = queueOf (s.perPeer.lookup a) ∨
        queueOf (s.sweptPeer now a)
          = inWindow now s.config.authFailureBanWindow (queueOf (s.perPeer.lookup a)) := by
      rcases s.foundPeer_swept now a with hx | hx
      · exact Or.inl (by rw [hx])
      · exact Or.inr (by rw [hx, queueOf_cleanedOwn])
    have hsweptBan : banOf (s.sweptPeer now a) = banOf (s.perPeer.lookup a) ∨
        banOf (s.sweptPeer now a) = unexpired now (banOf (s.perPeer.lookup a)) := by
      rcases s.foundPeer_swept now a with hx | hx
      · exact Or.inl (by rw [hx])
      · exact Or.inr (by rw [hx, banOf_cleanedOwn])
    have hq : queueOf (((s.sweptPeer now a).map PeerState.released).bind fun peer =>
        peer.cleaned now s.config.authFailureBanWindow)
        = inWindow now s.config.authFailureBanWindow (queueOf (s.sweptPeer now a)) := by
      cases s.sweptPeer now a with
      | none => rfl
      | some peer => exact queueOf_cleaned peer.released now _
    have hb : banOf (((s.sweptPeer now a).map PeerState.released).bind fun peer =>
        peer.cleaned now s.config.authFailureBanWindow)
        = unexpired now (banOf (s.sweptPeer now a)) := by
      cases s.sweptPeer now a with
      | none => rfl
      | some peer => exact banOf_cleaned peer.released now _
    refine ⟨?_, ?_⟩
    · rw [hq]
      rcases hswept with hs | hs
      · rw [hs]
      · rw [hs, inWindow, inWindow, List.dropWhile_idempotent]
    · rw [hb]
      rcases hsweptBan with hs | hs
      · rw [hs]
      · rw [hs]
        unfold unexpired
        by_cases hover : (banOf (s.perPeer.lookup a)).any (fun until_ => decide (until_ ≤ now))
            = true
        · simp [hover]
        · simp only [if_neg hover]
  · refine ⟨s.sweptPeer now a, s.foundPeer_swept now a, ?_⟩
    rw [hpeer, AdmissionState.peerAfterRelease, if_neg ha]
    exact ⟨rfl, rfl⟩

/-- A call other than a failure of `a` forgets nothing about `a` that is still in force. -/
theorem OpStep.keepsTransient (hs : OpStep s e s')
    (he : ∀ now banned, e ≠ .recordAuthFailure a now banned) : KeepsTransient s s' e.time a := by
  cases e with
  | tryAcquire ip subnet now r => exact keepsTransient_tryAcquire hs a
  | release ip subnet now => exact keepsTransient_release hs a
  | recordAuthFailure ip now banned =>
      refine keepsTransient_failure_other hs fun ha => ?_
      exact he now banned (by rw [ha])

/-- **A failure of `a`**: the failures still in the window and the new one reach the threshold,
and it bans, or they do not, and it is remembered. -/
theorem recordAuthFailure_transient (h : s.recordAuthFailure a now = some (banned, s')) :
    (banned = true ∧
      s.config.authFailureBanThreshold
        ≤ 1 + (inWindow now s.config.authFailureBanWindow (queueOf (s.perPeer.lookup a))).length ∧
      queueOf (s'.perPeer.lookup a) = [] ∧
      ∃ until_ : Instant p, until_.ns = now.ns + s.config.authFailureBanDuration ∧
        banOf (s'.perPeer.lookup a) = some until_) ∨
    (banned = false ∧
      1 + (inWindow now s.config.authFailureBanWindow (queueOf (s.perPeer.lookup a))).length
        < s.config.authFailureBanThreshold ∧
      queueOf (s'.perPeer.lookup a)
        = inWindow now s.config.authFailureBanWindow (queueOf (s.perPeer.lookup a)) ++ [now] ∧
      banOf (s'.perPeer.lookup a) = unexpired now (banOf (s.perPeer.lookup a))) := by
  obtain ⟨c, hcl, hc⟩ := AdmissionState.recordAuthFailure_spec h
  have hlookup : c.perPeer.lookup a = s.cleanedOwn now a := by
    rw [hcl.lookup, AdmissionState.cleanedPeer_own]
  have hcounted : c.countedFailures a now
      = inWindow now s.config.authFailureBanWindow (queueOf (s.perPeer.lookup a)) ++ [now] := by
    rw [AdmissionState.countedFailures, queueOf_peerOrNew, hlookup, queueOf_cleanedOwn,
      hcl.config, inWindow, List.dropWhile_idempotent]
  obtain ⟨rfl, hlen, until_, huntil, rfl⟩ | ⟨rfl, hlen, rfl⟩ :=
    AdmissionState.countFailure_cases hc
  · rw [hcounted, hcl.config, List.length_append, List.length_singleton] at hlen
    rw [hcl.config] at huntil
    refine Or.inl ⟨rfl, by omega, ?_, until_, huntil, ?_⟩
    · rw [AdmissionState.banPeer, Table.lookup_insert_ite, if_pos rfl]
      rfl
    · rw [AdmissionState.banPeer, Table.lookup_insert_ite, if_pos rfl]
      rfl
  · rw [hcounted, hcl.config, List.length_append, List.length_singleton] at hlen
    refine Or.inr ⟨rfl, by omega, ?_, ?_⟩
    · rw [AdmissionState.pushFailure, Table.lookup_insert_ite, if_pos rfl]
      exact hcounted
    · rw [AdmissionState.pushFailure, Table.lookup_insert_ite, if_pos rfl]
      show (c.peerOrNew a now).bannedUntil = _
      rw [banOf_peerOrNew, hlookup, banOf_cleanedOwn]

/-! ## The invariant -/

/-- The failures since the last ban that are not before `c`, oldest first. -/
def failuresFrom (fs : List (Instant p × Bool)) (c : Int) : List (Instant p) :=
  (failuresSinceBan fs).reverse.filter fun t => decide (c ≤ t.ns)

/-- What the entry of `a` remembers, against the failures of `a`. -/
structure BanInv (config : AdmissionConfig) (h : List (Event p)) (s : AdmissionState p)
    (a : IpAddr) : Prop where
  /-- Only failures that are out of every coming window are missing from the queue. -/
  queue : ∃ c : Int,
    (∀ now, NotBefore h now → c ≤ now.ns - config.authFailureBanWindow) ∧
    queueOf (s.perPeer.lookup a) = failuresFrom (failuresOf h a) c
  no_ban : bansOf (failuresOf h a) = [] → banOf (s.perPeer.lookup a) = none
  /-- The last ban is remembered until it has run out. -/
  last_ban : ∀ t bans, bansOf (failuresOf h a) = t :: bans →
    (∃ until_ : Instant p, until_.ns = t.ns + config.authFailureBanDuration ∧
      banOf (s.perPeer.lookup a) = some until_) ∨
    (banOf (s.perPeer.lookup a) = none ∧
      ∀ now, NotBefore h now → t.ns + config.authFailureBanDuration ≤ now.ns)

section

variable {config : AdmissionConfig} {h : List (Event p)} {s s' : AdmissionState p} {a : IpAddr}

/-- Pruning the queue at `now` leaves the failures in the window, whatever was pruned before. -/
theorem BanInv.inWindow_eq (hi : BanInv config h s a) (ho : Ordered Event.time h)
    (hn : NotBefore h now) :
    inWindow now config.authFailureBanWindow (queueOf (s.perPeer.lookup a))
      = failuresFrom (failuresOf h a) (now.ns - config.authFailureBanWindow) := by
  obtain ⟨c, hc, hq⟩ := hi.queue
  have hsorted := failuresSinceBan_reverse_sorted (failuresOf_sorted ho a)
  rw [hq, inWindow, failuresFrom,
    dropWhile_lt_eq_filter Instant.ns (hsorted.sublist List.filter_sublist), failuresFrom]
  exact filter_le_filter_le Instant.ns _ (hc now hn)

/-- A ban that is dropped at `now` has run out by then. -/
theorem BanInv.unexpired_cases (hi : BanInv config h s a) (now : Instant p)
    (t : Instant p) (bans : List (Instant p)) (hb : bansOf (failuresOf h a) = t :: bans) :
    (∃ until_ : Instant p, until_.ns = t.ns + config.authFailureBanDuration ∧
      unexpired now (banOf (s.perPeer.lookup a)) = some until_) ∨
    (unexpired now (banOf (s.perPeer.lookup a)) = none ∧
      ∀ later : Instant p, now ≤ later → NotBefore h later →
        t.ns + config.authFailureBanDuration ≤ later.ns) := by
  rcases hi.last_ban t bans hb with ⟨until_, huntil, hban⟩ | ⟨hban, hover⟩
  · by_cases hle : until_ ≤ now
    · refine Or.inr ⟨by simp [unexpired, hban, hle], fun later hlater _ => ?_⟩
      have h1 := Instant.le_iff.mp hle
      have h2 := Instant.le_iff.mp hlater
      omega
    · exact Or.inl ⟨until_, huntil, by simp [unexpired, hban, hle]⟩
  · exact Or.inr ⟨by simp [unexpired, hban], fun later _ hn => hover later hn⟩

theorem BanInv.unexpired_none (hi : BanInv config h s a) (now : Instant p)
    (hb : bansOf (failuresOf h a) = []) :
    unexpired now (banOf (s.perPeer.lookup a)) = none := by
  simp [unexpired, hi.no_ban hb]

theorem BanInv.new (config : AdmissionConfig) (now : Instant p) (a : IpAddr) :
    BanInv config [] (.new config now) a := by
  refine ⟨⟨p.instantMin - config.authFailureBanWindow, ?_, rfl⟩, fun _ => rfl, ?_⟩
  · intro now _
    have := now.min_le
    omega
  · intro t bans hb
    cases hb

/-- A call that is not a failure of `a` keeps the invariant of `a`. -/
theorem BanInv.step_other (hi : BanInv config h s a) (hconf : s.config = config)
    (ho : Ordered Event.time (e :: h)) (hs : OpStep s e s')
    (he : ∀ now banned, e ≠ .recordAuthFailure a now banned) : BanInv config (e :: h) s' a := by
  have hbefore : NotBefore h e.time := Ordered.notBefore ho
  obtain ⟨x, hx, hqueue, hban⟩ := hs.keepsTransient he
  rcases hx with rfl | rfl
  · -- the entry was not cleaned
    obtain ⟨c, hc, hq⟩ := hi.queue
    refine ⟨⟨c, fun now hn => hc now hn.tail, ?_⟩, ?_, ?_⟩
    · rw [failuresOf_cons_other he, hqueue, hq]
    · rw [failuresOf_cons_other he, hban]
      exact hi.no_ban
    · intro t bans hb
      rw [failuresOf_cons_other he] at hb
      rw [hban]
      rcases hi.last_ban t bans hb with hu | ⟨hnone, hover⟩
      · exact Or.inl hu
      · exact Or.inr ⟨hnone, fun now hn => hover now hn.tail⟩
  · -- the entry was cleaned at the time of the call
    rw [queueOf_cleanedOwn, hconf, hi.inWindow_eq ho.tail hbefore] at hqueue
    rw [banOf_cleanedOwn] at hban
    refine ⟨⟨e.time.ns - config.authFailureBanWindow, ?_, ?_⟩, ?_, ?_⟩
    · intro now hn
      have := Instant.le_iff.mp (hn e (by simp))
      omega
    · rw [failuresOf_cons_other he, hqueue]
    · intro hb
      rw [failuresOf_cons_other he] at hb
      rw [hban]
      exact hi.unexpired_none e.time hb
    · intro t bans hb
      rw [failuresOf_cons_other he] at hb
      rw [hban]
      rcases hi.unexpired_cases e.time t bans hb with hu | ⟨hnone, hover⟩
      · exact Or.inl hu
      · exact Or.inr ⟨hnone, fun now hn => hover now (hn e (by simp)) hn.tail⟩

/-- A failure of `a` keeps the invariant of `a`. -/
theorem BanInv.step_failure (hi : BanInv config h s a) (hconf : s.config = config)
    (ho : Ordered Event.time (.recordAuthFailure a now banned :: h))
    (hs : s.recordAuthFailure a now = some (banned, s')) :
    BanInv config (.recordAuthFailure a now banned :: h) s' a := by
  have hbefore : NotBefore h now := Ordered.notBefore ho
  have hcut : ∀ later, NotBefore (.recordAuthFailure a now banned :: h) later →
      now.ns - config.authFailureBanWindow ≤ later.ns - config.authFailureBanWindow := by
    intro later hn
    have := Instant.le_iff.mp (hn _ List.mem_cons_self)
    have htime : (Event.recordAuthFailure a now banned).time.ns = now.ns := rfl
    omega
  obtain ⟨rfl, _, hqueue, until_, huntil, hban⟩ | ⟨rfl, _, hqueue, hban⟩ :=
    recordAuthFailure_transient hs
  · refine ⟨⟨now.ns - config.authFailureBanWindow, hcut, ?_⟩, ?_, ?_⟩
    · rw [hqueue, failuresOf_cons_failure]
      rfl
    · rw [failuresOf_cons_failure]
      intro hb
      cases hb
    · intro t bans hb
      rw [failuresOf_cons_failure] at hb
      cases hb
      exact Or.inl ⟨until_, by rw [huntil, hconf], hban⟩
  · rw [hconf, hi.inWindow_eq ho.tail hbefore] at hqueue
    refine ⟨⟨now.ns - config.authFailureBanWindow, hcut, ?_⟩, ?_, ?_⟩
    · rw [hqueue, failuresOf_cons_failure]
      simp [failuresFrom, failuresSinceBan, List.filter_append]
    · rw [failuresOf_cons_failure, hban]
      exact hi.unexpired_none now
    · intro t bans hb
      rw [failuresOf_cons_failure] at hb
      rw [hban]
      rcases hi.unexpired_cases now t bans hb with hu | ⟨hnone, hover⟩
      · exact Or.inl hu
      · exact Or.inr ⟨hnone, fun later hn => hover later (hn _ List.mem_cons_self) hn.tail⟩

end

variable {config : AdmissionConfig}

theorem OpRun.banInv (hr : OpRun config h s) (ho : Ordered Event.time h) (a : IpAddr) :
    BanInv config h s a := by
  refine hr.invariant (P := fun h s => Ordered Event.time h → BanInv config h s a) ?_ ?_ ho
  · rintro s ⟨now, rfl⟩ -
    exact .new config now a
  · intro h s e s' hr ih hs ho
    have hconf := OpRun.config hr
    by_cases he : ∃ now banned, e = .recordAuthFailure a now banned
    · obtain ⟨now, banned, rfl⟩ := he
      exact (ih ho.tail).step_failure hconf ho hs
    · exact (ih ho.tail).step_other hconf ho hs fun now banned heq => he ⟨now, banned, heq⟩

/-! ## The answers follow the reference -/

theorem isBanned_cleanedOwn (s : AdmissionState p) (now : Instant p) (a : IpAddr) :
    (s.cleanedOwn now a).any (fun peer => peer.isBanned now) = true ↔
      ∃ until_, banOf (s.perPeer.lookup a) = some until_ ∧ now < until_ := by
  have hany : (s.cleanedOwn now a).any (fun peer => peer.isBanned now) = true ↔
      ∃ until_, banOf (s.cleanedOwn now a) = some until_ ∧ now < until_ := by
    cases s.cleanedOwn now a with
    | none => simp [banOf]
    | some peer =>
        cases hb : peer.bannedUntil <;> simp [banOf, PeerState.isBanned, hb]
  rw [hany, banOf_cleanedOwn, unexpired]
  constructor
  · rintro ⟨until_, hu, hlt⟩
    split at hu
    · cases hu
    · exact ⟨until_, hu, hlt⟩
  · rintro ⟨until_, hu, hlt⟩
    exact ⟨until_, by simp [hu, hlt], hlt⟩

/-- The bans of an ordered history are ordered. -/
theorem le_last_ban (ho : Ordered Event.time h) {t t' : Instant p} {bans : List (Instant p)}
    (hb : bansOf (failuresOf h a) = t :: bans) (ht' : t' ∈ bansOf (failuresOf h a)) : t' ≤ t := by
  have hsorted : (bansOf (failuresOf h a)).Pairwise fun x y => y ≤ x := by
    rw [bansOf, List.pairwise_map]
    exact (failuresOf_sorted ho a).sublist List.filter_sublist
  rw [hb] at hsorted ht'
  rcases List.mem_cons.mp ht' with rfl | ht'
  · exact le_refl _
  · exact (List.pairwise_cons.mp hsorted).1 t' ht'

theorem BanInv.banned_iff (hi : BanInv config h s a) (ho : Ordered Event.time h)
    (hn : NotBefore h now) :
    (∃ until_, banOf (s.perPeer.lookup a) = some until_ ∧ now < until_) ↔
      ReferenceBanned config (failuresOf h a) now := by
  unfold ReferenceBanned
  cases hb : bansOf (failuresOf h a) with
  | nil => simp [hi.no_ban hb]
  | cons t bans =>
      rcases hi.last_ban t bans hb with ⟨until_, huntil, hban⟩ | ⟨hban, hover⟩
      · constructor
        · rintro ⟨u, hu, hlt⟩
          rw [hban] at hu
          cases hu
          exact ⟨t, List.mem_cons_self, by have := Instant.lt_iff.mp hlt; omega⟩
        · rintro ⟨t', ht', hlt⟩
          have hle := Instant.le_iff.mp (le_last_ban ho hb (hb ▸ ht'))
          exact ⟨until_, hban, Instant.lt_iff.mpr (by omega)⟩
      · constructor
        · rintro ⟨u, hu, -⟩
          rw [hban] at hu
          cases hu
        · rintro ⟨t', ht', hlt⟩
          have hle := Instant.le_iff.mp (le_last_ban ho hb (hb ▸ ht'))
          have := hover now hn
          omega

/-- **Temporary bans follow the sliding window exactly.** After any calls at nondecreasing
times, a failure of `a` bans if and only if the failures of `a` since its last ban that are in the
window, and the new one, reach the threshold; and a connection of `a` is refused as banned if and
only if a ban of `a` has not run out. Both answers are functions of the failures of `a` alone. -/
theorem bans_follow_sliding_window {config : AdmissionConfig} {h : List (Event p)}
    {s : AdmissionState p} (hr : OpRun config h s) (ho : Ordered Event.time h) (a : IpAddr)
    {now : Instant p} (hn : NotBefore h now) :
    (∀ banned s', s.recordAuthFailure a now = some (banned, s') →
      (banned = true ↔ ReferenceBans config (failuresOf h a) now)) ∧
    (∀ subnet r s', s.tryAcquire a subnet now = some (r, s') →
      (r = .error .temporarilyBanned ↔ ReferenceBanned config (failuresOf h a) now)) := by
  have hi := hr.banInv ho a
  have hconf := hr.config
  refine ⟨?_, ?_⟩
  · intro banned s' hrec
    have hlen : (inWindow now s.config.authFailureBanWindow
        (queueOf (s.perPeer.lookup a))).length
        = (failuresSinceBan (failuresOf h a)).countP
            fun t => decide (now.ns - config.authFailureBanWindow ≤ t.ns) := by
      rw [hconf, hi.inWindow_eq ho hn, failuresFrom, ← List.countP_eq_length_filter,
        List.countP_reverse]
    rw [ReferenceBans, ← hlen]
    obtain ⟨rfl, hge, -⟩ | ⟨rfl, hlt, -⟩ := recordAuthFailure_transient hrec
    · rw [hconf] at hge ⊢
      exact ⟨fun _ => hge, fun _ => rfl⟩
    · rw [hconf] at hlt ⊢
      exact ⟨(fun hf => by cases hf), fun hge => absurd hge (not_le.mpr hlt)⟩
  · intro subnet r s' hacq
    obtain ⟨c, hcl, hd⟩ := AdmissionState.tryAcquire_spec hacq
    have hr' : r = (c.decideAcquire a subnet now).1 := by rw [hd]
    rw [hr', AdmissionState.decideAcquire_banned_iff, hcl.lookup,
      AdmissionState.cleanedPeer_own, isBanned_cleanedOwn]
    exact hi.banned_iff ho hn

/-- The state after a failure, where it does not panic. -/
def afterFailure (s : AdmissionState p) (a : IpAddr) (now : Instant p) : AdmissionState p :=
  ((s.recordAuthFailure a now).map Prod.snd).getD s

/-- The first two failures of a peer under the test configuration. -/
def twoFailures : List (Event .linux) :=
  [.recordAuthFailure testPeer (linuxAt 101) false,
    .recordAuthFailure testPeer (linuxAt 100) false]

def afterTwoFailures : AdmissionState .linux :=
  afterFailure (afterFailure (.new testConfig (linuxAt 100)) testPeer (linuxAt 100)) testPeer
    (linuxAt 101)

theorem opRun_twoFailures : OpRun testConfig twoFailures afterTwoFailures := by
  have h0 : OpRun testConfig [] (.new testConfig (linuxAt 100)) := .nil ⟨_, rfl⟩
  have h1 : OpRun testConfig [.recordAuthFailure testPeer (linuxAt 100) false]
      (afterFailure (.new testConfig (linuxAt 100)) testPeer (linuxAt 100)) :=
    .cons h0 (show _ = _ from rfl)
  exact .cons h1 (show _ = _ from rfl)

/-- The third failure within the window bans. -/
theorem bans_follow_sliding_window_third :
    afterTwoFailures.recordAuthFailure testPeer (linuxAt 102)
      = some (true, afterFailure afterTwoFailures testPeer (linuxAt 102)) ∧
    ReferenceBans testConfig (failuresOf twoFailures testPeer) (linuxAt 102) := by
  have ho : Ordered Event.time twoFailures := by
    simp only [Ordered, twoFailures, List.pairwise_cons, List.mem_singleton, forall_eq]
    exact ⟨by decide, by simp⟩
  have hn : NotBefore twoFailures (linuxAt 102) := by
    simp only [NotBefore, twoFailures, List.forall_mem_cons]
    exact ⟨by decide, by decide, by simp⟩
  have hthird : afterTwoFailures.recordAuthFailure testPeer (linuxAt 102)
      = some (true, afterFailure afterTwoFailures testPeer (linuxAt 102)) := rfl
  have hiff := (bans_follow_sliding_window opRun_twoFailures ho testPeer hn).1 _ _ hthird
  exact ⟨hthird, hiff.mp rfl⟩

end Narrowd.Admission
