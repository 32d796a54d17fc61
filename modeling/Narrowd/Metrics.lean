import Narrowd.Basic.NetText
import Narrowd.Lib.SortedMap
import Narrowd.Lib.Table
import Mathlib.Data.Char
import Mathlib.Data.List.Lex

set_option autoImplicit false

/-! # The failures of an address

`ServerMetrics` counts the failed authentications of each address, for at most
`max_auth_failure_ips` addresses; the failures of all others go into one common counter. An address
is entered at its first failure or never: when it is refused the table is full, and a full table
takes no new addresses (`FailuresOf.record`). So the counter of an address misses none of its
failures, and the common counter has exactly the failures of the addresses that have none of their
own (`auth_failures_conserved`).

The counters are `u64`s that wrap, `*counter += 1` in a build without overflow checks. The other
counters of `ServerMetrics` are kept apart from these and are not modelled here.
-/

namespace Narrowd.Metrics

open Lib

/-- `MetricsState`, as far as it counts failed authentications. -/
structure MetricsState where
  authFailuresByIp : Table IpAddr UInt64
  maxAuthFailureIps : Nat
  authFailureIpOverflow : UInt64
  temporaryBansIssued : UInt64

/-- A call of `record_auth_failure`. -/
structure AuthFailure where
  peerIp : Option IpAddr
  temporaryBanIssued : Bool
  deriving DecidableEq, Repr

/-- `MetricsSnapshot`, as far as it shows failed authentications. -/
structure MetricsSnapshot where
  authFailuresByIp : SortedMap Text UInt64
  authFailureIpOverflow : UInt64
  temporaryBansIssued : UInt64

namespace MetricsState

def new (maxAuthFailureIps : Nat) : MetricsState :=
  { authFailuresByIp := ∅, maxAuthFailureIps := maxAuthFailureIps, authFailureIpOverflow := 0,
    temporaryBansIssued := 0 }

/-- What `record_auth_failure` does while it holds the lock. -/
def recordPeer (m : MetricsState) (peerIp : IpAddr) : MetricsState :=
  match m.authFailuresByIp.lookup peerIp with
  | some counter => { m with authFailuresByIp := m.authFailuresByIp.insert peerIp (counter + 1) }
  | none =>
      if m.authFailuresByIp.len < m.maxAuthFailureIps then
        { m with authFailuresByIp := m.authFailuresByIp.insert peerIp 1 }
      else { m with authFailureIpOverflow := m.authFailureIpOverflow + 1 }

def recordAuthFailure (m : MetricsState) (peerIp : Option IpAddr) (temporaryBanIssued : Bool) :
    MetricsState :=
  let m :=
    match peerIp with
    | some peerIp => m.recordPeer peerIp
    | none => m
  if temporaryBanIssued then { m with temporaryBansIssued := m.temporaryBansIssued + 1 } else m

def snapshot (m : MetricsState) : MetricsSnapshot where
  authFailuresByIp := .collect (m.authFailuresByIp.entries.map fun e => (e.1.display, e.2))
  authFailureIpOverflow := m.authFailureIpOverflow
  temporaryBansIssued := m.temporaryBansIssued

/-- The state after some calls, newest first. -/
def recordAll (maxAuthFailureIps : Nat) : List AuthFailure → MetricsState
  | [] => new maxAuthFailureIps
  | call :: calls =>
      (recordAll maxAuthFailureIps calls).recordAuthFailure call.peerIp call.temporaryBanIssued

/-- The address has a counter of its own. -/
def tracks (m : MetricsState) (ip : IpAddr) : Bool := (m.authFailuresByIp.lookup ip).isSome

end MetricsState

open MetricsState

/-! ## What the counters are to say -/

/-- The peers of the calls that know theirs. -/
def peers (calls : List AuthFailure) : List IpAddr := calls.filterMap AuthFailure.peerIp

/-- The number of calls for an address. -/
def callsFor (ip : IpAddr) (calls : List AuthFailure) : Nat := (peers calls).count ip

/-- The number of calls for addresses without a counter of their own. -/
def untrackedCalls (m : MetricsState) (calls : List AuthFailure) : Nat :=
  (peers calls).countP fun ip => !m.tracks ip

def bannedCalls (calls : List AuthFailure) : Nat := calls.countP AuthFailure.temporaryBanIssued

/-- The counters account for every call. -/
structure Conserved (maxAuthFailureIps : Nat) (calls : List AuthFailure) (m : MetricsState) :
    Prop where
  bounded : m.authFailuresByIp.len ≤ maxAuthFailureIps
  counter : ∀ ip counter, m.authFailuresByIp.lookup ip = some counter →
    counter.toNat = callsFor ip calls % 2 ^ 64
  /-- An address that got no counter at a call of its own never gets one. -/
  notLate : ∀ later earlier, calls = later ++ earlier → ∀ ip ∈ peers earlier,
    (recordAll maxAuthFailureIps earlier).tracks ip = m.tracks ip
  overflow : m.authFailureIpOverflow.toNat = untrackedCalls m calls % 2 ^ 64
  bans : m.temporaryBansIssued.toNat = bannedCalls calls % 2 ^ 64
  total : (m.authFailuresByIp.keys.map fun ip => callsFor ip calls).sum + untrackedCalls m calls =
    (peers calls).length
  /-- Without a wrap the counters themselves add up. -/
  sum : (peers calls).length < 2 ^ 64 →
    (m.authFailuresByIp.entries.map fun e => e.2.toNat).sum + m.authFailureIpOverflow.toNat =
      (peers calls).length
  shown : ∀ ip, m.snapshot.authFailuresByIp.lookup ip.display = m.authFailuresByIp.lookup ip
  shownBounded : m.snapshot.authFailuresByIp.1.length ≤ maxAuthFailureIps

/-! ## One call -/

/-- **What a call for an address does.** -/
inductive Recorded (m : MetricsState) (ip : IpAddr) (m' : MetricsState) : Prop
  | counted (counter : UInt64) (hip : m.authFailuresByIp.lookup ip = some counter)
      (heq : m' = { m with authFailuresByIp := m.authFailuresByIp.insert ip (counter + 1) })
  | entered (hip : m.authFailuresByIp.lookup ip = none)
      (hroom : m.authFailuresByIp.len < m.maxAuthFailureIps)
      (heq : m' = { m with authFailuresByIp := m.authFailuresByIp.insert ip 1 })
  | refused (hip : m.authFailuresByIp.lookup ip = none)
      (hfull : m.maxAuthFailureIps ≤ m.authFailuresByIp.len)
      (heq : m' = { m with authFailureIpOverflow := m.authFailureIpOverflow + 1 })

theorem recorded (m : MetricsState) (ip : IpAddr) : Recorded m ip (m.recordPeer ip) := by
  unfold recordPeer
  cases hip : m.authFailuresByIp.lookup ip with
  | some counter => exact .counted counter hip rfl
  | none =>
      dsimp only
      split
      · next hroom => exact .entered hip hroom rfl
      · next hfull => exact .refused hip (Nat.not_lt.mp hfull) rfl

theorem tracks_insert (m : MetricsState) (ip ip' : IpAddr) (counter : UInt64) :
    tracks { m with authFailuresByIp := m.authFailuresByIp.insert ip counter } ip' =
      (decide (ip' = ip) || m.tracks ip') := by
  unfold tracks
  dsimp only
  rw [Table.lookup_insert_ite]
  by_cases heq : ip' = ip
  · simp [heq]
  · simp [heq]

/-! ## The invariant -/

/-- The state after failures of the addresses `ps`. -/
structure FailuresOf (maxAuthFailureIps : Nat) (ps : List IpAddr) (m : MetricsState) : Prop where
  limit : m.maxAuthFailureIps = maxAuthFailureIps
  bounded : m.authFailuresByIp.len ≤ maxAuthFailureIps
  counter : ∀ ip counter, m.authFailuresByIp.lookup ip = some counter →
    counter = UInt64.ofNat (ps.count ip)
  full : ∀ ip ∈ ps, m.tracks ip = false → m.authFailuresByIp.len = maxAuthFailureIps
  overflow : m.authFailureIpOverflow = UInt64.ofNat (ps.countP fun ip => !m.tracks ip)

variable {maxAuthFailureIps : Nat} {ps : List IpAddr} {m : MetricsState}

theorem FailuresOf.new (maxAuthFailureIps : Nat) :
    FailuresOf maxAuthFailureIps [] (MetricsState.new maxAuthFailureIps) where
  limit := rfl
  bounded := Nat.zero_le _
  counter _ _ h := nomatch h
  full _ h := nomatch h
  overflow := rfl

variable {ip : IpAddr}

/-- A counter that is written, and all others. -/
theorem FailuresOf.counter_insert (hm : FailuresOf maxAuthFailureIps ps m) {counter : UInt64}
    (hcounter : counter = UInt64.ofNat ((ip :: ps).count ip)) (ip' : IpAddr) (counter' : UInt64)
    (hip' : (m.authFailuresByIp.insert ip counter).lookup ip' = some counter') :
    counter' = UInt64.ofNat ((ip :: ps).count ip') := by
  rw [Table.lookup_insert_ite] at hip'
  by_cases heq : ip' = ip
  · rw [if_pos heq] at hip'
    rw [← Option.some.inj hip', hcounter, heq]
  · rw [if_neg heq] at hip'
    rw [List.count_cons_of_ne (Ne.symm heq)]
    exact hm.counter ip' counter' hip'

theorem FailuresOf.counted (hm : FailuresOf maxAuthFailureIps ps m) {counter : UInt64}
    (hip : m.authFailuresByIp.lookup ip = some counter) :
    FailuresOf maxAuthFailureIps (ip :: ps)
      { m with authFailuresByIp := m.authFailuresByIp.insert ip (counter + 1) } := by
  have hmem : ip ∈ m.authFailuresByIp := AList.lookup_isSome.mp (by rw [hip]; rfl)
  have htracked : m.tracks ip = true := by simp [tracks, hip]
  have hsame : ∀ ip', tracks { m with
      authFailuresByIp := m.authFailuresByIp.insert ip (counter + 1) } ip' = m.tracks ip' := by
    intro ip'
    rw [tracks_insert]
    by_cases heq : ip' = ip
    · simp [heq, htracked]
    · simp [heq]
  have hlen := Table.len_insert_of_mem hmem (counter + 1)
  constructor
  · exact hm.limit
  · exact hlen.trans_le hm.bounded
  · apply hm.counter_insert
    rw [hm.counter ip counter hip, List.count_cons_self, UInt64.ofNat_add]
    rfl
  · intro ip' hmem' hout
    rw [hsame] at hout
    rcases List.mem_cons.mp hmem' with rfl | hmem'
    · rw [htracked] at hout
      cases hout
    · exact hlen.trans (hm.full ip' hmem' hout)
  · simp only [hsame, List.countP_cons, htracked]
    simpa using hm.overflow

/-- An address that finds room has had no failure before: it would have been refused, and the table
would be full. -/
theorem FailuresOf.never (hm : FailuresOf maxAuthFailureIps ps m)
    (hip : m.authFailuresByIp.lookup ip = none)
    (hroom : m.authFailuresByIp.len < m.maxAuthFailureIps) : ip ∉ ps := by
  intro hmem
  have hfull := hm.full ip hmem (by simp [tracks, hip])
  rw [hm.limit, hfull] at hroom
  exact Nat.lt_irrefl _ hroom

theorem FailuresOf.entered (hm : FailuresOf maxAuthFailureIps ps m)
    (hip : m.authFailuresByIp.lookup ip = none)
    (hroom : m.authFailuresByIp.len < m.maxAuthFailureIps) :
    FailuresOf maxAuthFailureIps (ip :: ps)
      { m with authFailuresByIp := m.authFailuresByIp.insert ip 1 } := by
  have hnever := hm.never hip hroom
  have hlen := Table.len_insert_of_not_mem (AList.lookup_eq_none.mp hip) (1 : UInt64)
  rw [hm.limit] at hroom
  constructor
  · exact hm.limit
  · exact hlen.trans_le hroom
  · apply hm.counter_insert
    rw [List.count_cons_self, List.count_eq_zero.mpr hnever]
    rfl
  · intro ip' hmem' hout
    rw [tracks_insert, Bool.or_eq_false_iff] at hout
    rcases List.mem_cons.mp hmem' with rfl | hmem'
    · simp at hout
    · exact absurd (hm.full ip' hmem' hout.2) (Nat.ne_of_lt hroom)
  · have hcount : (ip :: ps).countP (fun ip' => !tracks { m with
        authFailuresByIp := m.authFailuresByIp.insert ip 1 } ip') =
        ps.countP fun ip' => !m.tracks ip' := by
      simp only [tracks_insert]
      rw [List.countP_cons_of_neg (by simp)]
      refine List.countP_congr fun ip' hmem' => ?_
      have hne : ip' ≠ ip := fun heq => hnever (heq ▸ hmem')
      simp [hne]
    rw [hcount]
    exact hm.overflow

theorem FailuresOf.refused (hm : FailuresOf maxAuthFailureIps ps m)
    (hip : m.authFailuresByIp.lookup ip = none)
    (hfull : m.maxAuthFailureIps ≤ m.authFailuresByIp.len) :
    FailuresOf maxAuthFailureIps (ip :: ps)
      { m with authFailureIpOverflow := m.authFailureIpOverflow + 1 } := by
  have hout : m.tracks ip = false := by simp [tracks, hip]
  constructor
  · exact hm.limit
  · exact hm.bounded
  · intro ip' counter' hip'
    have hne : ip ≠ ip' := by
      rintro rfl
      rw [hip] at hip'
      cases hip'
    rw [List.count_cons_of_ne hne]
    exact hm.counter ip' counter' hip'
  · intro _ _ _
    exact Nat.le_antisymm hm.bounded (hm.limit ▸ hfull)
  · have hcount : (ip :: ps).countP (fun ip' => !m.tracks ip') =
        ps.countP (fun ip' => !m.tracks ip') + 1 :=
      List.countP_cons_of_pos (by simp [hout])
    change m.authFailureIpOverflow + 1 = UInt64.ofNat ((ip :: ps).countP fun ip' => !m.tracks ip')
    rw [hcount, UInt64.ofNat_add, hm.overflow]
    rfl

/-- **A failure of an address.** -/
theorem FailuresOf.record (hm : FailuresOf maxAuthFailureIps ps m) (ip : IpAddr) :
    FailuresOf maxAuthFailureIps (ip :: ps) (m.recordPeer ip) := by
  cases recorded m ip with
  | counted counter hip heq =>
      rw [heq]
      exact hm.counted hip
  | entered hip hroom heq =>
      rw [heq]
      exact hm.entered hip hroom
  | refused hip hfull heq =>
      rw [heq]
      exact hm.refused hip hfull

/-- Whether an address has a counter is settled at its first failure. -/
theorem FailuresOf.tracks_record (hm : FailuresOf maxAuthFailureIps ps m) (hip : ip ∈ ps)
    (ip' : IpAddr) : (m.recordPeer ip').tracks ip = m.tracks ip := by
  cases recorded m ip' with
  | counted counter hip' heq =>
      rw [heq, tracks_insert]
      by_cases hsame : ip = ip'
      · subst hsame
        simp [tracks, hip']
      · simp [hsame]
  | entered hip' hroom heq =>
      have hne : ip ≠ ip' := fun hsame => hm.never hip' hroom (hsame ▸ hip)
      rw [heq, tracks_insert]
      simp [hne]
  | refused hip' hfull heq =>
      rw [heq]
      rfl

theorem FailuresOf.tracks_recordAuthFailure (hm : FailuresOf maxAuthFailureIps ps m) (hip : ip ∈ ps)
    (peerIp : Option IpAddr) (ban : Bool) :
    (m.recordAuthFailure peerIp ban).tracks ip = m.tracks ip := by
  unfold MetricsState.recordAuthFailure
  cases peerIp with
  | none => cases ban <;> rfl
  | some ip' => cases ban <;> exact hm.tracks_record hip ip'

/-! ## All calls -/

/-- What a call does to the counters of the addresses. -/
theorem FailuresOf.recordAuthFailure (hm : FailuresOf maxAuthFailureIps ps m)
    (peerIp : Option IpAddr)
    (ban : Bool) :
    FailuresOf maxAuthFailureIps (peerIp.toList ++ ps) (m.recordAuthFailure peerIp ban) := by
  -- the number of bans is no part of the invariant
  have hbans : ∀ {ps m}, FailuresOf maxAuthFailureIps ps m → ∀ n,
      FailuresOf maxAuthFailureIps ps { m with temporaryBansIssued := n } :=
    fun hm _ => ⟨hm.limit, hm.bounded, hm.counter, hm.full, hm.overflow⟩
  unfold MetricsState.recordAuthFailure
  cases peerIp with
  | none =>
      cases ban with
      | false => exact hm
      | true => exact hbans hm _
  | some ip =>
      cases ban with
      | false => exact hm.record ip
      | true => exact hbans (hm.record ip) _

theorem peers_cons (call : AuthFailure) (calls : List AuthFailure) :
    peers (call :: calls) = call.peerIp.toList ++ peers calls := by
  cases h : call.peerIp with
  | none => simp [peers, h]
  | some ip => simp [peers, h]

theorem failuresOf_recordAll (maxAuthFailureIps : Nat) (calls : List AuthFailure) :
    FailuresOf maxAuthFailureIps (peers calls) (recordAll maxAuthFailureIps calls) := by
  induction calls with
  | nil => exact .new maxAuthFailureIps
  | cons call calls ih =>
      rw [peers_cons]
      exact ih.recordAuthFailure call.peerIp call.temporaryBanIssued

theorem bans_recordPeer (m : MetricsState) (ip : IpAddr) :
    (m.recordPeer ip).temporaryBansIssued = m.temporaryBansIssued := by
  cases recorded m ip with
  | counted counter hip heq => rw [heq]
  | entered hip hroom heq => rw [heq]
  | refused hip hfull heq => rw [heq]

theorem bans_recordAuthFailure (m : MetricsState) (peerIp : Option IpAddr) (ban : Bool) :
    (m.recordAuthFailure peerIp ban).temporaryBansIssued =
      if ban then m.temporaryBansIssued + 1 else m.temporaryBansIssued := by
  unfold MetricsState.recordAuthFailure
  cases peerIp with
  | none => cases ban <;> rfl
  | some ip => cases ban <;> simp [bans_recordPeer]

theorem bans_recordAll (maxAuthFailureIps : Nat) (calls : List AuthFailure) :
    (recordAll maxAuthFailureIps calls).temporaryBansIssued = UInt64.ofNat (bannedCalls calls) := by
  induction calls with
  | nil => rfl
  | cons call calls ih =>
      have hcons : bannedCalls (call :: calls) =
          bannedCalls calls + if call.temporaryBanIssued then 1 else 0 := List.countP_cons
      rw [recordAll, bans_recordAuthFailure, ih, hcons]
      split
      · rw [UInt64.ofNat_add]
        rfl
      · rfl

theorem tracks_append {earlier : List AuthFailure} (hip : ip ∈ peers earlier)
    (later : List AuthFailure) : (recordAll maxAuthFailureIps earlier).tracks ip =
      (recordAll maxAuthFailureIps (later ++ earlier)).tracks ip := by
  induction later with
  | nil => rfl
  | cons call later ih =>
      have hmem : ip ∈ peers (later ++ earlier) := by
        rw [peers, List.filterMap_append]
        exact List.mem_append_right _ hip
      have hbefore := failuresOf_recordAll maxAuthFailureIps (later ++ earlier)
      rw [ih, List.cons_append, recordAll]
      exact (hbefore.tracks_recordAuthFailure hmem call.peerIp call.temporaryBanIssued).symm

/-! ## The sum of the counters -/

theorem countP_mem_cons {α : Type*} [DecidableEq α] {k : α} {keys : List α} (hk : k ∉ keys)
    (l : List α) :
    (l.countP fun a => decide (a ∈ k :: keys)) =
      l.count k + l.countP fun a => decide (a ∈ keys) := by
  induction l with
  | nil => rfl
  | cons a l ih =>
      -- an element is the key or one of the others, not both
      have hone : (if decide (a ∈ k :: keys) = true then 1 else 0) =
          (if (a == k) = true then 1 else 0) + if decide (a ∈ keys) = true then 1 else 0 := by
        by_cases ha : a = k
        · subst ha
          simp [hk]
        · simp [ha]
      rw [List.countP_cons, List.count_cons, List.countP_cons, ih, hone]
      omega

/-- The elements of a list that are among some keys, counted key by key. -/
theorem sum_map_count {α : Type*} [DecidableEq α] {keys : List α} (hnodup : keys.Nodup)
    (l : List α) :
    (keys.map fun k => l.count k).sum = l.countP fun a => decide (a ∈ keys) := by
  induction keys with
  | nil => simp
  | cons k keys ih =>
      obtain ⟨hfresh, hnodup⟩ := List.nodup_cons.mp hnodup
      rw [List.map_cons, List.sum_cons, ih hnodup, countP_mem_cons hfresh]

theorem tracks_iff_mem_keys (m : MetricsState) (ip : IpAddr) :
    m.tracks ip = decide (ip ∈ m.authFailuresByIp.keys) := by
  rw [tracks, Bool.eq_iff_iff, AList.lookup_isSome, decide_eq_true_iff, AList.mem_keys]

/-- Every call for an address is counted once. -/
theorem total_calls (m : MetricsState) (calls : List AuthFailure) :
    (m.authFailuresByIp.keys.map fun ip => callsFor ip calls).sum + untrackedCalls m calls =
      (peers calls).length := by
  have htracked : (m.authFailuresByIp.keys.map fun ip => callsFor ip calls).sum =
      (peers calls).countP m.tracks := by
    rw [funext (tracks_iff_mem_keys m)]
    exact sum_map_count m.authFailuresByIp.nodupKeys (peers calls)
  rw [htracked, List.length_eq_countP_add_countP m.tracks, untrackedCalls]
  simp

/-- No counter wraps before `2 ^ 64` calls for known addresses. -/
theorem FailuresOf.sum {calls : List AuthFailure}
    (hm : FailuresOf maxAuthFailureIps (peers calls) m)
    (hcalls : (peers calls).length < 2 ^ 64) :
    (m.authFailuresByIp.entries.map fun e => e.2.toNat).sum + m.authFailureIpOverflow.toNat =
      (peers calls).length := by
  have hcounters : (m.authFailuresByIp.entries.map fun e => e.2.toNat) =
      m.authFailuresByIp.keys.map fun ip => callsFor ip calls := by
    rw [AList.keys, List.keys, List.map_map]
    refine List.map_congr_left fun e he => ?_
    have hle : (peers calls).count e.1 < 2 ^ 64 := List.count_le_length.trans_lt hcalls
    rw [hm.counter e.1 e.2 (AList.mem_lookup_iff.mpr he), UInt64.toNat_ofNat_of_lt' hle]
    rfl
  have hoverflow : m.authFailureIpOverflow.toNat = untrackedCalls m calls := by
    have hle : (peers calls).countP (fun ip => !m.tracks ip) < 2 ^ 64 :=
      List.countP_le_length.trans_lt hcalls
    rw [hm.overflow, UInt64.toNat_ofNat_of_lt' hle]
    rfl
  rw [hcounters, hoverflow]
  exact total_calls m calls

/-! ## The snapshot -/

theorem nodup_display (m : MetricsState) :
    ((m.authFailuresByIp.entries.map fun e => (e.1.display, e.2)).map Prod.fst).Nodup := by
  rw [List.map_map]
  have hkeys : (m.authFailuresByIp.entries.map Sigma.fst).Nodup := m.authFailuresByIp.nodupKeys
  have hdisplay := hkeys.map IpAddr.display_injective
  rwa [List.map_map] at hdisplay

theorem lookup_snapshot (m : MetricsState) (ip : IpAddr) :
    m.snapshot.authFailuresByIp.lookup ip.display = m.authFailuresByIp.lookup ip := by
  refine Option.ext fun counter => ?_
  unfold snapshot
  rw [SortedMap.lookup_collect (nodup_display m)]
  constructor
  · intro hmem
    obtain ⟨⟨ip', counter'⟩, he, heq⟩ := List.mem_map.mp hmem
    obtain ⟨hip, rfl⟩ := Prod.mk.inj heq
    rw [← IpAddr.display_injective hip]
    exact AList.mem_lookup_iff.mpr he
  · intro hlookup
    exact List.mem_map.mpr ⟨⟨ip, counter⟩, AList.mem_lookup_iff.mp hlookup, rfl⟩

theorem length_snapshot (m : MetricsState) :
    m.snapshot.authFailuresByIp.1.length = m.authFailuresByIp.len := by
  unfold snapshot
  rw [SortedMap.length_collect (nodup_display m), List.length_map]
  rfl

/-- **Every failure is counted once.** For every limit and every sequence of calls, at most that
many addresses have a counter, and each counter is the number of its calls, modulo `2 ^ 64`. -/
theorem auth_failures_conserved (maxAuthFailureIps : Nat) (calls : List AuthFailure) :
    Conserved maxAuthFailureIps calls (recordAll maxAuthFailureIps calls) := by
  have hm := failuresOf_recordAll maxAuthFailureIps calls
  constructor
  · exact hm.bounded
  · intro ip counter hip
    rw [hm.counter ip counter hip, UInt64.toNat_ofNat']
    rfl
  · rintro later earlier rfl ip hip
    exact tracks_append hip later
  · rw [hm.overflow, UInt64.toNat_ofNat']
    rfl
  · rw [bans_recordAll, UInt64.toNat_ofNat']
  · exact total_calls _ calls
  · exact hm.sum
  · exact lookup_snapshot _
  · rw [length_snapshot]
    exact hm.bounded

/-- The limit of the unit test. -/
example : (recordAll 1 [⟨some (.v4 ⟨10, 0, 0, 2⟩), false⟩,
    ⟨some (.v4 ⟨10, 0, 0, 1⟩), false⟩]).snapshot =
    { authFailuresByIp := .collect [("10.0.0.1".toList, 1)], authFailureIpOverflow := 1,
      temporaryBansIssued := 0 } := by rfl

theorem tracks_of_room (hroom : m.authFailuresByIp.len < m.maxAuthFailureIps) :
    (m.recordPeer ip).tracks ip = true := by
  cases recorded m ip with
  | counted counter hip heq =>
      rw [heq, tracks_insert]
      simp
  | entered hip _ heq =>
      rw [heq, tracks_insert]
      simp
  | refused hip hfull heq => exact absurd hroom (Nat.not_lt.mpr hfull)

/-- An address that fails again and again, and is the first. -/
theorem lookup_replicate (n : Nat) (ip : IpAddr) (ban : Bool) :
    (recordAll 1 (List.replicate (n + 1) ⟨some ip, ban⟩)).authFailuresByIp.lookup ip =
      some (UInt64.ofNat (n + 1)) := by
  have hpeers : peers (List.replicate (n + 1) ⟨some ip, ban⟩) = List.replicate (n + 1) ip :=
    List.filterMap_replicate_of_some rfl
  have hroom : ((MetricsState.new 1).recordPeer ip).tracks ip = true :=
    tracks_of_room Nat.zero_lt_one
  have hfirst : (recordAll 1 [⟨some ip, ban⟩]).tracks ip = true := by
    cases ban <;> exact hroom
  have hlater : (recordAll 1 [⟨some ip, ban⟩]).tracks ip =
      (recordAll 1 (List.replicate n ⟨some ip, ban⟩ ++ [⟨some ip, ban⟩])).tracks ip :=
    tracks_append List.mem_cons_self (List.replicate n ⟨some ip, ban⟩)
  rw [← List.replicate_succ', hfirst] at hlater
  obtain ⟨counter, hcounter⟩ := Option.isSome_iff_exists.mp hlater.symm
  have hm := (failuresOf_recordAll 1 (List.replicate (n + 1) ⟨some ip, ban⟩)).counter ip
    counter hcounter
  rw [hpeers, List.count_replicate_self] at hm
  rw [hcounter, hm]

/-- **The counters are `u64`s.** After `2 ^ 64` failures of one address its counter is zero. -/
theorem counter_wraps :
    callsFor (.v4 ⟨10, 0, 0, 1⟩) (List.replicate (2 ^ 64) ⟨some (.v4 ⟨10, 0, 0, 1⟩), false⟩) =
      2 ^ 64 ∧
    (recordAll 1
      (List.replicate (2 ^ 64) ⟨some (.v4 ⟨10, 0, 0, 1⟩), false⟩)).authFailuresByIp.lookup
      (.v4 ⟨10, 0, 0, 1⟩) = some 0 := by
  obtain ⟨n, hn⟩ : ∃ n, n + 1 = 2 ^ 64 := ⟨2 ^ 64 - 1, by norm_num⟩
  have hpeers : peers (List.replicate (n + 1) ⟨some (.v4 ⟨10, 0, 0, 1⟩), false⟩) =
      List.replicate (n + 1) (.v4 ⟨10, 0, 0, 1⟩) := List.filterMap_replicate_of_some rfl
  rw [← hn, callsFor, hpeers, List.count_replicate_self, lookup_replicate, hn]
  exact ⟨rfl, rfl⟩

end Narrowd.Metrics
