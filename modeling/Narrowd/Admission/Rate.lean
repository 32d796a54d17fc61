import Narrowd.Lib.Budget
import Narrowd.Admission.Runs

set_option autoImplicit false

/-! # The connection rate of an address

Each address has a token bucket: `NewConnectionsBurstPerIp` tokens at most, refilled at
`NewConnectionsPerMinutePerIp`, one of them taken by each admitted connection. Were the bucket
kept, no stretch of time could see more than the burst and what drips in during it.

It is not kept. The bucket lives in the entry of the address, and a cleanup removes the entry as
soon as it has no connection, no ban and no failure, whatever is left in the bucket. The next
connection finds a new entry with a full bucket: a peer that disconnects before it reconnects is
not limited at all (`rate_exceeded_after_release`).

`RemovesPartialBucket` says that a call removes the entry of an address while its bucket is not
full again. In runs without such a call the bound holds (`rate_bounded_while_buckets_kept`): a
removed entry then stands for a full bucket, and its budget survives the removal.
-/

namespace Narrowd.Admission

open Narrowd.Lib

variable {p : Platform}

/-! ## The level of a bucket over time -/

variable {b : TokenBucket p}

namespace TokenBucket

/-- The level of the bucket at `t` nanoseconds. -/
def levelAt (b : TokenBucket p) (limit burst : Nat) (t : Int) : ℚ :=
  min (b.tokens + asSecs (t - b.lastRefill.ns).toNat * ((limit : ℚ) / 60)) burst

/-- Tokens per nanosecond. -/
def ratePerNano (limit : Nat) : ℚ := (limit : ℚ) / 60 / 1000000000

theorem ratePerNano_nonneg (limit : Nat) : 0 ≤ ratePerNano limit := by
  unfold ratePerNano
  positivity

theorem asSecs_mul_rate (d : Nat) (limit : Nat) :
    asSecs d * ((limit : ℚ) / 60) = ratePerNano limit * d := by
  unfold asSecs ratePerNano
  ring

theorem levelAt_nonneg (hb : 0 ≤ b.tokens) (limit burst : Nat) (t : Int) :
    0 ≤ b.levelAt limit burst t := by
  unfold levelAt
  rw [asSecs_mul_rate]
  have := ratePerNano_nonneg limit
  exact le_min (by positivity) (by positivity)

theorem levelAt_le_burst (b : TokenBucket p) (limit burst : Nat) (t : Int) :
    b.levelAt limit burst t ≤ burst := min_le_right _ _

/-- The level grows at most at the rate. -/
theorem levelAt_grow (b : TokenBucket p) (limit burst : Nat) {t t' : Int} (ht : t ≤ t') :
    b.levelAt limit burst t'
      ≤ b.levelAt limit burst t + ratePerNano limit * ((t' - t : Int) : ℚ) := by
  have hr := ratePerNano_nonneg limit
  have hd : 0 ≤ ((t' - t : Int) : ℚ) := by exact_mod_cast Int.sub_nonneg.mpr ht
  have hnn : 0 ≤ ratePerNano limit * ((t' - t : Int) : ℚ) := mul_nonneg hr hd
  -- the elapsed time is cut off at zero, so it grows no faster than the clock
  have helapsed : (((t' - b.lastRefill.ns).toNat : Int) : ℚ)
      ≤ (((t - b.lastRefill.ns).toNat : Int) : ℚ) + ((t' - t : Int) : ℚ) := by
    have : ((t' - b.lastRefill.ns).toNat : Int)
        ≤ ((t - b.lastRefill.ns).toNat : Int) + (t' - t) := by omega
    exact_mod_cast this
  have hmul := mul_le_mul_of_nonneg_left helapsed hr
  rw [mul_add] at hmul
  unfold levelAt
  rw [asSecs_mul_rate, asSecs_mul_rate, ← min_add_add_right]
  refine min_le_min ?_ ?_
  · push_cast at hmul ⊢
    linarith
  · linarith

/-- A bucket that has just been refilled holds its tokens. -/
theorem levelAt_refilled (x : ℚ) (now : Instant p) (limit burst : Nat) (hx : x ≤ burst) :
    ({ tokens := x, lastRefill := now } : TokenBucket p).levelAt limit burst now.ns = x := by
  unfold levelAt
  simp [asSecs, hx]

end TokenBucket

/-! ## The budget of an address -/

/-- What an address may still spend at time `t`: the level of its bucket, or the whole burst when
it has no entry. -/
def budget (config : AdmissionConfig) (o : Option (PeerState p)) (t : Int) : ℚ :=
  match o with
  | none => config.newConnectionsBurstPerIp
  | some peer => peer.connectionBucket.levelAt config.newConnectionsPerMinutePerIp
      config.newConnectionsBurstPerIp t

theorem budget_le_burst (config : AdmissionConfig) (o : Option (PeerState p)) (t : Int) :
    budget config o t ≤ config.newConnectionsBurstPerIp := by
  cases o with
  | none => exact le_refl _
  | some peer => exact TokenBucket.levelAt_le_burst _ _ _ _

variable {config : AdmissionConfig}

theorem budget_nonneg {o : Option (PeerState p)}
    (ho : ∀ peer, o = some peer → 0 ≤ peer.connectionBucket.tokens) (t : Int) :
    0 ≤ budget config o t := by
  cases o with
  | none => exact Nat.cast_nonneg _
  | some peer => exact TokenBucket.levelAt_nonneg (ho peer rfl) _ _ t

theorem budget_grow (config : AdmissionConfig) (o : Option (PeerState p)) {t t' : Int}
    (ht : t ≤ t') :
    budget config o t' ≤ budget config o t
      + TokenBucket.ratePerNano config.newConnectionsPerMinutePerIp * ((t' - t : Int) : ℚ) := by
  cases o with
  | none =>
      have hr := TokenBucket.ratePerNano_nonneg config.newConnectionsPerMinutePerIp
      have hd : 0 ≤ ((t' - t : Int) : ℚ) := by exact_mod_cast Int.sub_nonneg.mpr ht
      have := mul_nonneg hr hd
      simp only [budget]
      linarith
  | some peer => exact TokenBucket.levelAt_grow _ _ _ ht

/-- The bucket `try_acquire` looks at is the budget of the peer. -/
theorem bucketLevel_eq_budget (s : AdmissionState p) (a : IpAddr) (now : Instant p) :
    s.bucketLevel a now = budget s.config (s.perPeer.lookup a) now.ns := by
  rw [AdmissionState.bucketLevel, AdmissionState.peerOrNew]
  cases s.perPeer.lookup a with
  | none =>
      exact TokenBucket.levelAt_refilled _ now _ _ (le_refl _)
  | some peer => rfl

/-! ## Removing an entry with a partial bucket -/

/-- The bucket of the entry, refilled to `now`, is not full. -/
def PartialBucket (config : AdmissionConfig) (now : Instant p) (peer : PeerState p) : Prop :=
  peer.connectionBucket.level config.newConnectionsPerMinutePerIp
    config.newConnectionsBurstPerIp now < config.newConnectionsBurstPerIp

/-- The call `e` in state `s` removes this entry of `a`. -/
def RemovesEntry (a : IpAddr) (s : AdmissionState p) (e : Event p) (peer : PeerState p) : Prop :=
  let refreshed := fun peer : PeerState p => peer.refreshed e.time s.config.authFailureBanWindow
  match e with
  | .tryAcquire ip _ now _ => (ip = a ∨ s.sweepDue now) ∧ (refreshed peer).canBeRemoved = true
  | .recordAuthFailure ip now _ => (ip = a ∨ s.sweepDue now) ∧ (refreshed peer).canBeRemoved = true
  | .release ip _ now =>
      (s.sweepDue now ∧ (refreshed peer).canBeRemoved = true) ∨
      (ip = a ∧ (refreshed peer.released).canBeRemoved = true)

/-- The call `e` in state `s` removes the entry of `a` although its bucket, refilled to the time
of the call, is not full. -/
def RemovesPartialBucket (a : IpAddr) (s : AdmissionState p) (e : Event p) : Prop :=
  ∃ peer, s.perPeer.lookup a = some peer ∧ PartialBucket s.config e.time peer ∧
    RemovesEntry a s e peer

variable {now : Instant p} {peer : PeerState p}

/-- A cleanup that removes no partial bucket leaves the budget as it is. -/
theorem budget_cleaned {window : Duration}
    (h : ¬ (PartialBucket config now peer ∧ (peer.refreshed now window).canBeRemoved = true)) :
    budget config (peer.cleaned now window) now.ns = budget config (some peer) now.ns := by
  cases hc : peer.cleaned now window with
  | none =>
      have hrem := PeerState.cleaned_eq_none.mp hc
      have hfull : ¬ PartialBucket config now peer := fun hp => h ⟨hp, hrem⟩
      have hge := not_lt.mp hfull
      exact le_antisymm hge (budget_le_burst config (some peer) now.ns)
  | some peer' =>
      rw [(PeerState.cleaned_eq_some hc).1]
      rfl

variable {e : Event p} {ip own : IpAddr}

section

variable {s s' : AdmissionState p} {a : IpAddr}

/-- The cleanup at the start of a call for `own` keeps the budget of `a`, unless it removes a
partial bucket. -/
theorem budget_cleanedPeer
    (h : ∀ peer, s.perPeer.lookup a = some peer → PartialBucket s.config now peer →
      ¬ ((own = a ∨ s.sweepDue now) ∧
        (peer.refreshed now s.config.authFailureBanWindow).canBeRemoved = true)) :
    budget s.config (s.cleanedPeer own now a) now.ns
      = budget s.config (s.perPeer.lookup a) now.ns := by
  cases hl : s.perPeer.lookup a with
  | none =>
      have hnone : s.cleanedPeer own now a = none := by
        simp [AdmissionState.cleanedPeer, AdmissionState.sweptPeer, hl]
      rw [hnone]
  | some peer =>
      by_cases hclean : own = a ∨ s.sweepDue now
      · have hcp : s.cleanedPeer own now a
            = peer.cleaned now s.config.authFailureBanWindow := by
          by_cases ha : a = own
          · rw [AdmissionState.cleanedPeer, if_pos ha, hl]
            rfl
          · have hdue := hclean.resolve_left (Ne.symm ha)
            rw [AdmissionState.cleanedPeer, if_neg ha, AdmissionState.sweptPeer, if_pos hdue, hl]
            rfl
        rw [hcp]
        exact budget_cleaned fun hp => h peer hl hp.1 ⟨hclean, hp.2⟩
      · obtain ⟨hown, hdue⟩ := not_or.mp hclean
        rw [AdmissionState.cleanedPeer, if_neg (Ne.symm hown), AdmissionState.sweptPeer,
          if_neg hdue, hl]

/-- `release` keeps the budget of `a`, unless it removes a partial bucket. -/
theorem budget_peerAfterRelease
    (h : ∀ peer, s.perPeer.lookup a = some peer → PartialBucket s.config now peer →
      ¬ ((s.sweepDue now ∧
          (peer.refreshed now s.config.authFailureBanWindow).canBeRemoved = true) ∨
        (own = a ∧
          (peer.released.refreshed now s.config.authFailureBanWindow).canBeRemoved = true))) :
    budget s.config (s.peerAfterRelease own now a) now.ns
      = budget s.config (s.perPeer.lookup a) now.ns := by
  cases hl : s.perPeer.lookup a with
  | none =>
      have hnone : s.peerAfterRelease own now a = none := by
        simp [AdmissionState.peerAfterRelease, AdmissionState.sweptPeer, hl]
      rw [hnone]
  | some peer =>
      have hp := h peer hl
      -- the sweep alone
      have hswept : budget s.config (s.sweptPeer now a) now.ns
          = budget s.config (some peer) now.ns := by
        rw [AdmissionState.sweptPeer, hl]
        split
        · next hdue => exact budget_cleaned fun hr => hp hr.1 (Or.inl ⟨hdue, hr.2⟩)
        · rfl
      rw [AdmissionState.peerAfterRelease]
      by_cases ha : a = own
      · rw [if_pos ha]
        cases hsw : s.sweptPeer now a with
        | none => rw [hsw] at hswept; exact hswept
        | some peer' =>
            -- the sweep at most refreshed the entry, which commutes with releasing it
            have hpeer' : peer' = peer ∨
                peer' = peer.refreshed now s.config.authFailureBanWindow := by
              rw [AdmissionState.sweptPeer, hl] at hsw
              split at hsw
              · exact Or.inr (PeerState.cleaned_eq_some hsw).1
              · exact Or.inl (Option.some.inj hsw).symm
            have hrel : peer'.released.refreshed now s.config.authFailureBanWindow
                = peer.released.refreshed now s.config.authFailureBanWindow := by
              rcases hpeer' with rfl | rfl
              · rfl
              · exact PeerState.refreshed_refreshed peer.released le_rfl _
            have hbucket : peer'.connectionBucket = peer.connectionBucket := by
              rcases hpeer' with rfl | rfl <;> rfl
            have hclean : budget s.config
                (peer'.released.cleaned now s.config.authFailureBanWindow) now.ns
                = budget s.config (some peer'.released) now.ns := by
              refine budget_cleaned fun hr => hp ?_ (Or.inr ⟨ha.symm, hrel ▸ hr.2⟩)
              have hpb : PartialBucket s.config now peer' := hr.1
              unfold PartialBucket at hpb ⊢
              rwa [hbucket] at hpb
            rw [hsw] at hswept
            exact hclean.trans hswept
      · rw [if_neg ha]
        exact hswept

/-! ## The budget along a run -/

/-- No bucket is in debt. -/
def NoDebt (config : AdmissionConfig) (a : IpAddr) (s : AdmissionState p) : Prop :=
  s.config = config ∧
    ∀ peer, s.perPeer.lookup a = some peer → 0 ≤ peer.connectionBucket.tokens

/-- A connection of `a` was admitted. -/
def admits (a : IpAddr) : Event p → Bool
  | .tryAcquire ip _ _ (.ok ()) => decide (ip = a)
  | _ => false

/-- The bucket of an entry, if there is one, meets `P`. -/
def BucketMeets (P : TokenBucket p → Prop) (o : Option (PeerState p)) : Prop :=
  ∀ peer, o = some peer → P peer.connectionBucket

section

variable {P : TokenBucket p → Prop}

/-- What is found of an entry has the bucket it had. -/
theorem FoundPeer.bucketMeets {x : Option (PeerState p)} (hx : s.FoundPeer now a x)
    (hp : BucketMeets P (s.perPeer.lookup a)) : BucketMeets P x := by
  intro peer hpeer
  rcases hx with rfl | rfl
  · exact hp peer hpeer
  · rw [AdmissionState.cleanedOwn] at hpeer
    obtain ⟨peer₀, hl, hc⟩ := Option.bind_eq_some_iff.mp hpeer
    rw [(PeerState.cleaned_eq_some hc).1]
    exact hp peer₀ hl

theorem bucketMeets_peerOrNew (hp : BucketMeets P (s.perPeer.lookup a))
    (hnew : P (.new s.config.newConnectionsBurstPerIp now)) :
    P (s.peerOrNew a now).connectionBucket := by
  rw [AdmissionState.peerOrNew]
  cases hl : s.perPeer.lookup a with
  | none => exact hnew
  | some peer => exact hp peer hl

theorem bucketMeets_insert (hp : BucketMeets P (s.perPeer.lookup a))
    (hpeer : ip = a → P peer.connectionBucket) :
    BucketMeets P ((s.perPeer.insert ip peer).lookup a) := by
  intro peer' hl
  rw [Table.lookup_insert_ite] at hl
  split at hl
  · next ha => cases hl; exact hpeer ha.symm
  · exact hp peer' hl

/-- The cleanup before a decision leaves buckets as they are, and the entry the decision is about
has its old bucket or a full one. -/
theorem SamePeers.bucketMeets {c : AdmissionState p} (hcl : s.SamePeers c (s.cleanedPeer ip now))
    (hp : BucketMeets P (s.perPeer.lookup a))
    (hnew : P (.new s.config.newConnectionsBurstPerIp now)) :
    BucketMeets P (c.perPeer.lookup a) ∧
      (ip = a → P (c.peerOrNew ip now).connectionBucket) := by
  have hpc : BucketMeets P (c.perPeer.lookup a) := by
    rw [hcl.lookup]
    exact FoundPeer.bucketMeets (s.foundPeer_cleaned ip now a) hp
  refine ⟨hpc, ?_⟩
  rintro rfl
  exact bucketMeets_peerOrNew hpc (by rw [hcl.config]; exact hnew)

/-- The buckets a call at `now` can find for `a`: the one of its entry, or a new one. -/
def FoundBucket (s : AdmissionState p) (now : Instant p) (a : IpAddr) (b : TokenBucket p) : Prop :=
  (∃ peer, s.perPeer.lookup a = some peer ∧ b = peer.connectionBucket) ∨
    b = .new s.config.newConnectionsBurstPerIp now

/-- The buckets a call can leave when it finds `b`. -/
inductive LeftBucket (config : AdmissionConfig) (a : IpAddr) (e : Event p) (b : TokenBucket p) :
    TokenBucket p → Prop
  | kept : LeftBucket config a e b b
  | refilled : LeftBucket config a e b
      ⟨b.level config.newConnectionsPerMinutePerIp config.newConnectionsBurstPerIp e.time, e.time⟩
  | spent (hadmits : admits a e = true)
      (htoken : 1 ≤ b.level config.newConnectionsPerMinutePerIp config.newConnectionsBurstPerIp
        e.time) :
      LeftBucket config a e b
        ⟨b.level config.newConnectionsPerMinutePerIp config.newConnectionsBurstPerIp e.time - 1,
          e.time⟩

theorem SamePeers.foundBucket {c : AdmissionState p} {ip : IpAddr} {now : Instant p}
    (hcl : s.SamePeers c (s.cleanedPeer ip now)) :
    BucketMeets (FoundBucket s now a) (c.perPeer.lookup a) ∧
      (ip = a → FoundBucket s now a (c.peerOrNew ip now).connectionBucket) :=
  SamePeers.bucketMeets hcl (fun peer hl => .inl ⟨peer, hl, rfl⟩) (.inr rfl)

/-- The buckets that can be there after a call. -/
def AfterCall (s : AdmissionState p) (a : IpAddr) (e : Event p) (b' : TokenBucket p) : Prop :=
  ∃ b, FoundBucket s e.time a b ∧ LeftBucket s.config a e b b'

theorem FoundBucket.afterCall (hb : FoundBucket s e.time a b) : AfterCall s a e b :=
  ⟨b, hb, .kept⟩

/-- **What a call leaves in the bucket of `a`**: what it finds, refilled or not, or one token less
when it admits `a`. -/
theorem OpStep.afterCall (hs : OpStep s e s') :
    BucketMeets (AfterCall s a e) (s'.perPeer.lookup a) := by
  cases e with
  | tryAcquire ip subnet now r =>
      obtain ⟨c, hcl, hd⟩ := AdmissionState.tryAcquire_spec hs
      obtain ⟨hfound, hown⟩ := @SamePeers.foundBucket _ s a c ip now hcl
      have hkept : BucketMeets (AfterCall s a (.tryAcquire ip subnet now r)) (c.perPeer.lookup a) :=
        fun peer hl => FoundBucket.afterCall (hfound peer hl)
      obtain ⟨_, _, rfl⟩ | ⟨_, rfl⟩ | ⟨rfl, hadm, rfl⟩ := AdmissionState.decideAcquire_cases hd
      · exact hkept
      · refine bucketMeets_insert hkept fun ha => ⟨_, hown ha, ?_⟩
        show LeftBucket s.config a _ _ ⟨c.bucketLevel ip now, now⟩
        rw [AdmissionState.bucketLevel, hcl.config]
        exact .refilled
      · refine bucketMeets_insert hkept fun ha => ⟨_, hown ha, ?_⟩
        have htoken := hadm.token
        show LeftBucket s.config a _ _ ⟨c.bucketLevel ip now - 1, now⟩
        rw [AdmissionState.bucketLevel, hcl.config] at htoken ⊢
        exact .spent (decide_eq_true ha) htoken
  | recordAuthFailure ip now banned =>
      obtain ⟨c, hcl, hc⟩ := AdmissionState.recordAuthFailure_spec hs
      obtain ⟨hfound, hown⟩ := @SamePeers.foundBucket _ s a c ip now hcl
      have hkept : BucketMeets (AfterCall s a (.recordAuthFailure ip now banned))
          (c.perPeer.lookup a) := fun peer hl => FoundBucket.afterCall (hfound peer hl)
      -- a failure changes the state of the peer, but not its bucket
      obtain ⟨_, _, _, _, rfl⟩ | ⟨_, _, rfl⟩ := AdmissionState.countFailure_cases hc
      · exact bucketMeets_insert hkept fun ha => FoundBucket.afterCall (hown ha)
      · exact bucketMeets_insert hkept fun ha => FoundBucket.afterCall (hown ha)
  | release ip subnet now =>
      obtain ⟨-, -, -, hpeer⟩ := AdmissionState.release_spec hs
      intro peer hl
      rw [hpeer, AdmissionState.peerAfterRelease] at hl
      have hswept : BucketMeets (FoundBucket s now a) (s.sweptPeer now a) :=
        FoundPeer.bucketMeets (s.foundPeer_swept now a) fun peer hl => .inl ⟨peer, hl, rfl⟩
      split at hl
      · obtain ⟨peer₁, h1, hc⟩ := Option.bind_eq_some_iff.mp hl
        obtain ⟨peer₂, h2, rfl⟩ := Option.map_eq_some_iff.mp h1
        rw [(PeerState.cleaned_eq_some hc).1]
        exact FoundBucket.afterCall (e := .release ip subnet now) (hswept peer₂ h2)
      · exact FoundBucket.afterCall (e := .release ip subnet now) (hswept peer hl)

/-- **What a step does to buckets**: it makes full ones, refills them, and takes a token from a
refilled one that has it. -/
theorem OpStep.bucketMeets (hs : OpStep s e s') (hp : BucketMeets P (s.perPeer.lookup a))
    (hnew : P (.new s.config.newConnectionsBurstPerIp e.time))
    (hrefill : ∀ b : TokenBucket p, P b → P ⟨b.level s.config.newConnectionsPerMinutePerIp
      s.config.newConnectionsBurstPerIp e.time, e.time⟩)
    (hspend : ∀ b : TokenBucket p, P b → 1 ≤ b.level s.config.newConnectionsPerMinutePerIp
      s.config.newConnectionsBurstPerIp e.time →
        P ⟨b.level s.config.newConnectionsPerMinutePerIp s.config.newConnectionsBurstPerIp
          e.time - 1, e.time⟩) : BucketMeets P (s'.perPeer.lookup a) := by
  intro peer hl
  obtain ⟨b, hfound, hleft⟩ := OpStep.afterCall hs peer hl
  have hb : P b := by
    rcases hfound with ⟨peer₀, hpeer₀, rfl⟩ | rfl
    · exact hp peer₀ hpeer₀
    · exact hnew
  generalize peer.connectionBucket = b' at hleft ⊢
  cases hleft with
  | kept => exact hb
  | refilled => exact hrefill b hb
  | spent _ htoken => exact hspend b hb htoken

end

theorem NoDebt.step (hn : NoDebt config a s) (hs : OpStep s e s') : NoDebt config a s' := by
  refine ⟨hs.config.trans hn.1, OpStep.bucketMeets (P := fun b => 0 ≤ b.tokens) hs hn.2 ?_ ?_ ?_⟩
  · exact Nat.cast_nonneg _
  · exact fun b hb => TokenBucket.levelAt_nonneg hb _ _ _
  · exact fun b _ htoken => sub_nonneg.mpr htoken

/-- A new entry has a full bucket, and one that keeps its bucket keeps its budget. -/
theorem budget_insert_of_bucket {ip : IpAddr} {now : Instant p} {peer : PeerState p}
    (hb : peer.connectionBucket = (s.peerOrNew ip now).connectionBucket) :
    budget s.config ((s.perPeer.insert ip peer).lookup a) now.ns
      = budget s.config (s.perPeer.lookup a) now.ns := by
  rw [Table.lookup_insert_ite]
  split
  · next ha =>
      subst ha
      have hlevel := bucketLevel_eq_budget s a now
      rw [AdmissionState.bucketLevel, ← hb] at hlevel
      exact hlevel
  · rfl

/-- **A step that removes no partial bucket** takes exactly the token of an admitted connection
off the budget of `a`. -/
theorem budget_step (hs : OpStep s e s') (hk : ¬ RemovesPartialBucket a s e) :
    budget s.config (s'.perPeer.lookup a) e.time.ns + (if admits a e = true then 1 else 0)
      = budget s.config (s.perPeer.lookup a) e.time.ns := by
  have hkeep : ∀ peer, s.perPeer.lookup a = some peer → PartialBucket s.config e.time peer →
      ¬ RemovesEntry a s e peer := fun peer hl hp hrem => hk ⟨peer, hl, hp, hrem⟩
  cases e with
  | tryAcquire ip subnet now r =>
      obtain ⟨c, hcl, hd⟩ := AdmissionState.tryAcquire_spec hs
      have hbud : budget s.config (c.perPeer.lookup a) now.ns
          = budget s.config (s.perPeer.lookup a) now.ns := by
        rw [hcl.lookup]
        exact budget_cleanedPeer hkeep
      have hlevel : ip = a → c.bucketLevel ip now
          = budget s.config (s.perPeer.lookup a) now.ns := by
        rintro rfl
        rw [bucketLevel_eq_budget, hcl.config, hbud]
      have hburst := budget_le_burst s.config (s.perPeer.lookup a) now.ns
      show budget s.config (s'.perPeer.lookup a) now.ns + _
        = budget s.config (s.perPeer.lookup a) now.ns
      obtain ⟨_, rfl, rfl⟩ | ⟨rfl, rfl⟩ | ⟨rfl, hadm, rfl⟩ :=
        AdmissionState.decideAcquire_cases hd
      · simpa [admits] using hbud
      · simp only [admits, Bool.false_eq_true, if_false, add_zero]
        show budget s.config ((c.perPeer.insert ip _).lookup a) now.ns = _
        rw [Table.lookup_insert_ite]
        split
        · next ha =>
            rw [← hlevel ha.symm] at hburst ⊢
            exact TokenBucket.levelAt_refilled _ now _ _ hburst
        · exact hbud
      · show budget s.config ((c.perPeer.insert ip _).lookup a) now.ns + _ = _
        rw [Table.lookup_insert_ite]
        by_cases ha : a = ip
        · subst ha
          simp only [if_true, admits, decide_true]
          rw [← hlevel rfl] at hburst ⊢
          have := TokenBucket.levelAt_refilled (c.bucketLevel a now - 1) now
            s.config.newConnectionsPerMinutePerIp s.config.newConnectionsBurstPerIp
            (by linarith)
          show TokenBucket.levelAt _ _ _ _ + 1 = _
          rw [this]
          ring
        · simp only [if_neg ha, admits, decide_eq_true_eq, if_neg (Ne.symm ha), add_zero]
          exact hbud
  | recordAuthFailure ip now banned =>
      obtain ⟨c, hcl, hc⟩ := AdmissionState.recordAuthFailure_spec hs
      have hbud : budget s.config (c.perPeer.lookup a) now.ns
          = budget s.config (s.perPeer.lookup a) now.ns := by
        rw [hcl.lookup]
        exact budget_cleanedPeer hkeep
      have hsame : budget s.config (s'.perPeer.lookup a) now.ns
          = budget s.config (c.perPeer.lookup a) now.ns := by
        rw [← hcl.config]
        obtain ⟨_, _, until_, _, rfl⟩ | ⟨_, _, rfl⟩ := AdmissionState.countFailure_cases hc
        · exact @budget_insert_of_bucket _ c _ ip now
            { c.peerOrNew ip now with authFailures := [], bannedUntil := some until_ } rfl
        · exact @budget_insert_of_bucket _ c _ ip now
            { c.peerOrNew ip now with authFailures := c.countedFailures ip now } rfl
      simp only [admits, Bool.false_eq_true, if_false, add_zero]
      exact hsame.trans hbud
  | release ip subnet now =>
      obtain ⟨-, -, -, hpeer⟩ := AdmissionState.release_spec hs
      simp only [admits, Bool.false_eq_true, if_false, add_zero]
      rw [hpeer]
      exact budget_peerAfterRelease hkeep

end

/-! ## The rate bound -/

/-- The calls that keep the budget of `a`. -/
def KeepsBuckets (a : IpAddr) (s : AdmissionState p) (e : Event p) : Prop :=
  ¬ RemovesPartialBucket a s e

/-- The budget of an address, as a refilling budget of the library. -/
theorem addressBudget (config : AdmissionConfig) (a : IpAddr) :
    Budget (IsNew config) (restrict OpStep (KeepsBuckets a)) (fun e : Event p => e.time.ns)
      (admits a) (NoDebt config a) (fun s t => budget config (s.perPeer.lookup a) t)
      config.newConnectionsBurstPerIp
      (TokenBucket.ratePerNano config.newConnectionsPerMinutePerIp) where
  inv_init := by
    rintro s ⟨now, rfl⟩
    exact ⟨rfl, fun peer hl => by cases hl⟩
  inv_step := fun s e s' hn hs => hn.step hs.1
  nonneg := fun s t hn => budget_nonneg hn.2 t
  le_burst := fun s t _ => budget_le_burst config _ t
  grow := fun s t t' _ ht => budget_grow config _ ht
  spend := by
    rintro s e s' ⟨hconf, -⟩ ⟨hs, hk⟩
    subst hconf
    exact le_of_eq (budget_step hs hk)
  rate_nonneg := TokenBucket.ratePerNano_nonneg _

/-- **The per-IP connection rate.** In every run at nondecreasing times none of whose calls
removes the entry of `a` while its bucket is not full again, the connections of `a` admitted in
`[t₁, t₂]` are at most the burst and the refill of that stretch. -/
theorem rate_bounded_while_buckets_kept {config : AdmissionConfig} {a : IpAddr}
    {h : List (Event p)} {s : AdmissionState p}
    (hr : Run (IsNew config) (restrict OpStep (KeepsBuckets a)) h s)
    (ho : Ordered Event.time h) {t₁ t₂ : Instant p} (ht : t₁ ≤ t₂) :
    (spentIn (fun e : Event p => e.time.ns) (admits a) t₁.ns t₂.ns h : ℚ)
      ≤ config.newConnectionsBurstPerIp
        + config.newConnectionsPerMinutePerIp *
          (TokenBucket.asSecs (t₂.ns - t₁.ns).toNat) / 60 := by
  have hbound := (addressBudget config a).count_window_le hr ho (Instant.le_iff.mp ht)
  have hnat : ((t₂.ns - t₁.ns).toNat : Int) = t₂.ns - t₁.ns :=
    Int.toNat_of_nonneg (Int.sub_nonneg.mpr (Instant.le_iff.mp ht))
  have hcast : ((t₂.ns - t₁.ns : Int) : ℚ) = (((t₂.ns - t₁.ns).toNat : Nat) : ℚ) := by
    exact_mod_cast congrArg (fun z : Int => (z : ℚ)) hnat.symm
  rw [hcast] at hbound
  refine le_trans hbound (le_of_eq ?_)
  unfold TokenBucket.ratePerNano TokenBucket.asSecs
  ring

/-- The state after an event, if the call returns what the event says. -/
def Event.next (s : AdmissionState p) : Event p → Option (AdmissionState p)
  | .tryAcquire ip subnet now r =>
      (s.tryAcquire ip subnet now).bind fun x => if x.1 = r then some x.2 else none
  | .recordAuthFailure ip now banned =>
      (s.recordAuthFailure ip now).bind fun x => if x.1 = banned then some x.2 else none
  | .release ip subnet now => s.release ip subnet now

variable {s : AdmissionState p}

theorem opStep_of_next {s' : AdmissionState p} (h : e.next s = some s') : OpStep s e s' := by
  cases e with
  | tryAcquire ip subnet now r =>
      obtain ⟨⟨r', s''⟩, hcall, hr⟩ := Option.bind_eq_some_iff.mp h
      obtain ⟨rfl, rfl⟩ : r' = r ∧ s'' = s' := by simpa using hr
      exact hcall
  | recordAuthFailure ip now banned =>
      obtain ⟨⟨r', s''⟩, hcall, hr⟩ := Option.bind_eq_some_iff.mp h
      obtain ⟨rfl, rfl⟩ : r' = banned ∧ s'' = s' := by simpa using hr
      exact hcall
  | release ip subnet now => exact h

/-- A connection of `a` stays open over the call, or `a` has no entry. -/
def staysConnected (a : IpAddr) (s : AdmissionState p) (e : Event p) : Bool :=
  (s.perPeer.lookup a).all fun peer =>
    match e with
    | .release _ _ _ => decide (1 < peer.unauthenticatedConnections)
    | _ => decide (0 < peer.unauthenticatedConnections)

variable {a : IpAddr}

theorem keepsBuckets_of_staysConnected (h : staysConnected a s e = true) : KeepsBuckets a s e := by
  rintro ⟨peer, hpeer, -, hremoves⟩
  have hkept : ∀ peer : PeerState p, 0 < peer.unauthenticatedConnections →
      (peer.refreshed e.time s.config.authFailureBanWindow).canBeRemoved ≠ true := by
    intro peer hpos hremoved
    simp [PeerState.canBeRemoved, PeerState.refreshed] at hremoved
    omega
  rw [staysConnected, hpeer, Option.all_some] at h
  cases e with
  | tryAcquire ip subnet now r => exact hkept peer (of_decide_eq_true h) hremoves.2
  | recordAuthFailure ip now banned => exact hkept peer (of_decide_eq_true h) hremoves.2
  | release ip subnet now =>
      have hlt : 1 < peer.unauthenticatedConnections := of_decide_eq_true h
      rcases hremoves with ⟨-, hremoved⟩ | ⟨-, hremoved⟩
      · exact hkept peer (by omega) hremoved
      · exact hkept peer.released (Nat.sub_pos_of_lt hlt) hremoved

/-- The state after events that keep a connection of `a`, the newest first. -/
def stateAfter (config : AdmissionConfig) (a : IpAddr) :
    List (Event .linux) → Option (AdmissionState .linux)
  | [] => some (.new config (linuxAt 0))
  | e :: h => (stateAfter config a h).bind fun s => if staysConnected a s e then e.next s else none

theorem run_of_stateAfter {h : List (Event .linux)} {s : AdmissionState .linux}
    (hs : stateAfter config a h = some s) :
    Run (IsNew config) (restrict OpStep (KeepsBuckets a)) h s := by
  induction h generalizing s with
  | nil => exact .nil ⟨linuxAt 0, (Option.some.inj hs).symm⟩
  | cons e h ih =>
      obtain ⟨s₀, hbefore, hstep⟩ := Option.bind_eq_some_iff.mp hs
      split at hstep
      · next hstays =>
          exact .cons (ih hbefore) ⟨opStep_of_next hstep, keepsBuckets_of_staysConnected hstays⟩
      · cases hstep

/-- Two peers connect. The first one is refused a third connection, gives one back, and connects
again after a sweep. -/
def mixedEvents : List (Event .linux) :=
  [.tryAcquire testPeer (subnetKey testPeer) (linuxAt 71) (.ok ()),
    .tryAcquire otherPeer (subnetKey otherPeer) (linuxAt 70) (.ok ()),
    .release testPeer (subnetKey testPeer) (linuxAt 4),
    .tryAcquire testPeer (subnetKey testPeer) (linuxAt 3)
      (.error .tooManyUnauthenticatedConnectionsForIp),
    .tryAcquire testPeer (subnetKey testPeer) (linuxAt 2) (.ok ()),
    .tryAcquire otherPeer (subnetKey otherPeer) (linuxAt 1) (.ok ()),
    .tryAcquire testPeer (subnetKey testPeer) (linuxAt 0) (.ok ())]

theorem rate_bounded_over_sweep :
    (∃ s, Run (IsNew testConfig) (restrict OpStep (KeepsBuckets testPeer)) mixedEvents s) ∧
      (spentIn (fun e : Event .linux => e.time.ns) (admits testPeer) (linuxAt 0).ns
          (linuxAt 80).ns mixedEvents : ℚ)
        ≤ testConfig.newConnectionsBurstPerIp
          + testConfig.newConnectionsPerMinutePerIp
            * (TokenBucket.asSecs ((linuxAt 80).ns - (linuxAt 0).ns).toNat) / 60 := by
  have hsome : (stateAfter testConfig testPeer mixedEvents).isSome = true := by decide +kernel
  obtain ⟨s, hs⟩ := Option.isSome_iff_exists.mp hsome
  have hrun := run_of_stateAfter hs
  refine ⟨⟨s, hrun⟩, rate_bounded_while_buckets_kept hrun ?_ (by decide)⟩
  unfold Ordered
  decide

/-- A burst of one connection, refilled at twelve a minute. -/
def burstOfOne : AdmissionConfig := { testConfig with newConnectionsBurstPerIp := 1 }

/-- **A peer that disconnects gets a new bucket**: its connection is admitted, dropped, and the
next one is admitted at the same instant, which is one more than the burst. -/
theorem rate_exceeded_after_release :
    ∃ s : AdmissionState .linux, ∃ h : List (Event .linux),
      OpRun burstOfOne h s ∧ Ordered Event.time h ∧
      ¬ (spentIn (fun e : Event .linux => e.time.ns) (admits testPeer) (linuxAt 0).ns
            (linuxAt 0).ns h : ℚ)
        ≤ burstOfOne.newConnectionsBurstPerIp
          + burstOfOne.newConnectionsPerMinutePerIp
            * (TokenBucket.asSecs ((linuxAt 0).ns - (linuxAt 0).ns).toNat) / 60 := by
  have hacq : (AdmissionState.new burstOfOne (linuxAt 0)).tryAcquire testPeer
      (subnetKey testPeer) (linuxAt 0) = some (.ok (), _) :=
    AdmissionState.tryAcquire_new testPeer (subnetKey testPeer) (by decide) (by decide)
      (by decide)
  -- releasing the connection removes the entry, and with it the empty bucket
  have hrel : ((AdmissionState.new burstOfOne (linuxAt 0)).admitted testPeer (subnetKey testPeer)
      (linuxAt 0)).release testPeer (subnetKey testPeer) (linuxAt 0)
      = some (.new burstOfOne (linuxAt 0)) := rfl
  have h0 : OpRun burstOfOne [] (.new burstOfOne (linuxAt 0)) := .nil ⟨_, rfl⟩
  have h1 : OpRun burstOfOne [.tryAcquire testPeer (subnetKey testPeer) (linuxAt 0) (.ok ())] _ :=
    .cons h0 hacq
  have h2 : OpRun burstOfOne [.release testPeer (subnetKey testPeer) (linuxAt 0),
      .tryAcquire testPeer (subnetKey testPeer) (linuxAt 0) (.ok ())] _ := .cons h1 hrel
  have h3 : OpRun burstOfOne [.tryAcquire testPeer (subnetKey testPeer) (linuxAt 0) (.ok ()),
      .release testPeer (subnetKey testPeer) (linuxAt 0),
      .tryAcquire testPeer (subnetKey testPeer) (linuxAt 0) (.ok ())] _ := .cons h2 hacq
  refine ⟨_, _, h3, by simp [Ordered, Event.time], ?_⟩
  simp [spentIn, admits, Event.time, TokenBucket.asSecs, burstOfOne]

end Narrowd.Admission
