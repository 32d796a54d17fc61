import Mathlib.Data.List.Perm.Basic
import Narrowd.Config.AppConfig
import Narrowd.Admission.Guards
import Narrowd.Admission.Clock

set_option autoImplicit false

/-! # The gauge of unauthenticated connections

The metrics count the connections that have not authenticated yet, beside the admission controller,
which counts them for its limits. The two counts are kept apart from each other: the controller's
follows the `AdmissionGuard`, the gauge the `PreauthContext` that owns the guard, and both end with
whichever comes first, `mark_authenticated` or a drop.

`Acceptor` is the shared state with all the connections, each at its own stage, and its runs
interleave them at will. `Balanced` is the invariant: the gauge never falls below the number of
handlers that own a guard, and behind a healthy lock it is that number. It follows that the gauge
never saturates and that the three views agree as long as the clock arithmetic of the controller
gets through (`views_agree_while_clock_fits`). A panic of that arithmetic in the drop of a guard
skips the gauge (`gauge_left_behind_by_panic`). Where a thread unwinds already, a second panic in a
drop aborts the daemon; this is left out, and the runs go on from there.
-/

namespace Narrowd.Sshd

open Narrowd.Lib Narrowd.Config Narrowd.Admission

variable {p : Platform}

/-! ## The handler of a connection -/

/-- `ServerMetrics`, as far as it counts open connections. -/
structure ServerMetrics where
  currentUnauthenticatedConnections : Nat
  deriving DecidableEq, Repr

namespace ServerMetrics

def preauthConnectionOpened (m : ServerMetrics) : ServerMetrics :=
  ⟨m.currentUnauthenticatedConnections + 1⟩

/-- `saturating_sub(1)`. -/
def preauthConnectionClosed (m : ServerMetrics) : ServerMetrics :=
  ⟨m.currentUnauthenticatedConnections - 1⟩

end ServerMetrics

/-- What all connections share. -/
structure Shared (p : Platform) where
  admission : AdmissionController p
  metrics : ServerMetrics

structure PreauthContext where
  admissionGuard : Option AdmissionGuard
  /-- Whether the sender of the message to `serve_connection` is still there. -/
  authSuccessTx : Bool
  authenticated : Bool
  deriving DecidableEq, Repr

namespace PreauthContext

def new (admissionGuard : AdmissionGuard) (s : Shared p) : PreauthContext × Shared p :=
  ({ admissionGuard := some admissionGuard, authSuccessTx := true, authenticated := false },
    { s with metrics := s.metrics.preauthConnectionOpened })

/-- The guard is given back before the gauge is lowered, so a panic in between skips the gauge. -/
def markAuthenticated (ctx : PreauthContext) (s : Shared p) (now nowDrop : Instant p) :
    Option PreauthContext × Shared p :=
  match ctx.admissionGuard with
  | none => (some { ctx with authenticated := true, authSuccessTx := false }, s)
  | some guard =>
      match guard.markAuthenticated s.admission now nowDrop with
      | (some (), admission) =>
          (some { admissionGuard := none, authSuccessTx := false, authenticated := true },
            { admission := admission, metrics := s.metrics.preauthConnectionClosed })
      | (none, admission) => (none, { s with admission := admission })

/-- `Drop for PreauthContext`. The guard that is taken is dropped at the end of the condition. -/
def drop (ctx : PreauthContext) (s : Shared p) (now : Instant p) : Shared p :=
  match ctx.admissionGuard with
  | none => s
  | some guard =>
      match guard.drop s.admission now with
      | (some (), admission) =>
          { admission := admission, metrics := s.metrics.preauthConnectionClosed }
      | (none, admission) => { s with admission := admission }

end PreauthContext

/-- The fields of a handler that the two counts depend on. -/
structure ClientHandler where
  peer : Option SocketAddr
  preauth : PreauthContext
  deriving DecidableEq, Repr

/-! ## Connections -/

/-- How far `serve_connection` has come. -/
inductive Connection
  | accepted (peer : SocketAddr)
  /-- Between `try_acquire` and `PreauthContext::new`. -/
  | admitted (peer : SocketAddr) (guard : AdmissionGuard)
  | handling (handler : ClientHandler)
  | closed
  deriving DecidableEq, Repr

inductive ConnectionEvent (p : Platform)
  | tryAcquire (now : Instant p)
  | newHandler
  /-- The task panics while it owns the guard itself. -/
  | unwind (now : Instant p)
  | authSucceeded (now nowDrop : Instant p)
  | recordAuthFailure (now : Instant p)
  /-- The handler goes: with its session, by the banner timeout, or because the task panics. -/
  | dropHandler (now : Instant p)

/-- One step of a connection; `none` where its stage has no such step. A connection whose step
panics under the admission lock is closed, except that a handler whose failure is being recorded is
still there to be dropped. -/
def Connection.step (s : Shared p) :
    Connection → ConnectionEvent p → Option (Connection × Shared p)
  | .accepted peer, .tryAcquire now =>
      match s.admission.tryAcquireAt peer.ip now with
      | (some (.ok guard), admission) =>
          some (.admitted peer guard, { s with admission := admission })
      | (some (.error _), admission) => some (.closed, { s with admission := admission })
      | (none, admission) => some (.closed, { s with admission := admission })
  | .admitted peer guard, .newHandler =>
      some (.handling { peer := some peer, preauth := (PreauthContext.new guard s).1 },
        (PreauthContext.new guard s).2)
  | .admitted _ guard, .unwind now =>
      some (.closed, { s with admission := (guard.drop s.admission now).2 })
  | .handling handler, .authSucceeded now nowDrop =>
      match handler.preauth.markAuthenticated s now nowDrop with
      | (some preauth, s) => some (.handling { handler with preauth := preauth }, s)
      | (none, s) => some (.closed, s)
  | .handling handler, .recordAuthFailure now =>
      match handler.peer with
      | none => some (.handling handler, s)
      | some peer =>
          some (.handling handler,
            { s with admission := (s.admission.recordAuthFailureAt peer.ip now).2 })
  | .handling handler, .dropHandler now => some (.closed, handler.preauth.drop s now)
  | _, _ => none

structure Acceptor (p : Platform) where
  shared : Shared p
  connections : List Connection

inductive AcceptorEvent (p : Platform)
  | accept (peer : SocketAddr)
  | connection (i : Nat) (e : ConnectionEvent p)

namespace Acceptor

def new (config : AdmissionConfig) (now : Instant p) : Acceptor p :=
  { shared := { admission := .new config now, metrics := ⟨0⟩ }, connections := [] }

/-- A connection is accepted, or one of the connections takes a step. -/
inductive Step : Acceptor p → AcceptorEvent p → Acceptor p → Prop
  | accept (d : Acceptor p) (peer : SocketAddr) :
      Step d (.accept peer) { d with connections := d.connections ++ [.accepted peer] }
  | connection {d : Acceptor p} {i : Nat} {e : ConnectionEvent p} {conn conn' : Connection}
      {shared' : Shared p} (hconn : d.connections[i]? = some conn)
      (hstep : conn.step d.shared e = some (conn', shared')) :
      Step d (.connection i e) { shared := shared', connections := d.connections.set i conn' }

abbrev Reachable (config : AdmissionConfig) : List (AcceptorEvent p) → Acceptor p → Prop :=
  Run (fun d => ∃ now, d = Acceptor.new config now) Step

end Acceptor

/-! ## What a step can do -/

variable {conn conn' : Connection} {now : Instant p} {s s' : Shared p} {handler : ClientHandler}
  {e : ConnectionEvent p}

namespace Connection

/-- **What a step of a connection can do**, one case for each way through `step`. -/
inductive Turn (s : Shared p) : Connection → ConnectionEvent p → Connection → Shared p → Prop
  | admits {peer : SocketAddr} {now : Instant p} {guard : AdmissionGuard}
      {c' : AdmissionController p}
      (h : s.admission.tryAcquireAt peer.ip now = (some (.ok guard), c')) :
      Turn s (.accepted peer) (.tryAcquire now) (.admitted peer guard) { s with admission := c' }
  | refuses {peer : SocketAddr} {now : Instant p} {r : Option (Except RejectReason AdmissionGuard)}
      {c' : AdmissionController p} (h : s.admission.tryAcquireAt peer.ip now = (r, c'))
      (hr : ∀ guard, r ≠ some (.ok guard)) :
      Turn s (.accepted peer) (.tryAcquire now) .closed { s with admission := c' }
  | opens {peer : SocketAddr} {guard : AdmissionGuard} :
      Turn s (.admitted peer guard) .newHandler
        (.handling { peer := some peer, preauth := (PreauthContext.new guard s).1 })
        (PreauthContext.new guard s).2
  | unwinds {peer : SocketAddr} {guard : AdmissionGuard} {now : Instant p} :
      Turn s (.admitted peer guard) (.unwind now) .closed
        { s with admission := (guard.drop s.admission now).2 }
  | authenticates {handler : ClientHandler} {preauth : PreauthContext} {guard : AdmissionGuard}
      {now nowDrop : Instant p} {c' : AdmissionController p}
      (hguard : handler.preauth.admissionGuard = some guard)
      (h : guard.markAuthenticated s.admission now nowDrop = (some (), c'))
      (hpreauth : preauth.admissionGuard = none) :
      Turn s (.handling handler) (.authSucceeded now nowDrop)
        (.handling { handler with preauth := preauth })
        { admission := c', metrics := s.metrics.preauthConnectionClosed }
  | authenticatesAgain {handler : ClientHandler} {preauth : PreauthContext}
      {now nowDrop : Instant p} (hguard : handler.preauth.admissionGuard = none)
      (hpreauth : preauth.admissionGuard = none) :
      Turn s (.handling handler) (.authSucceeded now nowDrop)
        (.handling { handler with preauth := preauth }) s
  | authPanics {handler : ClientHandler} {guard : AdmissionGuard} {now nowDrop : Instant p}
      {c' : AdmissionController p} (hguard : handler.preauth.admissionGuard = some guard)
      (h : guard.markAuthenticated s.admission now nowDrop = (none, c')) :
      Turn s (.handling handler) (.authSucceeded now nowDrop) .closed { s with admission := c' }
  | records {handler : ClientHandler} {peer : SocketAddr} {now : Instant p}
      (hpeer : handler.peer = some peer) :
      Turn s (.handling handler) (.recordAuthFailure now) (.handling handler)
        { s with admission := (s.admission.recordAuthFailureAt peer.ip now).2 }
  | recordsNothing {handler : ClientHandler} {now : Instant p} (hpeer : handler.peer = none) :
      Turn s (.handling handler) (.recordAuthFailure now) (.handling handler) s
  | drops {handler : ClientHandler} {guard : AdmissionGuard} {now : Instant p}
      {c' : AdmissionController p} (hguard : handler.preauth.admissionGuard = some guard)
      (h : guard.drop s.admission now = (some (), c')) :
      Turn s (.handling handler) (.dropHandler now) .closed
        { admission := c', metrics := s.metrics.preauthConnectionClosed }
  | dropsNothing {handler : ClientHandler} {now : Instant p}
      (hguard : handler.preauth.admissionGuard = none) :
      Turn s (.handling handler) (.dropHandler now) .closed s
  | dropPanics {handler : ClientHandler} {guard : AdmissionGuard} {now : Instant p}
      {c' : AdmissionController p} (hguard : handler.preauth.admissionGuard = some guard)
      (h : guard.drop s.admission now = (none, c')) :
      Turn s (.handling handler) (.dropHandler now) .closed { s with admission := c' }

theorem turn_authSucceeded {nowDrop : Instant p}
    (h : (handling handler).step s (.authSucceeded now nowDrop) = some (conn', s')) :
    Turn s (handling handler) (.authSucceeded now nowDrop) conn' s' := by
  simp only [step, PreauthContext.markAuthenticated] at h
  cases hguard : handler.preauth.admissionGuard with
  | none =>
      rw [hguard] at h
      cases h
      exact .authenticatesAgain hguard rfl
  | some guard =>
      rw [hguard] at h
      cases hr : guard.markAuthenticated s.admission now nowDrop with
      | mk r c' =>
          simp only [hr] at h
          cases r with
          | none => cases h; exact .authPanics hguard hr
          | some u => cases h; exact .authenticates hguard hr rfl

theorem turn_dropHandler (h : (handling handler).step s (.dropHandler now) = some (conn', s')) :
    Turn s (handling handler) (.dropHandler now) conn' s' := by
  simp only [step, PreauthContext.drop] at h
  cases hguard : handler.preauth.admissionGuard with
  | none =>
      rw [hguard] at h
      cases h
      exact .dropsNothing hguard
  | some guard =>
      rw [hguard] at h
      cases hr : guard.drop s.admission now with
      | mk r c' =>
          simp only [hr] at h
          cases r with
          | none => cases h; exact .dropPanics hguard hr
          | some u => cases h; exact .drops hguard hr

theorem turn_of_step (h : conn.step s e = some (conn', s')) : Turn s conn e conn' s' := by
  cases conn with
  | accepted peer =>
      cases e with
      | tryAcquire now =>
          simp only [step] at h
          split at h
          · next hr => cases h; exact .admits hr
          · next hr => cases h; exact .refuses hr (fun _ hok => nomatch hok)
          · next hr => cases h; exact .refuses hr (fun _ hok => nomatch hok)
      | _ => cases h
  | admitted peer guard =>
      cases e with
      | newHandler => cases h; exact .opens
      | unwind now => cases h; exact .unwinds
      | _ => cases h
  | handling handler =>
      cases e with
      | authSucceeded now nowDrop => exact turn_authSucceeded h
      | recordAuthFailure now =>
          simp only [step] at h
          split at h
          · next hpeer => cases h; exact .recordsNothing hpeer
          · next hpeer => cases h; exact .records hpeer
      | dropHandler now => exact turn_dropHandler h
      | _ => cases h
  | closed => cases e <;> cases h

end Connection

/-! ## What is counted -/

namespace Connection

/-- The guard that the connection owns. -/
def guard? : Connection → Option AdmissionGuard
  | admitted _ guard => some guard
  | handling handler => handler.preauth.admissionGuard
  | _ => none

def isAdmitted : Connection → Bool
  | admitted _ _ => true
  | _ => false

def isHandler : Connection → Bool
  | handling _ => true
  | _ => false

/-- A handler that owns its guard. -/
def isGuarded : Connection → Bool
  | handling handler => handler.preauth.admissionGuard.isSome
  | _ => false

end Connection

/-- Without a guard a connection counts for nothing. -/
theorem Connection.uncounted (conn : Connection) (h : conn.guard? = none) :
    conn.isAdmitted = false ∧ conn.isGuarded = false := by
  cases conn with
  | admitted _ _ => cases h
  | handling handler =>
      exact ⟨rfl, Option.isSome_eq_false_iff.mpr (Option.isNone_iff_eq_none.mpr h)⟩
  | _ => exact ⟨rfl, rfl⟩

def guardsOf (conns : List Connection) : List AdmissionGuard := conns.filterMap Connection.guard?

def admittedIn (conns : List Connection) : Nat := conns.countP Connection.isAdmitted

def guardedIn (conns : List Connection) : Nat := conns.countP Connection.isGuarded

@[simp] theorem guardsOf_cons (conn : Connection) (conns : List Connection) :
    guardsOf (conn :: conns) = conn.guard?.toList ++ guardsOf conns := by
  unfold guardsOf
  cases h : conn.guard? with
  | none => rw [List.filterMap_cons_none h]; rfl
  | some guard => rw [List.filterMap_cons_some h]; rfl

@[simp] theorem admittedIn_cons (conn : Connection) (conns : List Connection) :
    admittedIn (conn :: conns) = admittedIn conns + if conn.isAdmitted then 1 else 0 :=
  List.countP_cons

@[simp] theorem guardedIn_cons (conn : Connection) (conns : List Connection) :
    guardedIn (conn :: conns) = guardedIn conns + if conn.isGuarded then 1 else 0 :=
  List.countP_cons

/-- Every guard is owned by a connection that waits for its handler or by a handler. -/
theorem length_guardsOf (conns : List Connection) :
    (guardsOf conns).length = admittedIn conns + guardedIn conns := by
  induction conns with
  | nil => rfl
  | cons conn conns ih =>
      rw [guardsOf_cons, admittedIn_cons, guardedIn_cons, List.length_append, ih]
      cases conn with
      | accepted peer => simp [Connection.guard?, Connection.isAdmitted, Connection.isGuarded]
      | admitted peer guard =>
          simp only [Connection.guard?, Connection.isAdmitted, Connection.isGuarded,
            Option.toList_some, List.length_singleton, if_true, Bool.false_eq_true, if_false]
          omega
      | handling handler =>
          cases h : handler.preauth.admissionGuard with
          | none => simp [Connection.guard?, Connection.isAdmitted, Connection.isGuarded, h]
          | some guard =>
              simp only [Connection.guard?, Connection.isAdmitted, Connection.isGuarded, h,
                Option.toList_some, List.length_singleton, Option.isSome_some, if_true,
                Bool.false_eq_true, if_false]
              omega
      | closed => simp [Connection.guard?, Connection.isAdmitted, Connection.isGuarded]

/-! ## The invariant -/

/-- **The invariant of the counts.** The controller counts the guards of all connections. The gauge
covers the handlers that own one, and together with the connections that will open it stays within
the global limit, so the `usize` does not wrap. -/
structure Balanced (config : AdmissionConfig) (s : Shared p) (conns : List Connection) : Prop where
  system : (⟨s.admission, guardsOf conns⟩ : System p).Inv config
  guarded_le : guardedIn conns ≤ s.metrics.currentUnauthenticatedConnections
  le_global : s.metrics.currentUnauthenticatedConnections + admittedIn conns
    ≤ config.maxUnauthConnectionsGlobal
  exact : ∀ st, s.admission = .healthy st →
    s.metrics.currentUnauthenticatedConnections = guardedIn conns

variable {config : AdmissionConfig} {c : AdmissionController p} {gs : List AdmissionGuard}

/-- The order of the guards does not matter to the controller. -/
theorem inv_perm {gs' : List AdmissionGuard} (hi : (⟨c, gs⟩ : System p).Inv config)
    (hp : gs.Perm gs') : (⟨c, gs'⟩ : System p).Inv config := by
  refine ⟨fun g hg => hi.fresh g (hp.mem_iff.mpr hg), fun g hg => hi.subnet g (hp.mem_iff.mpr hg),
    hi.config_eq, ?_⟩
  intro st hst
  have hc := hi.counters st hst
  refine ⟨hc.global.trans hp.length_eq, ?_, ?_⟩
  · intro k
    have hlive : liveOfSubnet gs k = liveOfSubnet gs' k := hp.countP_eq _
    rw [← hlive]
    exact hc.subnet k
  · intro ip
    exact (hc.peer ip).trans (hp.countP_eq _)

/-- After a panic there is nothing behind the lock. -/
theorem inv_poisoned {lost : List AdmissionGuard} (hi : (⟨c, lost ++ gs⟩ : System p).Inv config) :
    (⟨.poisoned, gs⟩ : System p).Inv config :=
  ⟨fun g hg => hi.fresh g (List.mem_append_right _ hg),
    fun g hg => hi.subnet g (List.mem_append_right _ hg), (fun _ h => nomatch h),
    (fun _ h => nomatch h)⟩

variable {c' : AdmissionController p} {g : AdmissionGuard}

/-- A guard given back leaves the others. -/
theorem inv_giveBack {r : Option Unit} (hi : (⟨c, g :: gs⟩ : System p).Inv config)
    (hsome : r = some () → ∃ st st', c = .healthy st ∧
      st.release g.peerIp g.subnet now = some st' ∧ c' = .healthy st')
    (hnone : r = none → c' = .poisoned) : (⟨c', gs⟩ : System p).Inv config := by
  cases r with
  | none =>
      rw [hnone rfl]
      have hi' : (⟨c, [g] ++ gs⟩ : System p).Inv config := hi
      exact inv_poisoned hi'
  | some u =>
      have hback := hi.giveBack List.mem_cons_self now hsome hnone
      simpa [System.giveBack] using hback

variable {peer : SocketAddr} {guard : AdmissionGuard}
  {r : Option (Except RejectReason AdmissionGuard)}

namespace Balanced

variable {config : AdmissionConfig} {s : Shared p} {rest : List Connection}

theorem perm {conns conns' : List Connection} (hb : Balanced config s conns)
    (hp : conns.Perm conns') : Balanced config s conns' := by
  have hadmitted : admittedIn conns = admittedIn conns' := hp.countP_eq _
  have hguarded : guardedIn conns = guardedIn conns' := hp.countP_eq _
  refine ⟨inv_perm hb.system (hp.filterMap _), ?_, ?_, ?_⟩
  · rw [← hguarded]; exact hb.guarded_le
  · rw [← hadmitted]; exact hb.le_global
  · rw [← hguarded]; exact hb.exact

/-- The controller does something that leaves the guards alone, and the connection's part in the
counts stays what it was. -/
theorem keep (hb : Balanced config s (conn :: rest)) (hguard : conn'.guard? = conn.guard?)
    (hadmitted : conn'.isAdmitted = conn.isAdmitted) (hguarded : conn'.isGuarded = conn.isGuarded)
    (hsystem : (⟨c', guardsOf (conn :: rest)⟩ : System p).Inv config)
    (hhealthy : ∀ st, c' = .healthy st → ∃ st₀, s.admission = .healthy st₀) :
    Balanced config { s with admission := c' } (conn' :: rest) := by
  have hguards : guardsOf (conn' :: rest) = guardsOf (conn :: rest) := by
    rw [guardsOf_cons, guardsOf_cons, hguard]
  have hsame : guardedIn (conn' :: rest) = guardedIn (conn :: rest) := by
    rw [guardedIn_cons, guardedIn_cons, hguarded]
  refine ⟨hguards ▸ hsystem, hsame ▸ hb.guarded_le, ?_, ?_⟩
  · rw [admittedIn_cons, hadmitted, ← admittedIn_cons]
    exact hb.le_global
  · intro st hst
    obtain ⟨st₀, hst₀⟩ := hhealthy st hst
    rw [hsame]
    exact hb.exact st₀ hst₀

theorem exists_healthy_before_tryAcquire {ip : IpAddr}
    (h : s.admission.tryAcquireAt ip now = (r, c')) (st : AdmissionState p)
    (hst : c' = .healthy st) :
    ∃ st₀, s.admission = .healthy st₀ :=
  Lock.exists_healthy_before (f := fun c : AdmissionController p => (c.tryAcquireAt ip now).2) rfl
    ((congrArg Prod.snd h).trans hst)

/-- `try_acquire`: an admitted connection has room in the global limit. -/
theorem admits (hb : Balanced config s (.accepted peer :: rest))
    (h : s.admission.tryAcquireAt peer.ip now = (some (.ok guard), c')) :
    Balanced config { s with admission := c' } (.admitted peer guard :: rest) := by
  obtain ⟨hinv, hguards⟩ := hb.system.tryAcquireAt peer.ip now
  simp only [System.call, h] at hinv hguards
  -- the lock was healthy, so the gauge was exact when the limit was compared
  obtain ⟨st, hst⟩ : ∃ st, s.admission = .healthy st := by
    cases hadm : s.admission with
    | poisoned => rw [hadm] at h; cases h
    | healthy st => exact ⟨st, rfl⟩
  have hexact := hb.exact st hst
  have hroom : admittedIn rest + guardedIn rest < config.maxUnauthConnectionsGlobal := by
    rcases hguards with hsame | ⟨c, hconf, hc, hadm, -⟩
    · exact absurd (congrArg List.length hsame) (by simp)
    · have hlt := hadm.global_lt
      rw [hc.global, hconf] at hlt
      rw [← length_guardsOf]
      exact hlt
  refine ⟨hinv, ?_, ?_, ?_⟩
  · exact hb.guarded_le
  · simp only [guardedIn_cons, admittedIn_cons, Connection.isGuarded,
      Connection.isAdmitted] at hexact ⊢
    simp only [hexact, Bool.false_eq_true, if_false, if_true]
    omega
  · intro _ _
    exact hexact

theorem refuses (hb : Balanced config s (.accepted peer :: rest))
    (h : s.admission.tryAcquireAt peer.ip now = (r, c')) (hr : ∀ guard, r ≠ some (.ok guard)) :
    Balanced config { s with admission := c' } (.closed :: rest) := by
  obtain ⟨hinv, -⟩ := hb.system.tryAcquireAt peer.ip now
  simp only [System.call, h] at hinv
  refine hb.keep rfl rfl rfl ?_ (exists_healthy_before_tryAcquire h)
  rcases r with _ | reason | guard
  · exact hinv
  · exact hinv
  · exact absurd rfl (hr guard)

/-- `PreauthContext::new`: the guard moves into the handler, and the gauge rises. -/
theorem newHandler (hb : Balanced config s (.admitted peer guard :: rest)) :
    Balanced config (PreauthContext.new guard s).2
      (.handling { peer := some peer, preauth := (PreauthContext.new guard s).1 } :: rest) := by
  obtain ⟨hsystem, hle, hglobal, hexact⟩ := hb
  simp only [guardedIn_cons, admittedIn_cons, Connection.isGuarded, Connection.isAdmitted,
    if_true, Bool.false_eq_true, if_false] at hle hglobal hexact
  refine ⟨hsystem, ?_, ?_, ?_⟩
  · simp only [guardedIn_cons, Connection.isGuarded, PreauthContext.new, Option.isSome_some,
      if_true, ServerMetrics.preauthConnectionOpened]
    omega
  · simp only [admittedIn_cons, Connection.isAdmitted, PreauthContext.new, Bool.false_eq_true,
      if_false, ServerMetrics.preauthConnectionOpened]
    omega
  · intro st hst
    have := hexact st hst
    simp only [guardedIn_cons, Connection.isGuarded, PreauthContext.new, Option.isSome_some,
      if_true, ServerMetrics.preauthConnectionOpened]
    omega

/-- A panic before there is a handler: the guard is dropped, and the gauge has not counted it. -/
theorem unwind (hb : Balanced config s (.admitted peer guard :: rest)) (now : Instant p) :
    Balanced config { s with admission := (guard.drop s.admission now).2 }
      (.closed :: rest) := by
  have hfresh : guard.released = false := hb.system.fresh guard (by simp [Connection.guard?])
  have hsystem := inv_giveBack (r := (guard.drop s.admission now).1) hb.system
    (fun h => AdmissionGuard.drop_fresh hfresh (Prod.ext h rfl))
    (fun h => AdmissionGuard.drop_panic (Prod.ext h rfl))
  refine ⟨hsystem, hb.guarded_le, ?_, ?_⟩
  · have := hb.le_global
    simp only [admittedIn_cons, Connection.isAdmitted, if_true, Bool.false_eq_true,
      if_false] at this ⊢
    omega
  · intro st hst
    have hpoisoned : (guard.drop (.poisoned : AdmissionController p) now).2 = .poisoned := by
      simp [AdmissionGuard.drop, AdmissionGuard.release, hfresh, AdmissionController.release]
    obtain ⟨st₀, hst₀⟩ := Lock.exists_healthy_before
      (f := fun c : AdmissionController p => (guard.drop c now).2) hpoisoned hst
    exact hb.exact st₀ hst₀

/-- A handler gives its guard back, by either route, and the gauge falls. -/
theorem giveBack (hb : Balanced config s (.handling handler :: rest))
    (hguard : handler.preauth.admissionGuard = some guard) (hnone : conn'.guard? = none)
    (hback : ∃ st st', s.admission = .healthy st ∧
      st.release guard.peerIp guard.subnet now = some st' ∧ c' = .healthy st') :
    Balanced config { admission := c', metrics := s.metrics.preauthConnectionClosed }
      (conn' :: rest) := by
  obtain ⟨hsystem, hle, hglobal, hexact⟩ := hb
  obtain ⟨hadmitted, hguarded⟩ := conn'.uncounted hnone
  simp only [guardsOf_cons, Connection.guard?, hguard, Option.toList_some,
    List.singleton_append] at hsystem
  simp only [guardedIn_cons, admittedIn_cons, Connection.isGuarded, Connection.isAdmitted, hguard,
    Option.isSome_some, if_true, Bool.false_eq_true, if_false] at hle hglobal hexact
  refine ⟨?_, ?_, ?_, ?_⟩
  · rw [guardsOf_cons, hnone]
    exact inv_giveBack (r := some ()) hsystem (fun _ => hback) (fun h => nomatch h)
  · simp only [guardedIn_cons, hguarded, Bool.false_eq_true, if_false]
    exact Nat.le_sub_one_of_lt hle
  · simp only [admittedIn_cons, hadmitted, Bool.false_eq_true, if_false]
    exact le_trans (Nat.add_le_add_right (Nat.sub_le _ 1) _) hglobal
  · intro st hst
    obtain ⟨st₀, -, hst₀, -⟩ := hback
    have := hexact st₀ hst₀
    simp only [guardedIn_cons, hguarded, Bool.false_eq_true, if_false,
      ServerMetrics.preauthConnectionClosed]
    omega

/-- A handler goes in a panic under the lock, and the gauge stays. -/
theorem panics (hb : Balanced config s (.handling handler :: rest)) (hnone : conn'.guard? = none)
    (hpoisoned : c' = .poisoned) : Balanced config { s with admission := c' } (conn' :: rest) := by
  subst hpoisoned
  obtain ⟨hsystem, hle, hglobal, -⟩ := hb
  obtain ⟨hadmitted, hguarded⟩ := conn'.uncounted hnone
  rw [guardedIn_cons] at hle
  refine ⟨?_, ?_, ?_, (fun _ h => nomatch h)⟩
  · rw [guardsOf_cons] at hsystem
    rw [guardsOf_cons, hnone]
    exact inv_poisoned hsystem
  · rw [guardedIn_cons, hguarded]
    exact le_trans (Nat.le_add_right _ _) hle
  · rw [admittedIn_cons, hadmitted]
    exact hglobal

/-- A handler without a guard has no part in the counts. -/
theorem spent (hb : Balanced config s (.handling handler :: rest))
    (hguard : handler.preauth.admissionGuard = none) (hnone : conn'.guard? = none) :
    Balanced config s (conn' :: rest) := by
  obtain ⟨hadmitted, hguarded⟩ := conn'.uncounted hnone
  refine hb.keep (hnone.trans hguard.symm) hadmitted (hguarded.trans ?_) hb.system
    fun st hst => ⟨st, hst⟩
  simp [Connection.isGuarded, hguard]

/-- **A step of one connection keeps the balance.** -/
theorem step (hb : Balanced config s (conn :: rest)) (h : conn.step s e = some (conn', s')) :
    Balanced config s' (conn' :: rest) := by
  have hfresh : ∀ g, conn.guard? = some g → g.released = false := by
    intro g hg
    exact hb.system.fresh g (by simp [hg])
  cases Connection.turn_of_step h with
  | admits hr => exact hb.admits hr
  | refuses hr hnot => exact hb.refuses hr hnot
  | opens => exact hb.newHandler
  | unwinds => exact hb.unwind _
  | @authenticates handler preauth guard now nowDrop c' hguard hr hpreauth =>
      exact hb.giveBack hguard hpreauth
        (AdmissionGuard.markAuthenticated_fresh (hfresh guard hguard) hr)
  | authenticatesAgain hguard hpreauth => exact hb.spent hguard hpreauth
  | authPanics _ hr => exact hb.panics rfl (AdmissionGuard.markAuthenticated_panic hr)
  | @records handler peer now hpeer =>
      refine hb.keep rfl rfl rfl (hb.system.recordAuthFailureAt peer.ip now) fun _ => ?_
      exact Lock.exists_healthy_before
        (f := fun c : AdmissionController p => (c.recordAuthFailureAt peer.ip now).2) rfl
  | recordsNothing _ => exact hb
  | @drops handler guard now c' hguard hr =>
      exact hb.giveBack hguard rfl (AdmissionGuard.drop_fresh (hfresh guard hguard) hr)
  | dropsNothing hguard => exact hb.spent hguard rfl
  | dropPanics _ hr => exact hb.panics rfl (AdmissionGuard.drop_panic hr)

end Balanced

variable {h : List (AcceptorEvent p)} {d : Acceptor p}

/-- The counts are balanced in every run, whatever panics. -/
theorem Acceptor.Reachable.balanced (hr : Acceptor.Reachable config h d) :
    Balanced config d.shared d.connections := by
  refine hr.invariant (P := fun _ d => Balanced config d.shared d.connections) ?_ ?_
  · rintro d ⟨now, rfl⟩
    exact ⟨.new config now, le_rfl, Nat.zero_le _, fun _ _ => rfl⟩
  · intro h d e d' _ hb hs
    cases hs with
    | accept peer =>
        have hcons : Balanced config d.shared (.accepted peer :: d.connections) :=
          ⟨hb.system, hb.guarded_le, hb.le_global, hb.exact⟩
        exact hcons.perm (List.perm_append_singleton _ _).symm
    | @connection i e conn conn' shared' hconn hstep =>
        obtain ⟨hi, rfl⟩ := List.getElem?_eq_some_iff.mp hconn
        have hfocus := hb.perm (List.getElem_cons_eraseIdx_perm hi).symm
        exact (hfocus.step hstep).perm (List.set_perm_cons_eraseIdx hi conn').symm

/-! ## The handlers without authentication -/

def ConnectionEvent.isAuthSucceeded : ConnectionEvent p → Bool
  | .authSucceeded _ _ => true
  | _ => false

/-- Whether `auth_succeeded` has run on the connection `i`. -/
def authSucceededRan (h : List (AcceptorEvent p)) (i : Nat) : Bool :=
  h.any fun
    | .connection j e => j == i && e.isAuthSucceeded
    | .accept _ => false

/-- The existing handlers for which `auth_succeeded` has not run. -/
def Acceptor.unauthenticatedHandlers (d : Acceptor p) (h : List (AcceptorEvent p)) : Nat :=
  d.connections.zipIdx.countP fun x => x.1.isHandler && !authSucceededRan h x.2

/-- What the stage of a connection says about its history. -/
def Connection.Remembers (ran : Bool) : Connection → Prop
  | accepted _ => ran = false
  | admitted _ _ => ran = false
  | handling handler => ran = handler.preauth.admissionGuard.isNone
  | closed => True

/-- `auth_succeeded` takes the guard of a handler, and nothing else does while the handler
exists. -/
theorem Connection.Remembers.step {ran : Bool} (hrem : conn.Remembers ran)
    (h : conn.step s e = some (conn', s')) : conn'.Remembers (ran || e.isAuthSucceeded) := by
  have hsame : (ran || false) = ran := Bool.or_false ran
  have hguardless : ∀ preauth : PreauthContext, preauth.admissionGuard = none →
      (ran || true) = preauth.admissionGuard.isNone := by
    intro preauth hnone
    rw [hnone, Bool.or_true]
    rfl
  cases turn_of_step h with
  | admits _ => exact hsame.trans hrem
  | opens => exact hsame.trans hrem
  | authenticates _ _ hpreauth => exact hguardless _ hpreauth
  | authenticatesAgain _ hpreauth => exact hguardless _ hpreauth
  | records _ => exact hsame.trans hrem
  | recordsNothing _ => exact hsame.trans hrem
  | _ => trivial

theorem authSucceededRan_cons_self (h : List (AcceptorEvent p)) (i : Nat) (e : ConnectionEvent p) :
    authSucceededRan (.connection i e :: h) i = (authSucceededRan h i || e.isAuthSucceeded) := by
  simp [authSucceededRan, Bool.or_comm]

theorem authSucceededRan_cons_of_ne (h : List (AcceptorEvent p)) {i j : Nat} (hij : j ≠ i)
    (e : ConnectionEvent p) :
    authSucceededRan (.connection j e :: h) i = authSucceededRan h i := by
  simp [authSucceededRan, hij]

/-- Every connection remembers whether `auth_succeeded` has run on it, and it has run on no
other. -/
structure Remembered (h : List (AcceptorEvent p)) (conns : List Connection) : Prop where
  conn : ∀ (i : Nat) (conn : Connection), conns[i]? = some conn →
    conn.Remembers (authSucceededRan h i)
  fresh : ∀ i, conns.length ≤ i → authSucceededRan h i = false

theorem Acceptor.Reachable.remembered (hr : Acceptor.Reachable config h d) :
    Remembered h d.connections := by
  refine hr.invariant (P := fun h d => Remembered h d.connections) ?_ ?_
  · rintro d ⟨now, rfl⟩
    exact ⟨(fun _ _ hconn => nomatch hconn), fun _ _ => rfl⟩
  · intro h d e d' _ hm hs
    cases hs with
    | accept peer =>
        refine ⟨?_, ?_⟩
        · intro i conn hconn
          rcases lt_trichotomy i d.connections.length with hlt | heq | hgt
          · rw [List.getElem?_append_left hlt] at hconn
            exact hm.conn i conn hconn
          · -- the new connection
            subst heq
            rw [List.getElem?_concat_length] at hconn
            cases hconn
            exact hm.fresh _ le_rfl
          · rw [List.getElem?_eq_none (by simp; omega)] at hconn
            cases hconn
        · intro i hi
          rw [List.length_append] at hi
          exact hm.fresh i (by omega)
    | @connection j e conn conn' shared' hconn hstep =>
        have hj : j < d.connections.length := (List.getElem?_eq_some_iff.mp hconn).1
        refine ⟨?_, ?_⟩
        · intro i conn₁ hconn₁
          by_cases hij : j = i
          · subst hij
            rw [List.getElem?_set_self hj] at hconn₁
            cases hconn₁
            rw [authSucceededRan_cons_self]
            exact (hm.conn j conn hconn).step hstep
          · rw [List.getElem?_set_ne hij] at hconn₁
            rw [authSucceededRan_cons_of_ne h hij]
            exact hm.conn i conn₁ hconn₁
        · intro i hi
          rw [List.length_set] at hi
          rw [authSucceededRan_cons_of_ne h (by omega)]
          exact hm.fresh i hi

/-- The handlers for which `auth_succeeded` has not run are those that own a guard. -/
theorem Remembered.unauthenticatedHandlers (hm : Remembered h d.connections) :
    d.unauthenticatedHandlers h = guardedIn d.connections := by
  have hcount : guardedIn d.connections
      = d.connections.zipIdx.countP (Connection.isGuarded ∘ Prod.fst) := by
    rw [← List.countP_map, List.zipIdx_map_fst]
    rfl
  rw [hcount]
  refine List.countP_congr ?_
  rintro ⟨conn, i⟩ hmem
  have hrem := hm.conn i conn (List.mem_zipIdx_iff_getElem?.mp hmem)
  cases conn with
  | handling handler =>
      have hran : authSucceededRan h i = handler.preauth.admissionGuard.isNone := hrem
      simp only [Connection.isHandler, hran, Bool.true_and, Function.comp, Connection.isGuarded]
      cases handler.preauth.admissionGuard <;> simp
  | _ => simp [Connection.isHandler, Connection.isGuarded]

/-! ## The lock stays healthy -/

section

variable {st : AdmissionState p} {now : Instant p}

theorem tryAcquireAt_healthy (hw : WindowFits st.config now) (ip : IpAddr) :
    ∃ r st', AdmissionController.tryAcquireAt (.healthy st) ip now = (some r, .healthy st') := by
  obtain ⟨r, st', h⟩ := Lock.withLock_of_isSome (s := st)
    (f := fun s => s.tryAcquire ip (subnetKey ip) now)
    (AdmissionState.tryAcquire_isSome hw ip (subnetKey ip))
  unfold AdmissionController.tryAcquireAt
  cases r with
  | error reason => exact ⟨.error reason, st', by simp only [h]⟩
  | ok u => exact ⟨.ok (guardOf ip), st', by simp only [h]; rfl⟩

theorem recordAuthFailureAt_healthy (hw : WindowFits st.config now) (hb : BanFits st.config now)
    (ip : IpAddr) :
    ∃ r st', AdmissionController.recordAuthFailureAt (.healthy st) ip now
      = (some r, .healthy st') :=
  Lock.withLock_of_isSome (AdmissionState.recordAuthFailure_isSome hw hb ip)

theorem release_healthy (hw : WindowFits st.config now) (hg : g.released = false) :
    ∃ st', g.release (.healthy st) now = (some { g with released := true }, .healthy st') := by
  obtain ⟨u, st', h⟩ := Lock.withLock_of_isSome (s := st)
    (f := fun s => (s.release g.peerIp g.subnet now).map fun s => ((), s))
    (Option.isSome_map.trans (AdmissionState.release_isSome hw g.peerIp g.subnet))
  exact ⟨st', by simp [AdmissionGuard.release, hg, AdmissionController.release, h]⟩

theorem drop_healthy (hw : WindowFits st.config now) (hg : g.released = false) :
    ∃ st', g.drop (.healthy st) now = (some (), .healthy st') := by
  obtain ⟨st', h⟩ := release_healthy hw hg
  exact ⟨st', by simp [AdmissionGuard.drop, h]⟩

theorem markAuthenticated_healthy (hw : WindowFits st.config now) (hg : g.released = false)
    (nowDrop : Instant p) :
    ∃ st', g.markAuthenticated (.healthy st) now nowDrop = (some (), .healthy st') := by
  obtain ⟨st', h⟩ := release_healthy hw hg
  refine ⟨st', ?_⟩
  rw [AdmissionGuard.markAuthenticated, h]
  rfl

end

/-- The clock arithmetic of the admission calls of a step gets through. -/
def ConnectionEvent.Fits (config : AdmissionConfig) : ConnectionEvent p → Prop
  | .tryAcquire now => WindowFits config now
  | .newHandler => True
  | .unwind now => WindowFits config now
  | .authSucceeded now _ => WindowFits config now
  | .recordAuthFailure now => WindowFits config now ∧ BanFits config now
  | .dropHandler now => WindowFits config now

def AcceptorEvent.Fits (config : AdmissionConfig) : AcceptorEvent p → Prop
  | .accept _ => True
  | .connection _ e => e.Fits config

theorem Balanced.healthy_step {rest : List Connection} (hb : Balanced config s (conn :: rest))
    (hfits : e.Fits config) (hhealthy : ∃ st, s.admission = .healthy st)
    (h : conn.step s e = some (conn', s')) : ∃ st', s'.admission = .healthy st' := by
  obtain ⟨st, hst⟩ := hhealthy
  have hconf : st.config = config := hb.system.config_eq st hst
  have hfresh : ∀ g, conn.guard? = some g → g.released = false := by
    intro g hg
    exact hb.system.fresh g (by simp [hg])
  subst hconf
  cases Connection.turn_of_step h with
  | @admits peer now guard c' hr =>
      obtain ⟨_, st', hr'⟩ := tryAcquireAt_healthy hfits peer.ip
      rw [hst, hr'] at hr
      exact ⟨st', (congrArg Prod.snd hr).symm⟩
  | @refuses peer now r c' hr _ =>
      obtain ⟨_, st', hr'⟩ := tryAcquireAt_healthy hfits peer.ip
      rw [hst, hr'] at hr
      exact ⟨st', (congrArg Prod.snd hr).symm⟩
  | opens => exact ⟨st, hst⟩
  | @unwinds peer guard now =>
      obtain ⟨st', hr⟩ := drop_healthy hfits (hfresh guard rfl)
      exact ⟨st', by rw [hst, hr]⟩
  | @authenticates handler preauth guard now nowDrop c' hguard hr _ =>
      obtain ⟨st', hr'⟩ := markAuthenticated_healthy hfits (hfresh guard hguard) nowDrop
      rw [hst, hr'] at hr
      exact ⟨st', (congrArg Prod.snd hr).symm⟩
  | authenticatesAgain _ _ => exact ⟨st, hst⟩
  | @authPanics handler guard now nowDrop c' hguard hr =>
      obtain ⟨st', hr'⟩ := markAuthenticated_healthy hfits (hfresh guard hguard) nowDrop
      rw [hst, hr'] at hr
      cases hr
  | @records handler peer now _ =>
      obtain ⟨_, st', hr⟩ := recordAuthFailureAt_healthy hfits.1 hfits.2 peer.ip
      exact ⟨st', by rw [hst, hr]⟩
  | recordsNothing _ => exact ⟨st, hst⟩
  | @drops handler guard now c' hguard hr =>
      obtain ⟨st', hr'⟩ := drop_healthy hfits (hfresh guard hguard)
      rw [hst, hr'] at hr
      exact ⟨st', (congrArg Prod.snd hr).symm⟩
  | dropsNothing _ => exact ⟨st, hst⟩
  | @dropPanics handler guard now c' hguard hr =>
      obtain ⟨st', hr'⟩ := drop_healthy hfits (hfresh guard hguard)
      rw [hst, hr'] at hr
      cases hr

theorem Acceptor.Reachable.healthy (hr : Acceptor.Reachable config h d)
    (hfits : ∀ e ∈ h, e.Fits config) : ∃ st, d.shared.admission = .healthy st := by
  induction hr with
  | nil h0 =>
      obtain ⟨now, rfl⟩ := h0
      exact ⟨_, rfl⟩
  | @cons h d d' e hr hs ih =>
      have hbefore := ih fun e he => hfits e (List.mem_cons_of_mem _ he)
      have he : e.Fits config := hfits e List.mem_cons_self
      have hb := Acceptor.Reachable.balanced hr
      cases hs with
      | accept peer => exact hbefore
      | connection hconn hstep =>
          obtain ⟨hi, rfl⟩ := List.getElem?_eq_some_iff.mp hconn
          exact (hb.perm (List.getElem_cons_eraseIdx_perm hi).symm).healthy_step he hbefore hstep

/-! ## The three views -/

/-- No connection is between `try_acquire` and `PreauthContext::new`. -/
def Acceptor.Settled (d : Acceptor p) : Prop := ∀ conn ∈ d.connections, conn.isAdmitted = false

/-- **The three views of unauthenticated connections.** In every run a handler that owns a guard,
and so will lower the gauge, finds it positive. If the clock arithmetic of the run's steps gets
through, the gauge, the controller's counter and the number of handlers for which `auth_succeeded`
has not run agree whenever no connection is on its way from the one to the other. -/
theorem views_agree_while_clock_fits {config : AdmissionConfig} {h : List (AcceptorEvent p)}
    {d : Acceptor p} (hr : Acceptor.Reachable config h d) :
    (∀ handler, .handling handler ∈ d.connections → handler.preauth.admissionGuard.isSome →
      0 < d.shared.metrics.currentUnauthenticatedConnections) ∧
    ((∀ e ∈ h, e.Fits config) → ∃ st, d.shared.admission = .healthy st ∧
      (d.Settled →
        d.shared.metrics.currentUnauthenticatedConnections = st.unauthenticatedConnections ∧
        st.unauthenticatedConnections = d.unauthenticatedHandlers h)) := by
  have hb := hr.balanced
  refine ⟨?_, ?_⟩
  · intro handler hmem hguard
    have hpos : 0 < guardedIn d.connections := List.countP_pos_iff.mpr ⟨_, hmem, hguard⟩
    exact lt_of_lt_of_le hpos hb.guarded_le
  · intro hfits
    obtain ⟨st, hst⟩ := hr.healthy hfits
    refine ⟨st, hst, ?_⟩
    intro hsettled
    have hnone : admittedIn d.connections = 0 :=
      List.countP_eq_zero.mpr fun conn hconn => by simp [hsettled conn hconn]
    have hcount : st.unauthenticatedConnections = guardedIn d.connections := by
      calc st.unauthenticatedConnections
          = (guardsOf d.connections).length := (hb.system.counters st hst).global
        _ = admittedIn d.connections + guardedIn d.connections := length_guardsOf _
        _ = guardedIn d.connections := by rw [hnone, Nat.zero_add]
    rw [hcount, hr.remembered.unauthenticatedHandlers]
    exact ⟨hb.exact st hst, rfl⟩

/-! ## The first connection -/

/-- The handler of a connection that has not authenticated. -/
def freshHandler (peer : SocketAddr) : ClientHandler :=
  { peer := some peer
    preauth :=
      { admissionGuard := some (guardOf peer.ip), authSuccessTx := true, authenticated := false } }

/-- The first connection of a daemon, up to its handler. -/
theorem Acceptor.reachable_first (config : AdmissionConfig) (now : Instant p) (peer : SocketAddr)
    (hglobal : 0 < config.maxUnauthConnectionsGlobal)
    (hsubnet : 0 < config.maxUnauthConnectionsPerSubnet)
    (hburst : 0 < config.newConnectionsBurstPerIp) :
    Acceptor.Reachable config
      [.connection 0 .newHandler, .connection 0 (.tryAcquire now), .accept peer]
      { shared :=
          { admission := .healthy
              ((AdmissionState.new config now).admitted peer.ip (subnetKey peer.ip) now)
            metrics := ⟨1⟩ }
        connections := [.handling (freshHandler peer)] } := by
  have hnew : Acceptor.Reachable config [] (Acceptor.new config now) := .nil ⟨now, rfl⟩
  have haccepted := hnew.cons (.accept _ peer)
  have hacquire : Connection.step (Acceptor.new config now).shared (.accepted peer)
    (.tryAcquire now)
      = some (.admitted peer (guardOf peer.ip),
          { admission := .healthy
              ((AdmissionState.new config now).admitted peer.ip (subnetKey peer.ip) now)
            metrics := ⟨0⟩ }) := by
    simp only [Connection.step, Acceptor.new, AdmissionController.tryAcquireAt,
      AdmissionController.new, Lock.withLock_healthy,
      AdmissionState.tryAcquire_new peer.ip (subnetKey peer.ip) hglobal hsubnet hburst]
    rfl
  have hadmitted := haccepted.cons (.connection (i := 0) rfl hacquire)
  exact hadmitted.cons (.connection (i := 0) rfl rfl)

theorem Acceptor.settled_singleton (h : conn.isAdmitted = false) :
    Acceptor.Settled ⟨s, [conn]⟩ := by
  intro conn' hmem
  rw [List.mem_singleton.mp hmem]
  exact h

theorem views_agree_at_first_handler :
    ∃ (h : List (AcceptorEvent .linux)) (d : Acceptor .linux), Acceptor.Reachable testConfig h d ∧
      (∀ e ∈ h, e.Fits testConfig) ∧ d.Settled ∧
      ∃ st, d.shared.admission = .healthy st ∧
        d.shared.metrics.currentUnauthenticatedConnections = 1 ∧
        st.unauthenticatedConnections = 1 ∧ d.unauthenticatedHandlers h = 1 := by
  have hr := Acceptor.reachable_first testConfig (linuxAt 7) ⟨testPeer, 40000⟩
    (by decide) (by decide) (by decide)
  have hfits : ∀ e ∈ ([.connection 0 .newHandler, .connection 0 (.tryAcquire (linuxAt 7)),
      .accept ⟨testPeer, 40000⟩] : List (AcceptorEvent .linux)), e.Fits testConfig := by
    intro e he
    simp only [List.mem_cons, List.not_mem_nil, or_false] at he
    rcases he with rfl | rfl | rfl
    · trivial
    · show Platform.instantMin .linux ≤ _
      decide
    · trivial
  obtain ⟨-, hviews⟩ := views_agree_while_clock_fits hr
  obtain ⟨st, hst, hagree⟩ := hviews hfits
  obtain ⟨hgauge, hhandlers⟩ := hagree (Acceptor.settled_singleton rfl)
  refine ⟨_, _, hr, hfits, Acceptor.settled_singleton rfl, st, hst, rfl, hgauge.symm, ?_⟩
  rw [← hhandlers]
  exact hgauge.symm

/-! ## A gauge that is left behind -/

/-- The first release cleans up its peer, and that computes the beginning of the window. -/
theorem release_admitted_panics (hw : ¬ WindowFits config now) (ip : IpAddr) (subnet : SubnetKey) :
    ((AdmissionState.new config now).admitted ip subnet now).release ip subnet now = none := by
  have hsub : now.checkedSub config.authFailureBanWindow = none := by
    rw [← Option.not_isSome_iff_eq_none, Instant.checkedSub_isSome]
    exact hw
  have hlookup : ∃ peer, ((AdmissionState.new config now).admitted ip subnet now).perPeer.lookup ip
      = some peer := ⟨_, AList.lookup_insert _⟩
  obtain ⟨peer, hpeer⟩ := hlookup
  have hsweep : ((AdmissionState.new config now).admitted ip subnet now).maybeCleanupPeers now
      = some ((AdmissionState.new config now).admitted ip subnet now) :=
    AdmissionState.maybeCleanupPeers_fresh rfl
  simp only [AdmissionState.release, hsweep, Option.bind_eq_bind, Option.bind_some,
    AdmissionState.cleanupPeer]
  rw [AdmissionState.releaseCounters_perPeer, if_pos rfl, hpeer]
  simp only [Option.map_some, PeerState.refreshTransientState]
  show ((now.checkedSub config.authFailureBanWindow).bind _).bind _ = none
  rw [hsub]
  rfl

/-- **A gauge that is left behind.** Windows, five minutes after the boot, with the default window
of ten: a client connects and goes. The drop of its guard panics under the lock, in
`now - auth_failure_ban_window`, and so the drop of its handler does not get to the gauge. There is
no handler any more, and the gauge stays at one. -/
theorem gauge_left_behind_by_panic :
    ∃ config, AppConfig.defaults .windows ⟨some "C:\\Users\\user".toList, none⟩ = .ok config ∧
      ∃ (h : List (AcceptorEvent .windows)) (d : Acceptor .windows),
        Acceptor.Reachable (AdmissionConfig.fromAppConfig config) h d ∧
        d.Settled ∧ d.connections = [.closed] ∧ d.unauthenticatedHandlers h = 0 ∧
        d.shared.metrics.currentUnauthenticatedConnections = 1 ∧
        d.shared.admission = .poisoned := by
  refine ⟨_, rfl, ?_⟩
  let now : Instant .windows := ⟨300 * 1000000000, by decide, by decide⟩
  let peer : SocketAddr := ⟨testPeer, 40000⟩
  generalize hconfig : AdmissionConfig.fromAppConfig _ = config
  have hfirst := Acceptor.reachable_first config now peer (by subst hconfig; decide)
    (by subst hconfig; decide) (by subst hconfig; decide)
  have hw : ¬ WindowFits config now := by
    subst hconfig
    show ¬ Platform.instantMin .windows ≤ _
    decide
  have hdrop : (guardOf testPeer).drop
      (.healthy ((AdmissionState.new config now).admitted testPeer (subnetKey testPeer) now)) now
      = (none, .poisoned) := by
    simp [AdmissionGuard.drop, AdmissionGuard.release, guardOf, AdmissionController.release,
      Lock.withLock_healthy, release_admitted_panics hw]
  have hgone : Connection.step
      { admission := .healthy
          ((AdmissionState.new config now).admitted testPeer (subnetKey testPeer) now)
        metrics := ⟨1⟩ } (.handling (freshHandler peer)) (.dropHandler now)
      = some (.closed, { admission := .poisoned, metrics := ⟨1⟩ }) := by
    simp only [Connection.step, PreauthContext.drop, freshHandler]
    rw [show peer.ip = testPeer from rfl, hdrop]
  have hrun := hfirst.cons (.connection (i := 0) rfl hgone)
  exact ⟨_, _, hrun, Acceptor.settled_singleton rfl, rfl, rfl, rfl, rfl⟩

end Narrowd.Sshd
