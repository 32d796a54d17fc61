import Narrowd.AuthorizedKeys.State
import Narrowd.Admission.Guards

set_option autoImplicit false

/-! # Authentication

`ClientHandler::authorize_key` decides about an offered key: the login name must be the daemon's,
the algorithm one of two, and the key in the authorized-keys cache, which is refreshed on the way
when that is due. A rejection is reported to the admission controller, the metrics and the log.

The functions here return, besides their result and the new state, the calls they make to those
services, in order (`Effect`). A result of `none` is a panic. The daemon runs on one thread and
`authorize_key` never awaits, so calls do not interleave.
-/

namespace Narrowd.Sshd

open Narrowd.Lib Narrowd.AuthorizedKeys Narrowd.Admission

/-- The answer to an authentication request. -/
inductive Auth
  | accept
  | reject
  deriving DecidableEq, Repr

/-- The calls that authentication makes to the other parts of the daemon. -/
inductive Effect
  /-- `admission.record_auth_failure(ip)`, and whether it banned the address. -/
  | recordAuthFailure (ip : IpAddr) (banned : Bool)
  | metricsRecordAuthFailure (peerIp : Option IpAddr) (temporaryBanIssued : Bool)
  /-- `warn_limited(peer, category, auth_rejection_log_message(..))`. -/
  | warnAuthRejected (peer : Option SocketAddr) (category reason : String)
      (temporaryBan : Option Bool)
  | logAuthorizedKeysReload (event : AuthorizedKeysReloadEvent)
  | infoAuthAccepted (peer : Option SocketAddr)
  deriving DecidableEq, Repr

variable {K : Type} {p : Platform}

/-- The part of `AppState` that authentication uses. -/
structure AppState (p : Platform) where
  daemonUsername : String
  authorizedKeys : AuthorizedKeysStore p
  admission : AdmissionController p

/-- What a call reads from outside: the authorized-keys file, and the clock when the cache is
refreshed and when a failure is recorded. -/
structure CallInput (p : Platform) where
  view : PathView
  refreshNow : Instant p
  failureNow : Instant p

/-- The outcome of a call. -/
structure Outcome (p : Platform) (α : Type) where
  result : Option α
  app : AppState p
  effects : List Effect

def loginUserMatchesDaemon (requestedUser daemonUsername : String) : Bool :=
  requestedUser == daemonUsername

def isUserKeyAlgorithmAllowed : Algorithm → Bool
  | .ed25519 => true
  | .skEd25519 => true
  | _ => false

namespace AppState

/-- `ClientHandler::record_auth_failure`. -/
def recordAuthFailure (app : AppState p) (peer : Option SocketAddr) (category reason : String)
    (now : Instant p) : Outcome p Unit :=
  match peer with
  | none =>
      { result := some (), app := app
        effects := [.metricsRecordAuthFailure none false,
          .warnAuthRejected none category reason none] }
  | some addr =>
      match app.admission.recordAuthFailureAt addr.ip now with
      | (some banned, admission) =>
          { result := some (), app := { app with admission := admission }
            effects := [.recordAuthFailure addr.ip banned,
              .metricsRecordAuthFailure (some addr.ip) banned,
              .warnAuthRejected peer category reason (some banned)] }
      | (none, admission) =>
          { result := none, app := { app with admission := admission }, effects := [] }

def isAuthorized (app : AppState p) (ssh : SshKey K) (offeredKey : K) (input : CallInput p) :
    Outcome p (Except AnyError Bool) :=
  match app.authorizedKeys.refreshIfDue ssh input.view input.refreshNow with
  | (some (.ok event), store) =>
      { result := store.contains ssh offeredKey, app := { app with authorizedKeys := store }
        effects := event.toList.map .logAuthorizedKeysReload }
  | (some (.error err), store) =>
      { result := some (.error err), app := { app with authorizedKeys := store }, effects := [] }
  | (none, store) => { result := none, app := { app with authorizedKeys := store }, effects := [] }

/-- The rejection of a request: the failure is recorded, after the effects so far. -/
def rejectWith (app : AppState p) (peer : Option SocketAddr) (category reason : String)
    (now : Instant p) (effects : List Effect) : Outcome p (Except AnyError Auth) :=
  let o := app.recordAuthFailure peer category reason now
  { result := o.result.map fun _ => .ok .reject, app := o.app, effects := effects ++ o.effects }

/-- `ClientHandler::authorize_key`. -/
def authorizeKey (app : AppState p) (ssh : SshKey K) (peer : Option SocketAddr) (user : String)
    (publicKey : K) (input : CallInput p) : Outcome p (Except AnyError Auth) :=
  if !loginUserMatchesDaemon user app.daemonUsername then
    app.rejectWith peer "auth-reject-username" "requested login user is not permitted"
      input.failureNow []
  else if !isUserKeyAlgorithmAllowed (ssh.algorithm publicKey) then
    app.rejectWith peer "auth-reject-key-algorithm"
      ("unsupported public key algorithm " ++ ssh.algorithmDebug (ssh.algorithm publicKey))
      input.failureNow []
  else
    let o := app.isAuthorized ssh publicKey input
    match o.result with
    | some (.ok true) =>
        { result := some (.ok .accept), app := o.app,
          effects := o.effects ++ [.infoAuthAccepted peer] }
    | some (.ok false) =>
        o.app.rejectWith peer "auth-reject-unknown-key"
          "public key not present in authorized_keys cache" input.failureNow o.effects
    | some (.error err) => { result := some (.error err), app := o.app, effects := o.effects }
    | none => { result := none, app := o.app, effects := o.effects }

end AppState

end Narrowd.Sshd
