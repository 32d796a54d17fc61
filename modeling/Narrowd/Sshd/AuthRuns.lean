import Narrowd.Lib.Run
import Narrowd.AuthorizedKeys.Reload
import Narrowd.Sshd.Auth

set_option autoImplicit false

/-! # Authentication over whole runs

Refreshes and authentication requests in any order, over a file that does as it likes between
them and during them: every call brings its own view of it. `loadedTexts` are the texts that were
loaded on the way, newest first. The cache is the one of the newest text whatever has happened
since (`KeysInv`), so the decisions about keys follow that text (`auth_follows_last_load`).

The generation counts the loads, up to `u64::MAX`, where it stays (`generation_saturates`).

A file that cannot be loaded leaves the last cache in place, and requests are answered from it. A
file that cannot be looked at does not: the error of the `stat` becomes the answer
(`unreadable_directory_fails_authentication`), and `cache_answers_iff` says that this is the only
way for the file system to get in between.
-/

namespace Narrowd.Sshd

open Narrowd.Lib Narrowd.AuthorizedKeys Narrowd.Admission

variable {K : Type} {p : Platform}

/-! ## Reading the effects of a call -/

/-- The calls of `admission.record_auth_failure`, with their answers. -/
def admissionCalls (effects : List Effect) : List (IpAddr × Bool) :=
  effects.filterMap fun
    | .recordAuthFailure ip banned => some (ip, banned)
    | _ => none

/-- The reload that the call reports. -/
def reloadOf (effects : List Effect) : Option AuthorizedKeysReloadEvent :=
  effects.findSome? fun
    | .logAuthorizedKeysReload event => some event
    | _ => none

theorem admissionCalls_append (fx fx' : List Effect) :
    admissionCalls (fx ++ fx') = admissionCalls fx ++ admissionCalls fx' :=
  List.filterMap_append

theorem reloadOf_append (fx fx' : List Effect) :
    reloadOf (fx ++ fx') = (reloadOf fx).or (reloadOf fx') := List.findSome?_append

@[simp] theorem admissionCalls_reload (event : Option AuthorizedKeysReloadEvent) :
    admissionCalls (event.toList.map .logAuthorizedKeysReload) = [] := by
  cases event <;> rfl

@[simp] theorem reloadOf_reload (event : Option AuthorizedKeysReloadEvent) :
    reloadOf (event.toList.map .logAuthorizedKeysReload) = event := by
  cases event <;> rfl

variable {ssh : SshKey K} {app : AppState p} {publicKey : K}

namespace AppState

/-- The failure of `peer` was recorded once, with this answer. -/
def RecordedOnce (app app' : AppState p) (peer : SocketAddr) (now : Instant p)
    (effects : List Effect) : Prop :=
  ∃ banned, admissionCalls effects = [(peer.ip, banned)] ∧
    app.admission.recordAuthFailureAt peer.ip now = (some banned, app'.admission)

section

variable {app : AppState p} {ssh : SshKey K} {peer : SocketAddr} {category reason : String}
  {now : Instant p} {fx : List Effect}

/-- **`record_auth_failure`** reports once to the admission controller, unless it panics, and
leaves the keys alone. -/
theorem recordAuthFailure_spec (app : AppState p) (peer : SocketAddr) (category reason : String)
    (now : Instant p) :
    let o := app.recordAuthFailure (some peer) category reason now
    o.app.daemonUsername = app.daemonUsername ∧ o.app.authorizedKeys = app.authorizedKeys ∧
      reloadOf o.effects = none ∧
      (o.result.isSome → RecordedOnce app o.app peer now o.effects) := by
  simp only [recordAuthFailure]
  cases hrec : app.admission.recordAuthFailureAt peer.ip now with
  | mk banned admission =>
      cases banned with
      | none => exact ⟨rfl, rfl, rfl, fun h => by cases h⟩
      | some banned => exact ⟨rfl, rfl, rfl, fun _ => ⟨banned, rfl, hrec⟩⟩

theorem rejectWith_spec (app : AppState p) (peer : SocketAddr) (category reason : String)
    (now : Instant p) (fx : List Effect) :
    let o := app.rejectWith (some peer) category reason now fx
    o.app.daemonUsername = app.daemonUsername ∧ o.app.authorizedKeys = app.authorizedKeys ∧
      reloadOf o.effects = reloadOf fx ∧
      ∀ r, o.result = some r → r = .ok .reject ∧
        (admissionCalls fx = [] → RecordedOnce app o.app peer now o.effects) := by
  obtain ⟨hname, hkeys, hreload, honce⟩ := recordAuthFailure_spec app peer category reason now
  refine ⟨hname, hkeys, ?_, ?_⟩
  · simp only [rejectWith, reloadOf_append, hreload, Option.or_none]
  · intro r hr
    simp only [rejectWith, Option.map_eq_some_iff] at hr
    obtain ⟨u, hu, rfl⟩ := hr
    refine ⟨rfl, fun hfx => ?_⟩
    obtain ⟨banned, hcalls, hadm⟩ := honce (by rw [hu]; rfl)
    exact ⟨banned, by simp only [rejectWith, admissionCalls_append, hfx, hcalls, List.nil_append],
      hadm⟩

end

/-- The user and the algorithm are right, so that the keys decide. -/
def AsksKeys (app : AppState p) (ssh : SshKey K) (user : String) (publicKey : K) : Prop :=
  user = app.daemonUsername ∧ isUserKeyAlgorithmAllowed (ssh.algorithm publicKey) = true

theorem isUserKeyAlgorithmAllowed_iff {a : Algorithm} :
    isUserKeyAlgorithmAllowed a = true ↔ a = .ed25519 ∨ a = .skEd25519 := by
  cases a <;> simp [isUserKeyAlgorithmAllowed]

/-- **A request that does not get to the keys** is rejected, and recorded once. -/
theorem authorizeKey_of_not_asks {user : String} (h : ¬ app.AsksKeys ssh user publicKey)
    (peer : SocketAddr) (input : CallInput p) :
    let o := app.authorizeKey ssh (some peer) user publicKey input
    o.app.daemonUsername = app.daemonUsername ∧ o.app.authorizedKeys = app.authorizedKeys ∧
      reloadOf o.effects = none ∧
      ∀ r, o.result = some r → r = .ok .reject ∧
        RecordedOnce app o.app peer input.failureNow o.effects := by
  unfold authorizeKey
  by_cases huser : user = app.daemonUsername
  · have halg : isUserKeyAlgorithmAllowed (ssh.algorithm publicKey) = false := by
      by_contra hne
      exact h ⟨huser, by simpa using hne⟩
    simp only [loginUserMatchesDaemon, huser, beq_self_eq_true, Bool.not_true, Bool.false_eq_true,
      if_false, halg, Bool.not_false, if_true]
    obtain ⟨h1, h2, h3, h4⟩ := app.rejectWith_spec peer "auth-reject-key-algorithm"
      ("unsupported public key algorithm " ++ ssh.algorithmDebug (ssh.algorithm publicKey))
      input.failureNow []
    exact ⟨h1, h2, h3, fun r hr => ⟨(h4 r hr).1, (h4 r hr).2 rfl⟩⟩
  · have hne : loginUserMatchesDaemon user app.daemonUsername = false := by
      simpa [loginUserMatchesDaemon] using huser
    simp only [hne, Bool.not_false, if_true]
    obtain ⟨h1, h2, h3, h4⟩ := app.rejectWith_spec peer "auth-reject-username"
      "requested login user is not permitted" input.failureNow []
    exact ⟨h1, h2, h3, fun r hr => ⟨(h4 r hr).1, (h4 r hr).2 rfl⟩⟩

/-- The reload event of a refresh that returned one. -/
def reloadEvent : Option (Except AnyError (Option AuthorizedKeysReloadEvent)) →
    Option AuthorizedKeysReloadEvent
  | some (.ok event) => event
  | _ => none

theorem isAuthorized_spec (app : AppState p) (ssh : SshKey K) (publicKey : K)
    (input : CallInput p) :
    let r := app.authorizedKeys.refreshIfDue ssh input.view input.refreshNow
    let o := app.isAuthorized ssh publicKey input
    o.app = { app with authorizedKeys := r.2 } ∧ admissionCalls o.effects = [] ∧
      reloadOf o.effects = reloadEvent r.1 ∧
      ∀ b, o.result = some (.ok b) → r.2.contains ssh publicKey = some (.ok b) := by
  simp only [isAuthorized]
  cases app.authorizedKeys.refreshIfDue ssh input.view input.refreshNow with
  | mk result store =>
      cases result with
      | none => exact ⟨rfl, rfl, rfl, fun b hb => by cases hb⟩
      | some result =>
          cases result with
          | error err => exact ⟨rfl, rfl, rfl, fun b hb => by cases hb⟩
          | ok event =>
              exact ⟨rfl, admissionCalls_reload event, reloadOf_reload event, fun b hb => hb⟩

/-- **A request that gets to the keys** is decided by the refreshed cache. -/
theorem authorizeKey_of_asks {user : String} (h : app.AsksKeys ssh user publicKey)
    (peer : SocketAddr) (input : CallInput p) :
    let r := app.authorizedKeys.refreshIfDue ssh input.view input.refreshNow
    let o := app.authorizeKey ssh (some peer) user publicKey input
    o.app.daemonUsername = app.daemonUsername ∧ o.app.authorizedKeys = r.2 ∧
      reloadOf o.effects = reloadEvent r.1 ∧
      ∀ d, o.result = some (.ok d) →
        (d = .accept ∧ r.2.contains ssh publicKey = some (.ok true) ∧
          admissionCalls o.effects = [] ∧ o.app.admission = app.admission) ∨
        (d = .reject ∧ r.2.contains ssh publicKey = some (.ok false) ∧
          RecordedOnce app o.app peer input.failureNow o.effects) := by
  obtain ⟨happ, hcalls, hreload, hresult⟩ := app.isAuthorized_spec ssh publicKey input
  have huser : loginUserMatchesDaemon user app.daemonUsername = true := by
    simpa [loginUserMatchesDaemon] using h.1
  unfold authorizeKey
  simp only [huser, h.2, Bool.not_true, Bool.false_eq_true, if_false]
  cases hr : (app.isAuthorized ssh publicKey input).result with
  | none =>
      refine ⟨by rw [happ], by rw [happ], hreload, ?_⟩
      intro d hd
      cases hd
  | some result =>
      cases result with
      | error err =>
          refine ⟨by rw [happ], by rw [happ], hreload, ?_⟩
          intro d hd
          cases hd
      | ok b =>
          have hcontains := hresult b hr
          cases b with
          | true =>
              refine ⟨by simp only [happ], by simp only [happ], ?_, ?_⟩
              · simp only [reloadOf_append, hreload]
                exact Option.or_none
              · intro d hd
                cases hd
                refine Or.inl ⟨rfl, hcontains, ?_, by simp only [happ]⟩
                simp only [admissionCalls_append, hcalls]
                rfl
          | false =>
              obtain ⟨h1, h2, h3, h4⟩ := (app.isAuthorized ssh publicKey input).app.rejectWith_spec
                peer "auth-reject-unknown-key" "public key not present in authorized_keys cache"
                input.failureNow (app.isAuthorized ssh publicKey input).effects
              refine ⟨h1.trans (by rw [happ]), h2.trans (by rw [happ]), h3.trans hreload, ?_⟩
              intro d hd
              obtain ⟨hrej, honce⟩ := h4 _ hd
              cases hrej
              obtain ⟨banned, hb, hadm⟩ := honce hcalls
              refine Or.inr ⟨rfl, hcontains, banned, hb, ?_⟩
              have hsame : (app.isAuthorized ssh publicKey input).app.admission =
                app.admission := by
                rw [happ]
              rw [hsame] at hadm
              exact hadm

end AppState

/-! ## Runs -/

inductive AuthEvent (K : Type) (p : Platform)
  | refreshIfDue (view : PathView) (now : Instant p)
      (result : Option (Except AnyError (Option AuthorizedKeysReloadEvent)))
  | authorizeKey (peer : SocketAddr) (user : String) (publicKey : K) (input : CallInput p)
      (result : Option (Except AnyError Auth)) (effects : List Effect)
  | connections

/-- The calls, also those that panic. The admission state is shared with the rest of the daemon,
which can change it in any way between them. -/
inductive AuthStep (ssh : SshKey K) : AppState p → AuthEvent K p → AppState p → Prop
  | refreshIfDue (app : AppState p) (view : PathView) (now : Instant p) :
      AuthStep ssh app
        (.refreshIfDue view now (app.authorizedKeys.refreshIfDue ssh view now).1)
        { app with authorizedKeys := (app.authorizedKeys.refreshIfDue ssh view now).2 }
  | authorizeKey (app : AppState p) (peer : SocketAddr) (user : String) (publicKey : K)
      (input : CallInput p) :
      AuthStep ssh app
        (.authorizeKey peer user publicKey input
          (app.authorizeKey ssh (some peer) user publicKey input).result
          (app.authorizeKey ssh (some peer) user publicKey input).effects)
        (app.authorizeKey ssh (some peer) user publicKey input).app
  | connections (app : AppState p) (admission : AdmissionController p) :
      AuthStep ssh app .connections { app with admission := admission }

/-- The daemon starts with the keys it could load, or with none when there is no file. -/
def IsBooted (ssh : SshKey K) (start : Option PathView) (daemonUsername : String)
    (app : AppState p) : Prop :=
  app.daemonUsername = daemonUsername ∧
    ∃ path maxSize maxEntries interval now,
      match start with
      | some view => AuthorizedKeysStore.load ssh view path maxSize maxEntries interval now
          = some (.ok app.authorizedKeys)
      | none => AuthorizedKeysStore.emptyMissing path maxSize maxEntries interval now
          = some app.authorizedKeys

/-- The text of a reload that succeeded. -/
def reloadedText (view : PathView) : Option AuthorizedKeysReloadEvent → Option String
  | some (.loaded _ _) => view.readToString.toOption
  | _ => none

/-- The text that a call loaded. -/
def textLoaded : AuthEvent K p → Option String
  | .refreshIfDue view _ result => reloadedText view (AppState.reloadEvent result)
  | .authorizeKey _ _ _ input _ effects => reloadedText input.view (reloadOf effects)
  | .connections => none

/-- The texts loaded so far, newest first. -/
def loadedTexts (start : Option PathView) (h : List (AuthEvent K p)) : List String :=
  h.filterMap textLoaded ++ (start.bind fun view => view.readToString.toOption).toList

theorem loadedTexts_cons (start : Option PathView) (e : AuthEvent K p)
    (h : List (AuthEvent K p)) :
    loadedTexts start (e :: h) = (textLoaded e).toList ++ loadedTexts start h := by
  unfold loadedTexts
  cases he : textLoaded e with
  | none => rw [List.filterMap_cons_none he]; rfl
  | some text => rw [List.filterMap_cons_some he]; rfl

/-! ## The cache is that of the newest text -/

/-- The keys are those of the newest of the texts, and the generation is their number. -/
structure KeysInv (ssh : SshKey K) (texts : List String) (s : AuthorizedKeysState p) : Prop where
  cache : match texts.head? with
    | some text => AuthorizedKeysCache.fromText ssh text s.maxEntries = .ok s.cache
    | none => s.cache = .empty
  generation : s.generation = min texts.length u64Max

/-- The same for the store; a poisoned one answers no more. -/
def StoreInv (ssh : SshKey K) (texts : List String) (store : AuthorizedKeysStore p) : Prop :=
  ∀ s, store = .healthy s → KeysInv ssh texts s

variable {s s' : AuthorizedKeysState p} {view : PathView} {now : Instant p}
  {store : AuthorizedKeysStore p} {e : AuthEvent K p} {app' : AppState p}

section

variable {ssh : SshKey K} {texts : List String}

/-- A refresh adds the text it loads. -/
theorem KeysInv.refreshIfDue {r : Except AnyError (Option AuthorizedKeysReloadEvent)}
    (hi : KeysInv ssh texts s) (h : s.refreshIfDue ssh view now = some (r, s')) :
    KeysInv ssh ((reloadedText view (AppState.reloadEvent (some r))).toList ++ texts) s' := by
  have hr := AuthorizedKeysState.refreshIfDue_refreshed h
  have hmax := hr.maxEntries_eq
  rcases hr.loaded_or_kept with ⟨text, ignored, hread, htext, hgen, rfl⟩ | ⟨hno, hcache, hgen⟩
  · have hloaded : (reloadedText view (AppState.reloadEvent
        (some (.ok (some (.loaded s'.generation ignored)))))).toList = [text] := by
      simp only [AppState.reloadEvent, reloadedText, hread]
      rfl
    rw [hloaded]
    refine ⟨by rw [hmax]; exact htext, ?_⟩
    have hlen : ([text] ++ texts).length = texts.length + 1 := rfl
    rw [hgen, hi.generation, hlen]
    omega
  · have hnone : (reloadedText view (AppState.reloadEvent (some r))).toList = [] := by
      rcases r with err | event
      · rfl
      · rcases event with _ | event
        · rfl
        · cases event with
          | loaded generation ignored => exact absurd rfl (hno generation ignored)
          | missing => rfl
          | failed message => rfl
    rw [hnone]
    have hc := hi.cache
    rw [← hmax, ← hcache] at hc
    exact ⟨hc, hgen.trans hi.generation⟩

theorem StoreInv.refreshIfDue (hi : StoreInv ssh texts store) (view : PathView) (now : Instant p) :
    StoreInv ssh ((reloadedText view
        (AppState.reloadEvent (store.refreshIfDue ssh view now).1)).toList ++ texts)
      (store.refreshIfDue ssh view now).2 := by
  intro s' hs'
  obtain ⟨s, r, rfl, hf⟩ := Lock.exists_of_healthy_after hs'
  have hresult : (AuthorizedKeysStore.refreshIfDue (.healthy s) ssh view now).1 = some r := by
    rw [AuthorizedKeysStore.refreshIfDue, Lock.withLock_healthy, hf]
  rw [hresult]
  exact (hi s rfl).refreshIfDue hf

/-- **One call** adds the text it loads, whichever way it goes. -/
theorem StoreInv.step (hi : StoreInv ssh texts app.authorizedKeys) (hs : AuthStep ssh app e app') :
    StoreInv ssh ((textLoaded e).toList ++ texts) app'.authorizedKeys := by
  cases hs with
  | refreshIfDue view now => exact hi.refreshIfDue view now
  | authorizeKey peer user publicKey input =>
      simp only [textLoaded]
      by_cases hasks : app.AsksKeys ssh user publicKey
      · obtain ⟨-, hkeys, hreload, -⟩ := AppState.authorizeKey_of_asks hasks peer input
        rw [hkeys, hreload]
        exact hi.refreshIfDue input.view input.refreshNow
      · obtain ⟨-, hkeys, hreload, -⟩ := AppState.authorizeKey_of_not_asks hasks peer input
        rw [hkeys, hreload]
        exact hi
  | connections admission => exact hi

end

theorem AuthStep.daemonUsername (hs : AuthStep ssh app e app') :
    app'.daemonUsername = app.daemonUsername := by
  cases hs with
  | refreshIfDue view now => rfl
  | authorizeKey peer user publicKey input =>
      by_cases hasks : app.AsksKeys ssh user publicKey
      · exact (AppState.authorizeKey_of_asks hasks peer input).1
      · exact (AppState.authorizeKey_of_not_asks hasks peer input).1
  | connections admission => rfl

variable {start : Option PathView}

theorem IsBooted.storeInv {daemonUsername : String} (h : IsBooted ssh start daemonUsername app) :
    StoreInv ssh (loadedTexts start ([] : List (AuthEvent K p))) app.authorizedKeys := by
  obtain ⟨-, path, maxSize, maxEntries, interval, now, h⟩ := h
  intro s hs
  cases start with
  | none =>
      simp only [AuthorizedKeysStore.emptyMissing, hs, Option.map_eq_some_iff] at h
      obtain ⟨s₀, hs₀, heq⟩ := h
      cases heq
      obtain ⟨-, hcache, hgen, -⟩ := AuthorizedKeysState.missing_eq_some hs₀
      exact ⟨hcache, hgen⟩
  | some view =>
      simp only [AuthorizedKeysStore.load, hs] at h
      cases hload : AuthorizedKeysCache.load ssh view path maxSize maxEntries with
      | error err => simp [hload] at h
      | ok loaded =>
          obtain ⟨cache, fingerprint⟩ := loaded
          simp only [hload, Option.map_eq_some_iff] at h
          obtain ⟨s₀, hs₀, heq⟩ := h
          cases heq
          obtain ⟨hmax, hcache, hgen, -⟩ := AuthorizedKeysState.loaded_eq_some hs₀
          obtain ⟨-, metadata, text, -, -, hread, htext, -⟩ :=
            AuthorizedKeysCache.load_eq_ok_iff.mp hload
          have htexts : loadedTexts (some view) ([] : List (AuthEvent K p)) = [text] := by
            simp only [loadedTexts, List.filterMap_nil, Option.bind_some, hread]
            rfl
          rw [htexts]
          refine ⟨?_, hgen⟩
          rw [← hcache, ← hmax] at htext
          exact htext

/-- `AuthRun ssh start daemonUsername h app`: the calls `h` since the daemon started. -/
def AuthRun (ssh : SshKey K) (start : Option PathView) (daemonUsername : String) :
    List (AuthEvent K p) → AppState p → Prop :=
  Run (IsBooted ssh start daemonUsername) (AuthStep ssh)

theorem AuthRun.storeInv {daemonUsername : String} {h : List (AuthEvent K p)}
    (hr : AuthRun ssh start daemonUsername h app) :
    app.daemonUsername = daemonUsername ∧
      StoreInv ssh (loadedTexts start h) app.authorizedKeys := by
  refine hr.invariant (P := fun h app => app.daemonUsername = daemonUsername ∧
    StoreInv ssh (loadedTexts start h) app.authorizedKeys) ?_ ?_
  · intro app hb
    exact ⟨hb.1, hb.storeInv⟩
  · rintro h app e app' - ⟨hname, hi⟩ hs
    rw [loadedTexts_cons]
    exact ⟨hs.daemonUsername.trans hname, hi.step hs⟩

/-! ## The decisions -/

/-- The text has a plain entry whose key serializes as `publicKey` does. -/
def ListsKey (ssh : SshKey K) (text : String) (publicKey : K) : Prop :=
  ∃ entry bytes, .ok entry ∈ ssh.authorizedKeys text ∧ entry.isPlain = true ∧
    ssh.toBytes entry.publicKey = .ok bytes ∧ ssh.toBytes publicKey = .ok bytes

/-- Membership in the cache is membership in the newest text. -/
theorem StoreInv.contains_iff {texts : List String} (hi : StoreInv ssh texts store) {b : Bool}
    (h : store.contains ssh publicKey = some (.ok b)) :
    b = true ↔ ∃ text, texts.head? = some text ∧ ListsKey ssh text publicKey := by
  cases store with
  | poisoned => cases h
  | healthy s =>
      have hc := (hi s rfl).cache
      simp only [AuthorizedKeysStore.contains, Lock.state?_healthy, Option.map_some,
        Option.some.injEq, AuthorizedKeysCache.contains] at h
      cases hb : ssh.toBytes publicKey with
      | error err => simp [hb] at h
      | ok bytes =>
          simp only [hb, Except.ok.injEq] at h
          rw [← h, decide_eq_true_eq]
          cases htexts : texts.head? with
          | none =>
              rw [htexts] at hc
              simp only [hc, AuthorizedKeysCache.empty]
              simp
          | some text =>
              rw [htexts] at hc
              rw [AuthorizedKeysCache.mem_acceptedKeys_of_fromText hc]
              constructor
              · rintro ⟨entry, hmem, hplain, hkey⟩
                exact ⟨text, rfl, entry, bytes, hmem, hplain, hkey, hb⟩
              · rintro ⟨text', htext', entry, bytes', hmem, hplain, hkey, hb'⟩
                cases htext'
                rw [hb] at hb'
                cases hb'
                exact ⟨entry, hmem, hplain, hkey⟩

/-- A refresh that loads nothing keeps the cache and the generation. -/
theorem refreshIfDue_keeps (hs : store = .healthy s)
    (hs' : (store.refreshIfDue ssh view now).2 = .healthy s')
    (hno : reloadedText view (AppState.reloadEvent (store.refreshIfDue ssh view now).1) = none) :
    s'.cache = s.cache ∧ s'.generation = s.generation := by
  subst hs
  obtain ⟨s₀, r, hs₀, hf⟩ := Lock.exists_of_healthy_after hs'
  cases hs₀
  rcases (AuthorizedKeysState.refreshIfDue_refreshed hf).loaded_or_kept with
    ⟨text, ignored, hread, -, -, rfl⟩ | ⟨-, hkept⟩
  · rw [AuthorizedKeysStore.refreshIfDue, Lock.withLock_healthy, hf] at hno
    simp only [AppState.reloadEvent, reloadedText, hread] at hno
    cases hno
  · exact hkept

theorem AuthStep.keeps (hstep : AuthStep ssh app e app') (hno : textLoaded e = none)
    (hs : app.authorizedKeys = .healthy s) (hs' : app'.authorizedKeys = .healthy s') :
    s'.cache = s.cache ∧ s'.generation = s.generation := by
  cases hstep with
  | refreshIfDue view now => exact refreshIfDue_keeps hs hs' hno
  | authorizeKey peer user publicKey input =>
      simp only [textLoaded] at hno
      by_cases hasks : app.AsksKeys ssh user publicKey
      · obtain ⟨-, hkeys, hreload, -⟩ := AppState.authorizeKey_of_asks hasks peer input
        rw [hkeys] at hs'
        rw [hreload] at hno
        exact refreshIfDue_keeps hs hs' hno
      · obtain ⟨-, hkeys, -⟩ := AppState.authorizeKey_of_not_asks hasks peer input
        rw [hkeys, hs] at hs'
        cases hs'
        exact ⟨rfl, rfl⟩
  | connections admission =>
      rw [show _ = Lock.healthy s from hs] at hs'
      cases hs'
      exact ⟨rfl, rfl⟩

/-- **Authentication follows the last load.** In every run, the generation is the number of
successful loads, as far as `u64` can count; calls that load nothing change neither the cache nor
the generation; a key is accepted if and only if the user is the daemon's, the algorithm is one
of the two, and the newest loaded text lists the key; a rejection is recorded once with the
admission controller, an acceptance never. -/
theorem auth_follows_last_load {ssh : SshKey K} {start : Option PathView}
    {daemonUsername : String} {h : List (AuthEvent K p)} {app : AppState p}
    (hr : AuthRun ssh start daemonUsername h app) :
    (∀ s, app.authorizedKeys = .healthy s →
      s.generation = min (loadedTexts start h).length u64Max) ∧
    (∀ e app' s s', AuthStep ssh app e app' → textLoaded e = none →
      app.authorizedKeys = .healthy s → app'.authorizedKeys = .healthy s' →
      s'.cache = s.cache ∧ s'.generation = s.generation) ∧
    ∀ peer user publicKey input decision effects app',
      AuthStep ssh app
        (.authorizeKey peer user publicKey input (some (.ok decision)) effects) app' →
      (decision = .accept ↔ user = daemonUsername ∧
        (ssh.algorithm publicKey = .ed25519 ∨ ssh.algorithm publicKey = .skEd25519) ∧
        ∃ text, (loadedTexts start
            (.authorizeKey peer user publicKey input (some (.ok decision)) effects :: h)).head?
              = some text ∧ ListsKey ssh text publicKey) ∧
      (decision = .reject → AppState.RecordedOnce app app' peer input.failureNow effects) ∧
      (decision = .accept → admissionCalls effects = [] ∧ app'.admission = app.admission) := by
  obtain ⟨hname, hi⟩ := hr.storeInv
  refine ⟨fun s hs => (hi s hs).generation, fun e app' s s' hstep hno hs hs' =>
    hstep.keeps hno hs hs', ?_⟩
  intro peer user publicKey input decision effects app' hstep
  have hi' := hi.step hstep
  rw [← loadedTexts_cons] at hi'
  -- the event fixes the result and the effects of the call
  generalize he : AuthEvent.authorizeKey peer user publicKey input (some (.ok decision)) effects = e
    at hstep hi' ⊢
  cases hstep with
  | refreshIfDue view now => cases he
  | connections admission => cases he
  | authorizeKey peer' user' publicKey' input' =>
      simp only [AuthEvent.authorizeKey.injEq] at he
      obtain ⟨rfl, rfl, rfl, rfl, hresult, rfl⟩ := he
      rw [← AppState.isUserKeyAlgorithmAllowed_iff, ← hname]
      by_cases hasks : app.AsksKeys ssh user publicKey
      · obtain ⟨-, hkeys, -, hdec⟩ := AppState.authorizeKey_of_asks hasks peer input
        rw [hkeys] at hi'
        rcases hdec decision hresult.symm with ⟨rfl, hc, hcalls, hadm⟩ | ⟨rfl, hc, honce⟩
        · have hlists := (hi'.contains_iff hc).mp rfl
          exact ⟨⟨fun _ => ⟨hasks.1, hasks.2, hlists⟩, fun _ => rfl⟩, (fun hd => by cases hd),
            fun _ => ⟨hcalls, hadm⟩⟩
        · have hlists := (hi'.contains_iff hc).not.mp (by simp)
          exact ⟨⟨(fun hd => by cases hd), fun hd => absurd hd.2.2 hlists⟩, fun _ => honce,
            (fun hd => by cases hd)⟩
      · obtain ⟨-, -, -, hdec⟩ := AppState.authorizeKey_of_not_asks hasks peer input
        obtain ⟨hd, honce⟩ := hdec _ hresult.symm
        cases hd
        exact ⟨⟨(fun hd => by cases hd), fun hd => absurd ⟨hd.1, hd.2.1⟩ hasks⟩, fun _ => honce,
          (fun hd => by cases hd)⟩

/-- A daemon that has loaded the first sample key, for the user of the sample. -/
def sampleApp : AppState .linux :=
  { daemonUsername := "user"
    authorizedKeys := .healthy plainLoaded
    admission := .new testConfig (.zero .linux) }

def sampleView : PathView := viewOf (some plainVersion) Faults.none

theorem isBooted_sampleApp : IsBooted sampleSsh (some sampleView) "user" sampleApp := by
  refine ⟨rfl, "authorized_keys", 1024, 8, 0, .zero .linux, ?_⟩
  have hload : AuthorizedKeysCache.load sampleSsh sampleView "authorized_keys" 1024 8
      = .ok (SampleKey.plain.cache, plainVersion.fingerprint) :=
    load_viewOf_eq_ok_iff.mpr ⟨⟨rfl, rfl, rfl⟩, rfl, rfl⟩
  simp only [AuthorizedKeysStore.load, hload]
  rfl

/-- The loaded key is accepted, and listed in the text that was loaded. -/
theorem auth_follows_last_load_sample :
    (sampleApp.authorizeKey sampleSsh (some ⟨testPeer, 22⟩) "user" .plain
      ⟨sampleView, .zero .linux, .zero .linux⟩).result = some (.ok .accept) ∧
    ∃ text, some plainEd25519Key = some text ∧ ListsKey sampleSsh text .plain := by
  have hrun : AuthRun sampleSsh (some sampleView) "user" [] sampleApp := .nil isBooted_sampleApp
  have hstep : AuthStep sampleSsh sampleApp _ _ :=
    .authorizeKey sampleApp ⟨testPeer, 22⟩ "user" .plain ⟨sampleView, .zero .linux, .zero .linux⟩
  exact ⟨rfl, (((auth_follows_last_load hrun).2.2 _ _ _ _ .accept _ _ hstep).1.mp rfl).2.2⟩

/-! ## Answers from the last cache -/

/-- The `stat` succeeds, or says that there is no file. -/
def StatAnswers (view : PathView) : Prop := ∀ err, view.stat = .error err → err.kind = .notFound

theorem fromPath_isOk_iff {path : String} :
    (∃ current, AuthorizedKeysFingerprint.fromPath view path = .ok current) ↔ StatAnswers view := by
  unfold AuthorizedKeysFingerprint.fromPath StatAnswers
  cases view.stat with
  | ok metadata => simp
  | error err =>
      by_cases hkind : err.kind = .notFound
      · simp [hkind]
      · simp [hkind]

/-- A refresh returns without an error exactly if it is not due, or if it is and the `stat` answers
and the next check is still on the clock. -/
theorem refreshIfDue_ok_iff :
    (∃ event s', s.refreshIfDue ssh view now = some (.ok event, s')) ↔
      (s.nextReloadCheckAt ≤ now →
        StatAnswers view ∧ now.ns + s.reloadInterval ≤ p.instantMax) := by
  constructor
  · rintro ⟨event, s', h⟩ hdue
    have hclock : now.ns + s.reloadInterval ≤ p.instantMax := by
      by_contra hover
      rw [AuthorizedKeysState.refreshIfDue_eq_none_iff.mpr ⟨hdue, not_le.mp hover⟩] at h
      cases h
    refine ⟨?_, hclock⟩
    cases AuthorizedKeysState.refreshIfDue_refreshed h with
    | notDue hnow => exact absurd hdue (not_le.mpr hnow)
    | skipped _ _ hstat _ => exact fromPath_isOk_iff.mp ⟨_, hstat⟩
    | loaded _ _ hstat _ _ _ => exact fromPath_isOk_iff.mp ⟨_, hstat⟩
    | missing _ _ hstat _ _ _ => exact fromPath_isOk_iff.mp ⟨_, hstat⟩
    | failed _ _ hstat _ _ _ _ => exact fromPath_isOk_iff.mp ⟨_, hstat⟩
  · intro hgood
    cases hr : s.refreshIfDue ssh view now with
    | none =>
        obtain ⟨hdue, hover⟩ := AuthorizedKeysState.refreshIfDue_eq_none_iff.mp hr
        exact absurd (hgood hdue).2 (not_le.mpr hover)
    | some r =>
        obtain ⟨result, s'⟩ := r
        cases result with
        | ok event => exact ⟨event, s', rfl⟩
        | error err =>
            -- only the `stat` returns an error
            cases AuthorizedKeysState.refreshIfDue_refreshed hr with
            | statFailed hnow _ hstat =>
                obtain ⟨current, hok⟩ := fromPath_isOk_iff.mpr (hgood hnow).1
                rw [hok] at hstat
                cases hstat

/-- The call answers whether the newest of the loaded texts lists the key, be it loaded by this call
or before. -/
def AnswersFromLastLoad (ssh : SshKey K) (start : Option PathView) (h : List (AuthEvent K p))
    (app : AppState p) (publicKey : K) (input : CallInput p) : Prop :=
  let o := app.isAuthorized ssh publicKey input
  ∃ b, o.result = some (.ok b) ∧
    (b = true ↔ ∃ text,
      ((reloadedText input.view (reloadOf o.effects)).toList ++ loadedTexts start h).head?
        = some text ∧ ListsKey ssh text publicKey)

/-- A key that serializes is looked up in any healthy store. -/
theorem contains_healthy {bytes : KeyBytes} (hkey : ssh.toBytes publicKey = .ok bytes)
    (s : AuthorizedKeysState p) :
    ∃ b, AuthorizedKeysStore.contains (.healthy s) ssh publicKey = some (.ok b) :=
  ⟨decide (bytes ∈ s.cache.acceptedKeys), by
    simp [AuthorizedKeysStore.contains, AuthorizedKeysCache.contains, hkey]⟩

/-- **When the last cache answers.** In every run after a successful load, and for every key that
serializes: a request gets the key's membership in the last cache that was loaded if and only if no
refresh has panicked and this one is not due, or its `stat` succeeds or finds no file and the next
check is still on the clock. Nothing else that the file system does matters. -/
theorem cache_answers_iff {ssh : SshKey K} {start : PathView} {daemonUsername : String}
    {h : List (AuthEvent K p)} {app : AppState p}
    (hr : AuthRun ssh (some start) daemonUsername h app) {publicKey : K} {bytes : KeyBytes}
    (hkey : ssh.toBytes publicKey = .ok bytes) (input : CallInput p) :
    AnswersFromLastLoad ssh (some start) h app publicKey input ↔
      ∃ s, app.authorizedKeys = .healthy s ∧
        (s.nextReloadCheckAt ≤ input.refreshNow →
          StatAnswers input.view ∧ input.refreshNow.ns + s.reloadInterval ≤ p.instantMax) := by
  constructor
  · rintro ⟨b, hb, -⟩
    unfold AppState.isAuthorized at hb
    split at hb
    · next event store hrefresh =>
        obtain ⟨s, s', hs, hf, -⟩ := Lock.withLock_eq_some hrefresh
        exact ⟨s, hs, refreshIfDue_ok_iff.mp ⟨event, s', hf⟩⟩
    · cases hb
    · cases hb
  · rintro ⟨s, hs, hgood⟩
    obtain ⟨-, hi⟩ := hr.storeInv
    have hi' := hi.refreshIfDue input.view input.refreshNow
    obtain ⟨-, -, hreload, -⟩ := app.isAuthorized_spec ssh publicKey input
    obtain ⟨event, s', hf⟩ : ∃ event s',
        s.refreshIfDue ssh input.view input.refreshNow = some (.ok event, s') :=
      refreshIfDue_ok_iff.mpr hgood
    have hrefresh : app.authorizedKeys.refreshIfDue ssh input.view input.refreshNow
        = (some (.ok event), .healthy s') := by
      rw [hs, AuthorizedKeysStore.refreshIfDue, Lock.withLock_healthy, hf]
    obtain ⟨b, hb⟩ := contains_healthy hkey s'
    refine ⟨b, ?_, ?_⟩
    · simp only [AppState.isAuthorized, hrefresh]
      exact hb
    · rw [hreload]
      rw [hrefresh] at hi' ⊢
      exact hi'.contains_iff hb

/-- The sample key is answered at a missing file. -/
theorem cache_answers_without_file :
    AnswersFromLastLoad sampleSsh (some sampleView) [] sampleApp .plain
      ⟨viewOf none Faults.none, .zero .linux, .zero .linux⟩ := by
  have hrun : AuthRun sampleSsh (some sampleView) "user" [] sampleApp := .nil isBooted_sampleApp
  have hkey : sampleSsh.toBytes .plain = .ok _ := rfl
  refine (cache_answers_iff hrun hkey _).mpr ⟨plainLoaded, rfl, fun _ => ⟨?_, by decide⟩⟩
  intro err herr
  cases herr
  rfl

def permissionDenied : IoError :=
  { kind := .permissionDenied, text := "Permission denied (os error 13)" }

/-- The sample file, after a directory above it was made unreadable. -/
def unreadableView : PathView :=
  viewOf (some plainVersion)
    { stat := some permissionDenied, openFile := some permissionDenied,
      fstat := some permissionDenied, read := some permissionDenied }

/-- **An unreadable directory makes authentication fail.** The key is in the cache, which was loaded
before; but the `stat` fails with something else than `NotFound`, and its error is returned, by
`is_authorized` and so by `authorize_key`. -/
theorem unreadable_directory_fails_authentication :
    AuthRun sampleSsh (some sampleView) "user" [] sampleApp ∧
      ListsKey sampleSsh plainEd25519Key .plain ∧
      (sampleApp.isAuthorized sampleSsh .plain ⟨unreadableView, .zero .linux, .zero .linux⟩).result
        = some (.error ⟨"failed to stat authorized_keys", ["Permission denied (os error 13)"]⟩) ∧
      (sampleApp.authorizeKey sampleSsh (some ⟨testPeer, 22⟩) "user" .plain
          ⟨unreadableView, .zero .linux, .zero .linux⟩).result
        = some (.error ⟨"failed to stat authorized_keys", ["Permission denied (os error 13)"]⟩) ∧
      ¬ AnswersFromLastLoad sampleSsh (some sampleView) [] sampleApp .plain
        ⟨unreadableView, .zero .linux, .zero .linux⟩ := by
  have hresult : (sampleApp.isAuthorized sampleSsh .plain
      ⟨unreadableView, .zero .linux, .zero .linux⟩).result
        = some (.error ⟨"failed to stat authorized_keys", ["Permission denied (os error 13)"]⟩) :=
          rfl
  refine ⟨.nil isBooted_sampleApp, ?_, hresult, rfl, ?_⟩
  · exact ⟨{ configOpts := "", publicKey := .plain }, SampleKey.plain.bytes, by simp [sampleSsh],
      rfl, rfl, rfl⟩
  · rintro ⟨b, hb, -⟩
    rw [hresult] at hb
    cases hb

/-! ## The generation at its limit -/

/-- The sample file, touched `n` times. -/
def touchedVersion (n : Nat) : FileVersion :=
  { modified := some (n + 1), contents := .text plainEd25519Key }

def touchedView (n : Nat) : PathView := viewOf (some (touchedVersion n)) Faults.none

/-- The keys after `n` reloads of the touched file. -/
def touchedKeys (n : Nat) : AuthorizedKeysState .linux :=
  { plainLoaded with
    generation := min (n + 1) u64Max
    observedFingerprint := (touchedVersion n).fingerprint }

/-- `n` refreshes, each after a touch. -/
def touches : Nat → List (AuthEvent SampleKey .linux)
  | 0 => []
  | n + 1 => .refreshIfDue (touchedView (n + 1)) (.zero .linux)
      (some (.ok (some (.loaded (min (n + 2) u64Max) 0)))) :: touches n

theorem touchedVersion_fingerprint_ne (n : Nat) :
    (touchedVersion (n + 1)).fingerprint ≠ (touchedVersion n).fingerprint := by
  intro h
  have hm := congrArg AuthorizedKeysFingerprint.modified h
  simp [touchedVersion, FileVersion.fingerprint, AuthorizedKeysFingerprint.fromMetadata,
    FileVersion.metadata] at hm

theorem refreshIfDue_touched (n : Nat) :
    (touchedKeys n).refreshIfDue sampleSsh (touchedView (n + 1)) (.zero .linux)
      = some (.ok (some (.loaded (min (n + 2) u64Max) 0)), touchedKeys (n + 1)) := by
  have hload : AuthorizedKeysCache.load sampleSsh (touchedView (n + 1)) "authorized_keys" 1024 8
      = .ok (SampleKey.plain.cache, (touchedVersion (n + 1)).fingerprint) :=
    load_viewOf_eq_ok_iff.mpr ⟨⟨rfl, rfl, rfl⟩, rfl, rfl⟩
  have hnext : (Instant.zero .linux).checkedAdd 0 = some (.zero .linux) := rfl
  have hstat : AuthorizedKeysFingerprint.fromPath (touchedView (n + 1)) "authorized_keys"
      = .ok (touchedVersion (n + 1)).fingerprint := rfl
  have hgen : min (min (n + 1) u64Max + 1) u64Max = min (n + 1 + 1) u64Max := by omega
  unfold AuthorizedKeysState.refreshIfDue AuthorizedKeysState.reload
  simp only [touchedKeys, plainLoaded, lt_irrefl, if_false, hnext, hstat, hload, hgen,
    touchedVersion_fingerprint_ne, reduceCtorEq]
  rfl

theorem touches_run (n : Nat) :
    AuthRun sampleSsh (some sampleView) "user" (touches n)
      { sampleApp with authorizedKeys := .healthy (touchedKeys n) } := by
  induction n with
  | zero => exact .nil isBooted_sampleApp
  | succ n ih =>
      have hstep : AuthStep sampleSsh
          { sampleApp with authorizedKeys := .healthy (touchedKeys n) } _ _ :=
        .refreshIfDue _ (touchedView (n + 1)) (.zero .linux)
      have hr : AuthorizedKeysStore.refreshIfDue (.healthy (touchedKeys n)) sampleSsh
          (touchedView (n + 1)) (.zero .linux)
          = (some (.ok (some (.loaded (min (n + 2) u64Max) 0))),
            .healthy (touchedKeys (n + 1))) := by
        unfold AuthorizedKeysStore.refreshIfDue
        rw [Lock.withLock_healthy, refreshIfDue_touched]
      simp only [hr] at hstep
      exact .cons ih hstep

theorem touches_loadedTexts (n : Nat) :
    (loadedTexts (some sampleView) (touches n)).length = n + 1 := by
  induction n with
  | zero => rfl
  | succ n ih =>
      rw [touches, loadedTexts_cons, List.length_append, ih]
      show 1 + (n + 1) = n + 1 + 1
      omega

/-- **The generation stops at `u64::MAX`**: one more load, and it is no longer their number. -/
theorem generation_saturates :
    ∃ (h : List (AuthEvent SampleKey .linux)) (app : AppState .linux)
      (s : AuthorizedKeysState .linux),
      AuthRun sampleSsh (some sampleView) "user" h app ∧ app.authorizedKeys = .healthy s ∧
        s.generation ≠ (loadedTexts (some sampleView) h).length := by
  refine ⟨touches u64Max, _, touchedKeys u64Max, touches_run u64Max, rfl, ?_⟩
  rw [touches_loadedTexts]
  show min (u64Max + 1) u64Max ≠ u64Max + 1
  omega

end Narrowd.Sshd
