import Narrowd.AuthorizedKeys.State
import Narrowd.Admission.Guards
import Narrowd.Admission.Clock
import Narrowd.Sshd.Preauth

set_option autoImplicit false

/-! # Configured durations and the ends of the clock

`parse_duration` takes any 64-bit number of seconds, and a number of minutes or hours that is too
large is cut down to the largest of these. The daemon adds such durations to the clock, and
subtracts one, without looking: at the end of the clock, or on Windows within the first minutes
after the boot, where the clock begins at zero, the sum is not an instant and the operation
panics. Where it held a lock, the lock is poisoned (`ban_duration_poisons_admission`).

`clock_safe_iff` gives the readings of the clock at which no operation panics.
-/

namespace Narrowd.Sshd

open Narrowd.Lib Narrowd.Config Narrowd.Admission Narrowd.AuthorizedKeys

variable {K : Type} {p : Platform}

/-! ## The states the operations run in -/

/-- The authorized-keys states of a daemon with this configuration. -/
inductive KeysReachable (ssh : SshKey K) (config : AppConfig) : AuthorizedKeysState p → Prop
  | loaded {s : AuthorizedKeysState p} {path : String} {cache : AuthorizedKeysCache}
      {fingerprint : AuthorizedKeysFingerprint} {now : Instant p}
      (h : AuthorizedKeysState.loaded path config.authorizedKeysMaxSize
        config.authorizedKeysMaxEntries config.authorizedKeysReloadInterval cache fingerprint now
        = some s) : KeysReachable ssh config s
  | missing {s : AuthorizedKeysState p} {path : String} {now : Instant p}
      (h : AuthorizedKeysState.missing path config.authorizedKeysMaxSize
        config.authorizedKeysMaxEntries config.authorizedKeysReloadInterval now = some s) :
      KeysReachable ssh config s
  | refresh {s s' : AuthorizedKeysState p} {view : PathView} {now : Instant p}
      {r : Except AnyError (Option AuthorizedKeysReloadEvent)} (hs : KeysReachable ssh config s)
      (h : s.refreshIfDue ssh view now = some (r, s')) : KeysReachable ssh config s'

/-- The streams of a daemon with this configuration. -/
inductive StreamReachable (config : AppConfig) : PreauthTimedStream p → Prop
  | accept {s : PreauthTimedStream p} {now : Instant p} (h : acceptConnection config now = some s) :
      StreamReachable config s
  | note {s s' : PreauthTimedStream p} {authenticated : Bool} {bytes : List UInt8}
      {now : Instant p} (hs : StreamReachable config s)
      (h : s.noteClientBytes authenticated bytes now = some s') : StreamReachable config s'

variable {config : AppConfig}

theorem KeysReachable.reloadInterval {ssh : SshKey K} {s : AuthorizedKeysState p}
    (h : KeysReachable ssh config s) : s.reloadInterval = config.authorizedKeysReloadInterval := by
  induction h with
  | loaded h =>
      obtain ⟨next, -, h⟩ := Option.bind_eq_some_iff.mp h
      cases h
      rfl
  | missing h =>
      obtain ⟨next, -, h⟩ := Option.bind_eq_some_iff.mp h
      cases h
      rfl
  | refresh hs h ih =>
      rw [← ih]
      cases AuthorizedKeysState.refreshIfDue_refreshed h <;> rfl

theorem StreamReachable.kexStartTimeout {s : PreauthTimedStream p} (h : StreamReachable config s) :
    s.kexStartTimeout = config.kexStartTimeout := by
  induction h with
  | accept h =>
      obtain ⟨deadline, -, h⟩ := Option.bind_eq_some_iff.mp h
      cases h
      rfl
  | note hs h ih => exact (PreauthTimedStream.noteClientBytes_kexStartTimeout h).trans ih

/-! ## When no operation panics -/

/-- At the clock reading `now`, no operation of a daemon with this configuration panics. -/
structure ClockSafe (ssh : SshKey K) (config : AppConfig) (now : Instant p) : Prop where
  tryAcquire : ∀ h s ip subnet, OpRun (AdmissionConfig.fromAppConfig config) h s →
    (s.tryAcquire ip subnet now).isSome
  recordAuthFailure : ∀ h s ip, OpRun (AdmissionConfig.fromAppConfig config) h s →
    (s.recordAuthFailure ip now).isSome
  release : ∀ h s ip subnet, OpRun (AdmissionConfig.fromAppConfig config) h s →
    (s.release ip subnet now).isSome
  emptyMissing : ∀ path, (AuthorizedKeysStore.emptyMissing path config.authorizedKeysMaxSize
    config.authorizedKeysMaxEntries config.authorizedKeysReloadInterval now).isSome
  load : ∀ view path, (AuthorizedKeysStore.load ssh view path config.authorizedKeysMaxSize
    config.authorizedKeysMaxEntries config.authorizedKeysReloadInterval now).isSome
  refreshIfDue : ∀ s view, KeysReachable ssh config s → (s.refreshIfDue ssh view now).isSome
  accept : (acceptConnection config now).isSome
  noteClientBytes : ∀ s authenticated bytes, StreamReachable config s →
    (s.noteClientBytes authenticated bytes now).isSome

/-- The failure window reaches back no further than the clock does, and the other durations from
`now` on end before it does. -/
structure ClockFits (config : AppConfig) (now : Instant p) : Prop where
  window : p.instantMin ≤ now.ns - config.authFailureBanWindow
  ban : now.ns + config.authFailureBanDuration ≤ p.instantMax
  reload : now.ns + config.authorizedKeysReloadInterval ≤ p.instantMax
  login : now.ns + config.loginGraceTime ≤ p.instantMax
  kex : now.ns + config.kexStartTimeout ≤ p.instantMax

theorem ClockFits.clockSafe {now : Instant p} (h : ClockFits config now) (ssh : SshKey K) :
    ClockSafe ssh config now where
  tryAcquire := by
    intro hist s ip subnet hr
    have hw : WindowFits s.config now := by
      rw [hr.config]
      exact h.window
    exact AdmissionState.tryAcquire_isSome hw ip subnet
  recordAuthFailure := by
    intro hist s ip hr
    have hw : WindowFits s.config now := by
      rw [hr.config]
      exact h.window
    have hb : BanFits s.config now := by
      rw [hr.config]
      exact h.ban
    exact AdmissionState.recordAuthFailure_isSome hw hb ip
  release := by
    intro hist s ip subnet hr
    have hw : WindowFits s.config now := by
      rw [hr.config]
      exact h.window
    exact AdmissionState.release_isSome hw ip subnet
  emptyMissing := by
    intro path
    obtain ⟨next, hnext⟩ := Option.isSome_iff_exists.mp (Instant.checkedAdd_isSome.mpr h.reload)
    simp [AuthorizedKeysStore.emptyMissing, AuthorizedKeysState.missing, hnext]
  load := by
    intro view path
    obtain ⟨next, hnext⟩ := Option.isSome_iff_exists.mp (Instant.checkedAdd_isSome.mpr h.reload)
    unfold AuthorizedKeysStore.load
    split
    · rfl
    · simp [AuthorizedKeysState.loaded, hnext]
  refreshIfDue := by
    intro s view hs
    by_contra hno
    rw [Option.not_isSome_iff_eq_none, AuthorizedKeysState.refreshIfDue_eq_none_iff,
      hs.reloadInterval] at hno
    exact absurd h.reload (not_le.mpr hno.2)
  accept := by
    obtain ⟨deadline, hdeadline⟩ := Option.isSome_iff_exists.mp
      (Instant.checkedAdd_isSome.mpr h.login)
    simp [acceptConnection, hdeadline]
  noteClientBytes := by
    intro s authenticated bytes hs
    exact PreauthTimedStream.noteClientBytes_isSome (by rw [hs.kexStartTimeout]; exact h.kex)
      authenticated bytes

theorem ClockSafe.clockFits {ssh : SshKey K} {now : Instant p} (h : ClockSafe ssh config now) :
    ClockFits config now where
  window := windowFits_of_recordAuthFailure testPeer
    (h.recordAuthFailure [] _ testPeer (.nil ⟨now, rfl⟩))
  ban := banFits_of_recordAuthFailure fun hist s hr => h.recordAuthFailure hist s testPeer hr
  reload := by
    obtain ⟨store, hstore⟩ := Option.isSome_iff_exists.mp (h.emptyMissing "")
    obtain ⟨s, hs, -⟩ := Option.map_eq_some_iff.mp hstore
    obtain ⟨next, hnext, -⟩ := Option.bind_eq_some_iff.mp hs
    exact Instant.checkedAdd_isSome.mp (by rw [hnext]; rfl)
  login := by
    obtain ⟨s, hs⟩ := Option.isSome_iff_exists.mp h.accept
    obtain ⟨deadline, hdeadline, -⟩ := Option.bind_eq_some_iff.mp hs
    exact Instant.checkedAdd_isSome.mp (by rw [hdeadline]; rfl)
  kex := by
    -- the newline of a connection that was just accepted
    obtain ⟨s, hs⟩ := Option.isSome_iff_exists.mp h.accept
    have hnote := h.noteClientBytes s false [10] (.accept hs)
    obtain ⟨deadline, -, hs⟩ := Option.bind_eq_some_iff.mp hs
    cases hs
    by_contra hno
    have hnone : now.checkedAdd config.kexStartTimeout = none := by
      rw [← Option.not_isSome_iff_eq_none, Instant.checkedAdd_isSome]
      exact hno
    simp [PreauthTimedStream.noteClientBytes, PreauthTimedStream.new,
      PreauthTimedStream.noteBanner, hnone] at hnote

/-- **The clock arithmetic**: no operation panics at a reading of the clock if and only if the
configured durations fit on the clock there. -/
theorem clock_safe_iff (ssh : SshKey K) (config : AppConfig) (now : Instant p) :
    ClockSafe ssh config now ↔ ClockFits config now :=
  ⟨fun h => h.clockFits, fun h => h.clockSafe ssh⟩

/-! ## A ban without an end -/

def sampleDirs : Dirs := { homeDir := some "/home/user".toList, configDir := none }

/-- The first failure bans, for the largest number of seconds there is. -/
def longBanFile : AppConfig.ConfigFile :=
  { text := "AuthFailureBanThreshold 1\nAuthFailureBanDuration 18446744073709551615\n".toList
    dir := "/home/user/.config/narrowd".toList }

/-- **A configuration that poisons the admission lock.** The file is accepted; the first
authentication failure panics in `now + auth_failure_ban_duration`, under the lock, and from then
on every connection attempt panics. -/
theorem ban_duration_poisons_admission :
    ∃ config, AppConfig.load .linux sampleDirs (some longBanFile) = .ok config ∧
      ¬ ClockSafe sampleSsh config (Instant.zero .linux) ∧
      ((AdmissionController.new (AdmissionConfig.fromAppConfig config) (Instant.zero .linux))
        |>.recordAuthFailureAt testPeer (.zero .linux)) = (none, .poisoned) ∧
      ∀ (ip : IpAddr) (now : Instant .linux),
        AdmissionController.tryAcquireAt .poisoned ip now = (none, .poisoned) := by
  refine ⟨_, rfl, ?_, rfl, fun _ _ => rfl⟩
  intro h
  exact absurd h.clockFits.ban (by decide)

end Narrowd.Sshd
