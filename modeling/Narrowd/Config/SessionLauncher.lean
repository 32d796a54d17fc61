import Narrowd.Config.LastSetting

set_option autoImplicit false

/-! # The configuration of the session launcher

On Windows, `narrowd-session-launcher` writes a default configuration file for the user, with the
paths of the user's profile in it, and reads it back.
-/

namespace Narrowd.SessionLauncher

open Config Lib

/-- The paths that `render_default_config` writes. -/
structure SessionPaths where
  hostKeyPath : PathBuf
  authorizedKeysPath : PathBuf
  shellPath : Text
  deriving DecidableEq, Repr

/-- The lines of `render_default_config`. -/
def defaultConfigLines (paths : SessionPaths) : List Text := [
  "# Generated by the narrowd MSIX session launcher.".toList,
  "# Edit this file to customize the session-scoped SSH daemon.".toList,
  "Port 2223".toList,
  "ListenAddress 0.0.0.0".toList,
  "".toList,
  "HostKey ".toList ++ paths.hostKeyPath,
  "AuthorizedKeysFile ".toList ++ paths.authorizedKeysPath,
  "".toList,
  "Shell ".toList ++ paths.shellPath,
  "ExecMode powershell".toList,
  "PermitTTY yes".toList,
  "PermitExec yes".toList,
  "".toList,
  "Subsystem sftp internal-sftp".toList,
  "AllowTcpForwarding yes".toList,
  "AllowRemoteForwarding yes".toList,
  "GatewayPorts yes".toList,
  "".toList,
  "# Public exposure hardening defaults".toList,
  "MaxUnauthConnectionsGlobal 16".toList,
  "MaxUnauthConnectionsPerIp 3".toList,
  "MaxUnauthConnectionsPerSubnet 8".toList,
  "NewConnectionsPerMinutePerIp 12".toList,
  "NewConnectionsBurstPerIp 4".toList,
  "LoginGraceTime 15s".toList,
  "ClientBannerTimeout 5s".toList,
  "KexStartTimeout 5s".toList,
  "MaxAuthAttempts 4".toList,
  "AuthRejectionTime 2s".toList,
  "AuthFailureBanThreshold 8".toList,
  "AuthFailureBanWindow 10m".toList,
  "AuthFailureBanDuration 15m".toList,
  "InactivityTimeout 15m".toList,
  "KeepaliveInterval 30s".toList,
  "KeepaliveMax 3".toList,
  "ChannelBufferSize 32".toList,
  "EventBufferSize 16".toList,
  "WindowSize 1048576".toList,
  "MaximumPacketSize 32768".toList,
  "NoDelay yes".toList,
  "AuthorizedKeysMaxSize 256KiB".toList,
  "AuthorizedKeysMaxEntries 128".toList,
  "AuthorizedKeysReloadInterval 2s".toList,
  "".toList,
  "LogLevel info".toList]

def renderDefaultConfig (paths : SessionPaths) : Text :=
  (defaultConfigLines paths).flatMap (· ++ ['\n'])

/-- The configuration that the rendered file is meant to say. -/
def renderedConfig (hostKey authorizedKeysFile shell : PathBuf) : AppConfig where
  listenAddress := "0.0.0.0".toList
  port := 2223
  hostKey := hostKey
  authorizedKeysFile := authorizedKeysFile
  shell := shell
  execMode := .powerShell
  permitTty := true
  permitExec := true
  sftpEnabled := true
  allowTcpForwarding := true
  allowRemoteForwarding := true
  gatewayPorts := true
  maxUnauthConnectionsGlobal := 16
  maxUnauthConnectionsPerIp := 3
  maxUnauthConnectionsPerSubnet := 8
  newConnectionsPerMinutePerIp := 12
  newConnectionsBurstPerIp := 4
  loginGraceTime := Duration.fromSecs 15
  clientBannerTimeout := Duration.fromSecs 5
  kexStartTimeout := Duration.fromSecs 5
  maxAuthAttempts := 4
  authRejectionTime := Duration.fromSecs 2
  authFailureBanThreshold := 8
  authFailureBanWindow := Duration.fromSecs (10 * 60)
  authFailureBanDuration := Duration.fromSecs (15 * 60)
  inactivityTimeout := Duration.fromSecs (15 * 60)
  keepaliveInterval := Duration.fromSecs 30
  keepaliveMax := 3
  channelBufferSize := 32
  eventBufferSize := 16
  windowSize := 1048576
  maximumPacketSize := 32768
  nodelay := true
  authorizedKeysMaxSize := 256 * 1024
  authorizedKeysMaxEntries := 128
  authorizedKeysReloadInterval := Duration.fromSecs 2
  logLevel := .info

/-! ## The lines of the file -/

theorem lines_flatMap {ls : List Text} (h : ∀ line ∈ ls, '\n' ∉ line) :
    Text.lines (ls.flatMap (· ++ ['\n'])) = ls.map Text.stripCarriageReturn := by
  have hsplit : (ls.flatMap (· ++ ['\n'])).splitOnP (· == '\n') = ls ++ [[]] := by
    induction ls with
    | nil => rfl
    | cons line rest ih =>
        have hline : line.splitOnP (· == '\n') = [line] :=
          List.splitOnP_eq_singleton fun c hc =>
            beq_eq_false_iff_ne.mpr fun hnl => h line List.mem_cons_self (hnl ▸ hc)
        rw [List.flatMap_cons, List.append_assoc, List.singleton_append,
          List.splitOnP_append_cons _ _ rfl, hline,
          ih fun l hl => h l (List.mem_cons_of_mem _ hl), List.cons_append, List.nil_append,
          List.cons_append]
  simp [Text.lines, hsplit]

theorem lineWords_stripCarriageReturn (line : Text) :
    lineWords (Text.stripCarriageReturn line) = lineWords line := by
  unfold Text.stripCarriageReturn
  split
  · rename_i hlast
    have hline : line.dropLast ++ ['\r'] = line := List.dropLast_append_getLast? _ hlast
    conv_rhs => rw [← hline]
    exact (lineWords_append_space _ fun c hc => by rw [List.mem_singleton.mp hc]; rfl).symm
  · rfl

/-- What the parser makes of a path that is written into the file. -/
def asRead (path : Text) : Text := Text.joinSpaces (lineWords path)

/-- What the lines of the file say, with the values of the three paths. -/
def renderedSettings (hostKey authorizedKeysFile shell : PathBuf) : List (Option Setting) := [
  none,
  none,
  some ⟨.port, (2223 : Nat)⟩,
  some ⟨.listenAddress, "0.0.0.0".toList⟩,
  none,
  some ⟨.hostKey, hostKey⟩,
  some ⟨.authorizedKeysFile, authorizedKeysFile⟩,
  none,
  some ⟨.shell, shell⟩,
  some ⟨.execMode, ExecMode.powerShell⟩,
  some ⟨.permitTty, true⟩,
  some ⟨.permitExec, true⟩,
  none,
  some ⟨.sftpEnabled, true⟩,
  some ⟨.allowTcpForwarding, true⟩,
  some ⟨.allowRemoteForwarding, true⟩,
  some ⟨.gatewayPorts, true⟩,
  none,
  none,
  some ⟨.maxUnauthConnectionsGlobal, (16 : Nat)⟩,
  some ⟨.maxUnauthConnectionsPerIp, (3 : Nat)⟩,
  some ⟨.maxUnauthConnectionsPerSubnet, (8 : Nat)⟩,
  some ⟨.newConnectionsPerMinutePerIp, (12 : Nat)⟩,
  some ⟨.newConnectionsBurstPerIp, (4 : Nat)⟩,
  some ⟨.loginGraceTime, Duration.fromSecs 15⟩,
  some ⟨.clientBannerTimeout, Duration.fromSecs 5⟩,
  some ⟨.kexStartTimeout, Duration.fromSecs 5⟩,
  some ⟨.maxAuthAttempts, (4 : Nat)⟩,
  some ⟨.authRejectionTime, Duration.fromSecs 2⟩,
  some ⟨.authFailureBanThreshold, (8 : Nat)⟩,
  some ⟨.authFailureBanWindow, Duration.fromSecs (10 * 60)⟩,
  some ⟨.authFailureBanDuration, Duration.fromSecs (15 * 60)⟩,
  some ⟨.inactivityTimeout, Duration.fromSecs (15 * 60)⟩,
  some ⟨.keepaliveInterval, Duration.fromSecs 30⟩,
  some ⟨.keepaliveMax, (3 : Nat)⟩,
  some ⟨.channelBufferSize, (32 : Nat)⟩,
  some ⟨.eventBufferSize, (16 : Nat)⟩,
  some ⟨.windowSize, (1048576 : Nat)⟩,
  some ⟨.maximumPacketSize, (32768 : Nat)⟩,
  some ⟨.nodelay, true⟩,
  some ⟨.authorizedKeysMaxSize, (256 * 1024 : Nat)⟩,
  some ⟨.authorizedKeysMaxEntries, (128 : Nat)⟩,
  some ⟨.authorizedKeysReloadInterval, Duration.fromSecs 2⟩,
  none,
  some ⟨.logLevel, LogLevel.info⟩]

/-- **The file governs every field.** -/
theorem foldl_renderedSettings (config : AppConfig) (hostKey authorizedKeysFile shell : PathBuf) :
    (renderedSettings hostKey authorizedKeysFile shell).foldl AppConfig.apply config =
      renderedConfig hostKey authorizedKeysFile shell := by
  refine foldl_apply_eq config ?_ fun f => by cases f <;> exact of_decide_eq_true rfl
  -- the fields are looked up first: the numbers are not to be computed with
  dsimp only [renderedSettings, List.map_cons, List.map_nil, Option.map_some, Option.map_none,
    AppConfig.get]
  rfl

variable {baseDir : PathBuf} {dirs : Dirs} {paths : SessionPaths}

theorem settings_rendered {hostKey authorizedKeysFile shell : PathBuf}
    (hhost : settingOf .windows dirs baseDir ("HostKey ".toList ++ paths.hostKeyPath) =
      some (some ⟨.hostKey, hostKey⟩)) (hkeys : settingOf .windows dirs baseDir
      ("AuthorizedKeysFile ".toList ++ paths.authorizedKeysPath) =
        some (some ⟨.authorizedKeysFile, authorizedKeysFile⟩))
    (hshell : settingOf .windows dirs baseDir ("Shell ".toList ++ paths.shellPath) =
      some (some ⟨.shell, shell⟩)) :
    (defaultConfigLines paths).map (settingOf .windows dirs baseDir) =
      (renderedSettings hostKey authorizedKeysFile shell).map some := by
  simp only [defaultConfigLines, renderedSettings, List.map_cons, hhost, hkeys, hshell]
  rfl

/-! ## The lines of the three paths -/

variable {path : PathBuf}

/-- An absolute path on Windows starts with a drive letter or a separator. -/
theorem head_of_isAbsolute (h : PathBuf.isAbsolute .windows path = true) :
    ∃ c rest, path = c :: rest ∧
      (c.isAlpha = true ∨ PathBuf.isSeparator .windows c = true) := by
  have hprefix : (PathBuf.parsePrefix .windows path).isSome := (Bool.and_eq_true_iff.mp h).2
  match path, hprefix with
  | [], hprefix => cases hprefix
  | [_], hprefix => cases hprefix
  | a :: b :: rest, hprefix =>
      refine ⟨a, b :: rest, rfl, ?_⟩
      unfold PathBuf.parsePrefix at hprefix
      dsimp only at hprefix
      split at hprefix
      · rename_i hsep
        exact .inr (Bool.and_eq_true_iff.mp hsep).1
      · split at hprefix
        · rename_i hdrive
          unfold PathBuf.isDrive at hdrive
          split at hdrive
          · rename_i heq
            cases heq
            exact .inl hdrive
          · cases hdrive
        · cases hprefix

/-- The character that an absolute path starts with stands for itself in the file. -/
theorem plain_of_head {c : Char}
    (h : c.isAlpha = true ∨ PathBuf.isSeparator .windows c = true) :
    Text.isWhitespace c = false ∧ c ≠ '#' ∧ c ≠ '~' := by
  have hsep : PathBuf.isSeparator .windows c = true → c = '/' ∨ c = '\\' := by
    simp [PathBuf.isSeparator]
  refine ⟨?_, ?_, ?_⟩
  · by_contra hws
    rw [Bool.not_eq_false] at hws
    rcases h with h | h
    · rw [isAlpha_eq_false_of_isWhitespace hws] at h
      cases h
    · rcases hsep h with rfl | rfl <;> cases hws
  · rintro rfl
    rcases h with h | h <;> cases h
  · rintro rfl
    rcases h with h | h <;> cases h

/-- What is read of an absolute path starts as the path does. -/
theorem lineWords_of_isAbsolute (h : PathBuf.isAbsolute .windows path = true) :
    ∃ c w ws, c ≠ '~' ∧ lineWords path = (c :: w) :: ws := by
  obtain ⟨c, rest, rfl, hc⟩ := head_of_isAbsolute h
  obtain ⟨hws, hhash, htilde⟩ := plain_of_head hc
  obtain ⟨w, ws, hwords⟩ := words_cons_of_not_sep hws (rest.takeWhile (· != '#'))
  refine ⟨c, w, ws, htilde, ?_⟩
  rw [lineWords, List.takeWhile_cons_of_pos (by simpa using hhash), hwords]

theorem asRead_of_isAbsolute (h : PathBuf.isAbsolute .windows path = true) :
    ∃ c rest, c ≠ '~' ∧ asRead path = c :: rest := by
  obtain ⟨c, w, ws, hc, hwords⟩ := lineWords_of_isAbsolute h
  unfold asRead Text.joinSpaces
  rw [hwords]
  cases ws with
  | nil => exact ⟨c, w, hc, by simp⟩
  | cons w' ws => exact ⟨c, _, hc, by simp [List.intercalate_cons_cons]; rfl⟩

theorem plain_of_all {name : Text}
    (h : name.all (fun c => c != '#' && !Text.isWhitespace c) = true) :
    ∀ c ∈ name, c ≠ '#' ∧ Text.isWhitespace c = false := by
  intro c hc
  simpa using List.all_eq_true.mp h c hc

/-- The words of a line that a name starts. -/
theorem lineWords_named {name : Text} (path : Text) (hne : name ≠ [])
    (hname : ∀ c ∈ name, c ≠ '#' ∧ Text.isWhitespace c = false) :
    lineWords (name ++ ' ' :: path) = name :: lineWords path := by
  have h : lineWords ([] ++ name ++ ' ' :: path) = name :: lineWords (' ' :: path) :=
    lineWords_name (by simp) hname hne (by simp; rfl)
  rw [List.nil_append] at h
  rw [h]
  exact congrArg _ (lineWords_space_append (s := [' ']) (by simp; rfl) path)

theorem expandHome_of_ne {c : Char} {rest : Text} (hc : c ≠ '~') :
    expandHome .windows dirs (c :: rest) = .ok (c :: rest) := by
  unfold expandHome
  rw [if_neg (by simp [hc]), if_neg (by simp [hc])]
  rfl

theorem join_nil (path : PathBuf) : PathBuf.join .windows [] path = path := by
  unfold PathBuf.join
  simp [PathBuf.parsePrefix]

/-- A path that is absolute, or read without a base directory, is taken as it is. -/
theorem resolve_self {c : Char} {rest : Text} (hc : c ≠ '~')
    (h : PathBuf.isAbsolute .windows (c :: rest) = true ∨ baseDir = []) :
    resolveConfigPath .windows dirs (c :: rest) baseDir = .ok (c :: rest) ∧
      resolveShellCommandOrPath .windows dirs (c :: rest) baseDir = .ok (c :: rest) := by
  unfold resolveConfigPath resolveShellCommandOrPath
  rw [expandHome_of_ne hc]
  rcases h with h | rfl
  · exact ⟨if_pos h, if_pos h⟩
  · have hjoin := join_nil (c :: rest)
    constructor
    · change (if _ then Except.ok _ else Except.ok _) = _
      rw [hjoin, ite_self]
    · change (if _ then Except.ok _ else if _ then Except.ok _ else Except.ok _) = _
      rw [hjoin, ite_self, ite_self]

/-- The paths that are written into the file. -/
def SessionPaths.written (paths : SessionPaths) : List Text :=
  [paths.hostKeyPath, paths.authorizedKeysPath, paths.shellPath]

theorem not_mem_defaultConfigLines (h : ∀ path ∈ paths.written, '\n' ∉ path) :
    ∀ line ∈ defaultConfigLines paths, '\n' ∉ line := by
  have hline : ∀ name : Text, '\n' ∉ name → ∀ path ∈ paths.written, '\n' ∉ name ++ path := by
    intro name hname path hpath hmem
    exact (List.mem_append.mp hmem).elim hname (h path hpath)
  simp only [defaultConfigLines, List.forall_mem_cons]
  and_intros
  all_goals first
    | decide +kernel
    | exact hline _ (by decide) _ (by simp [SessionPaths.written])

theorem asRead_eq_self_iff {path : Text} :
    asRead path = path ↔ '#' ∉ path ∧ SinglySpaced Text.isWhitespace ' ' path := by
  have hspace : Text.isWhitespace ' ' = true := rfl
  have htake : '#' ∉ path → path.takeWhile (· != '#') = path := fun hhash =>
    List.takeWhile_eq_self_iff.mpr fun c hc => bne_iff_ne.mpr fun heq => hhash (heq ▸ hc)
  constructor
  · intro h
    have hhash : '#' ∉ path := by
      intro hmem
      rw [← h] at hmem
      rcases mem_of_mem_intercalate_words hmem with heq | hmem
      · cases heq
      · simpa using List.all_eq_true.mp List.all_takeWhile _ hmem
    refine ⟨hhash, (intercalate_words_iff hspace).mp ?_⟩
    conv_rhs => rw [← h]
    rw [asRead, lineWords, htake hhash]
    rfl
  · rintro ⟨hhash, hspaced⟩
    rw [asRead, lineWords, htake hhash]
    exact (intercalate_words_iff hspace).mpr hspaced

/-- The lines of the three paths, as they are read. -/
theorem settingOf_written (dirs : Dirs) (h : PathBuf.isAbsolute .windows path = true)
    (hself : PathBuf.isAbsolute .windows (asRead path) = true ∨ baseDir = []) :
    settingOf .windows dirs baseDir ("HostKey ".toList ++ path) =
        some (some ⟨.hostKey, asRead path⟩) ∧
      settingOf .windows dirs baseDir ("AuthorizedKeysFile ".toList ++ path) =
        some (some ⟨.authorizedKeysFile, asRead path⟩) ∧
      settingOf .windows dirs baseDir ("Shell ".toList ++ path) =
        some (some ⟨.shell, asRead path⟩) := by
  obtain ⟨c, w, ws, -, hwords⟩ := lineWords_of_isAbsolute h
  obtain ⟨c', rest, hc', hread⟩ := asRead_of_isAbsolute h
  have hjoin : Text.joinSpaces ((c :: w) :: ws) = asRead path := by rw [asRead, hwords]
  obtain ⟨hconfig, hshell⟩ :
      resolveConfigPath .windows dirs (asRead path) baseDir = .ok (asRead path) ∧
        resolveShellCommandOrPath .windows dirs (asRead path) baseDir = .ok (asRead path) := by
    rw [hread] at hself ⊢
    exact resolve_self hc' hself
  have hnamed : ∀ name : Text, name ≠ [] → (∀ c ∈ name, c ≠ '#' ∧ Text.isWhitespace c = false) →
      settingOf .windows dirs baseDir (name ++ ' ' :: path) =
        directive .windows dirs baseDir name.toAsciiLowercase (c :: w) ((c :: w) :: ws) := by
    intro name hne hname
    rw [settingOf, lineWords_named path hne hname, hwords]
  refine ⟨?_, ?_, ?_⟩
  · refine (hnamed "HostKey".toList (by decide) (plain_of_all (by decide))).trans ?_
    change setting .hostKey (resolveConfigPath _ _ (Text.joinSpaces _) _) = _
    rw [hjoin, hconfig]
    rfl
  · refine (hnamed "AuthorizedKeysFile".toList (by decide) (plain_of_all (by decide))).trans ?_
    change setting .authorizedKeysFile (resolveConfigPath _ _ (Text.joinSpaces _) _) = _
    rw [hjoin, hconfig]
    rfl
  · refine (hnamed "Shell".toList (by decide) (plain_of_all (by decide))).trans ?_
    change setting .shell (resolveShellCommandOrPath _ _ (Text.joinSpaces _) _) = _
    rw [hjoin, hshell]
    rfl

theorem applyText_render (config : AppConfig) (dirs : Dirs)
    (hpaths : ∀ path ∈ paths.written, PathBuf.isAbsolute .windows path = true ∧ '\n' ∉ path)
    (hself : ∀ path ∈ paths.written,
      PathBuf.isAbsolute .windows (asRead path) = true ∨ baseDir = []) :
    config.applyText .windows dirs (renderDefaultConfig paths) baseDir =
      .ok (renderedConfig (asRead paths.hostKeyPath) (asRead paths.authorizedKeysPath)
        (asRead paths.shellPath)) := by
  have hwritten : ∀ path ∈ paths.written, _ := fun path hpath =>
    settingOf_written dirs (hpaths path hpath).1 (hself path hpath)
  have hhost := (hwritten paths.hostKeyPath (by simp [SessionPaths.written])).1
  have hkeys := (hwritten paths.authorizedKeysPath (by simp [SessionPaths.written])).2.1
  have hshell := (hwritten paths.shellPath (by simp [SessionPaths.written])).2.2
  have hlines : (Text.lines (renderDefaultConfig paths)).map (settingOf .windows dirs baseDir) =
      (renderedSettings (asRead paths.hostKeyPath) (asRead paths.authorizedKeysPath)
        (asRead paths.shellPath)).map some := by
    rw [renderDefaultConfig,
      lines_flatMap (not_mem_defaultConfigLines fun path hpath => (hpaths path hpath).2),
      List.map_map, ← settings_rendered hhost hkeys hshell]
    refine List.map_congr_left fun line _ => ?_
    simp only [Function.comp_apply, settingOf, lineWords_stripCarriageReturn]
  rw [applyText_of_settings .windows dirs baseDir config hlines, foldl_renderedSettings]

/-- **When the default configuration reads back as it was written:** when no path has a number sign,
and the only space in a path is single blanks between its words. -/
theorem default_config_reads_back_iff (config : AppConfig) (dirs : Dirs) (paths : SessionPaths)
    (hpaths : ∀ path ∈ paths.written, PathBuf.isAbsolute .windows path = true ∧ '\n' ∉ path) :
    (∀ baseDir, config.applyText .windows dirs (renderDefaultConfig paths) baseDir =
        .ok (renderedConfig paths.hostKeyPath paths.authorizedKeysPath paths.shellPath)) ↔
      ∀ path ∈ paths.written, '#' ∉ path ∧ SinglySpaced Text.isWhitespace ' ' path := by
  simp only [← asRead_eq_self_iff]
  constructor
  · intro h
    have hread := applyText_render config dirs hpaths fun _ _ => .inr rfl
    rw [h []] at hread
    have hconfig := Except.ok.inj hread
    have hhost := congrArg AppConfig.hostKey hconfig
    have hkeys := congrArg AppConfig.authorizedKeysFile hconfig
    have hshell := congrArg AppConfig.shell hconfig
    simpa [SessionPaths.written] using ⟨hhost.symm, hkeys.symm, hshell.symm⟩
  · intro h baseDir
    have habs : ∀ path ∈ paths.written,
        PathBuf.isAbsolute .windows (asRead path) = true ∨ baseDir = [] := fun path hpath =>
      .inl (by rw [h path hpath]; exact (hpaths path hpath).1)
    rw [applyText_render config dirs hpaths habs]
    simp only [SessionPaths.written, List.forall_mem_cons] at h
    rw [h.1, h.2.1, h.2.2.1]

/-- The paths of a user, by the name of the profile directory. -/
def pathsOf (profile : Text) : SessionPaths where
  hostKeyPath := "C:\\Users\\".toList ++ profile ++
    "\\AppData\\Local\\narrowd\\ssh_host_ed25519_key".toList
  authorizedKeysPath := "C:\\Users\\".toList ++ profile ++ "\\.ssh\\authorized_keys".toList
  shellPath := "C:\\Windows\\System32\\WindowsPowerShell\\v1.0\\powershell.exe".toList

def sampleDirs : Dirs := { homeDir := some "C:\\Users\\dev".toList, configDir := none }

theorem default_config_reads_back_sample :
    (∀ path ∈ (pathsOf "local dev".toList).written,
      PathBuf.isAbsolute .windows path = true ∧ '\n' ∉ path) ∧
    (renderedConfig [] [] []).applyText .windows sampleDirs
        (renderDefaultConfig (pathsOf "local dev".toList)) "C:\\narrowd".toList =
      .ok (renderedConfig (pathsOf "local dev".toList).hostKeyPath
        (pathsOf "local dev".toList).authorizedKeysPath
          (pathsOf "local dev".toList).shellPath) := by
  refine ⟨by decide +kernel, (default_config_reads_back_iff _ _ _ (by decide +kernel)).mpr ?_ _⟩
  simp only [← asRead_eq_self_iff]
  decide +kernel

/-- A number sign in a path starts a comment: the host key is looked for elsewhere. -/
theorem number_sign_cuts_path :
    (∀ path ∈ (pathsOf "C# dev".toList).written,
      PathBuf.isAbsolute .windows path = true ∧ '\n' ∉ path) ∧
    ((renderedConfig [] [] []).applyText .windows sampleDirs
        (renderDefaultConfig (pathsOf "C# dev".toList)) "C:\\narrowd".toList).map
      AppConfig.hostKey = .ok "C:\\Users\\C".toList := by
  refine ⟨by decide +kernel, ?_⟩
  rw [applyText_render _ _ (by decide +kernel) (by decide +kernel)]
  rfl

end Narrowd.SessionLauncher
