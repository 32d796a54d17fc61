import Narrowd.Lib.Words
import Narrowd.Config.AppConfig

set_option autoImplicit false

/-! # What a line of a configuration file means

`apply_text` applies the lines of a file to the configuration one after the other. Read alone, a
line is blank, sets one field, or is checked and sets none; or it is not valid. `settingOf` is that
reading: it knows neither the configuration nor the other lines.
-/

namespace Narrowd.Config

open Narrowd Lib

/-! ## Fields -/

inductive Field
  | listenAddress
  | port
  | hostKey
  | authorizedKeysFile
  | shell
  | execMode
  | permitTty
  | permitExec
  | sftpEnabled
  | allowTcpForwarding
  | allowRemoteForwarding
  | gatewayPorts
  | maxUnauthConnectionsGlobal
  | maxUnauthConnectionsPerIp
  | maxUnauthConnectionsPerSubnet
  | newConnectionsPerMinutePerIp
  | newConnectionsBurstPerIp
  | loginGraceTime
  | clientBannerTimeout
  | kexStartTimeout
  | maxAuthAttempts
  | authRejectionTime
  | authFailureBanThreshold
  | authFailureBanWindow
  | authFailureBanDuration
  | inactivityTimeout
  | keepaliveInterval
  | keepaliveMax
  | channelBufferSize
  | eventBufferSize
  | windowSize
  | maximumPacketSize
  | nodelay
  | authorizedKeysMaxSize
  | authorizedKeysMaxEntries
  | authorizedKeysReloadInterval
  | logLevel
  deriving DecidableEq

def Field.Value : Field → Type
  | .listenAddress => Text
  | .port => Nat
  | .hostKey => PathBuf
  | .authorizedKeysFile => PathBuf
  | .shell => PathBuf
  | .execMode => ExecMode
  | .permitTty => Bool
  | .permitExec => Bool
  | .sftpEnabled => Bool
  | .allowTcpForwarding => Bool
  | .allowRemoteForwarding => Bool
  | .gatewayPorts => Bool
  | .maxUnauthConnectionsGlobal => Nat
  | .maxUnauthConnectionsPerIp => Nat
  | .maxUnauthConnectionsPerSubnet => Nat
  | .newConnectionsPerMinutePerIp => Nat
  | .newConnectionsBurstPerIp => Nat
  | .loginGraceTime => Duration
  | .clientBannerTimeout => Duration
  | .kexStartTimeout => Duration
  | .maxAuthAttempts => Nat
  | .authRejectionTime => Duration
  | .authFailureBanThreshold => Nat
  | .authFailureBanWindow => Duration
  | .authFailureBanDuration => Duration
  | .inactivityTimeout => Duration
  | .keepaliveInterval => Duration
  | .keepaliveMax => Nat
  | .channelBufferSize => Nat
  | .eventBufferSize => Nat
  | .windowSize => Nat
  | .maximumPacketSize => Nat
  | .nodelay => Bool
  | .authorizedKeysMaxSize => Nat
  | .authorizedKeysMaxEntries => Nat
  | .authorizedKeysReloadInterval => Duration
  | .logLevel => LogLevel

namespace AppConfig

def get (config : AppConfig) : (f : Field) → f.Value
  | .listenAddress => config.listenAddress
  | .port => config.port
  | .hostKey => config.hostKey
  | .authorizedKeysFile => config.authorizedKeysFile
  | .shell => config.shell
  | .execMode => config.execMode
  | .permitTty => config.permitTty
  | .permitExec => config.permitExec
  | .sftpEnabled => config.sftpEnabled
  | .allowTcpForwarding => config.allowTcpForwarding
  | .allowRemoteForwarding => config.allowRemoteForwarding
  | .gatewayPorts => config.gatewayPorts
  | .maxUnauthConnectionsGlobal => config.maxUnauthConnectionsGlobal
  | .maxUnauthConnectionsPerIp => config.maxUnauthConnectionsPerIp
  | .maxUnauthConnectionsPerSubnet => config.maxUnauthConnectionsPerSubnet
  | .newConnectionsPerMinutePerIp => config.newConnectionsPerMinutePerIp
  | .newConnectionsBurstPerIp => config.newConnectionsBurstPerIp
  | .loginGraceTime => config.loginGraceTime
  | .clientBannerTimeout => config.clientBannerTimeout
  | .kexStartTimeout => config.kexStartTimeout
  | .maxAuthAttempts => config.maxAuthAttempts
  | .authRejectionTime => config.authRejectionTime
  | .authFailureBanThreshold => config.authFailureBanThreshold
  | .authFailureBanWindow => config.authFailureBanWindow
  | .authFailureBanDuration => config.authFailureBanDuration
  | .inactivityTimeout => config.inactivityTimeout
  | .keepaliveInterval => config.keepaliveInterval
  | .keepaliveMax => config.keepaliveMax
  | .channelBufferSize => config.channelBufferSize
  | .eventBufferSize => config.eventBufferSize
  | .windowSize => config.windowSize
  | .maximumPacketSize => config.maximumPacketSize
  | .nodelay => config.nodelay
  | .authorizedKeysMaxSize => config.authorizedKeysMaxSize
  | .authorizedKeysMaxEntries => config.authorizedKeysMaxEntries
  | .authorizedKeysReloadInterval => config.authorizedKeysReloadInterval
  | .logLevel => config.logLevel

def ofFields (value : (f : Field) → f.Value) : AppConfig where
  listenAddress := value .listenAddress
  port := value .port
  hostKey := value .hostKey
  authorizedKeysFile := value .authorizedKeysFile
  shell := value .shell
  execMode := value .execMode
  permitTty := value .permitTty
  permitExec := value .permitExec
  sftpEnabled := value .sftpEnabled
  allowTcpForwarding := value .allowTcpForwarding
  allowRemoteForwarding := value .allowRemoteForwarding
  gatewayPorts := value .gatewayPorts
  maxUnauthConnectionsGlobal := value .maxUnauthConnectionsGlobal
  maxUnauthConnectionsPerIp := value .maxUnauthConnectionsPerIp
  maxUnauthConnectionsPerSubnet := value .maxUnauthConnectionsPerSubnet
  newConnectionsPerMinutePerIp := value .newConnectionsPerMinutePerIp
  newConnectionsBurstPerIp := value .newConnectionsBurstPerIp
  loginGraceTime := value .loginGraceTime
  clientBannerTimeout := value .clientBannerTimeout
  kexStartTimeout := value .kexStartTimeout
  maxAuthAttempts := value .maxAuthAttempts
  authRejectionTime := value .authRejectionTime
  authFailureBanThreshold := value .authFailureBanThreshold
  authFailureBanWindow := value .authFailureBanWindow
  authFailureBanDuration := value .authFailureBanDuration
  inactivityTimeout := value .inactivityTimeout
  keepaliveInterval := value .keepaliveInterval
  keepaliveMax := value .keepaliveMax
  channelBufferSize := value .channelBufferSize
  eventBufferSize := value .eventBufferSize
  windowSize := value .windowSize
  maximumPacketSize := value .maximumPacketSize
  nodelay := value .nodelay
  authorizedKeysMaxSize := value .authorizedKeysMaxSize
  authorizedKeysMaxEntries := value .authorizedKeysMaxEntries
  authorizedKeysReloadInterval := value .authorizedKeysReloadInterval
  logLevel := value .logLevel

@[simp]
theorem get_ofFields (value : (f : Field) → f.Value) (f : Field) :
    (ofFields value).get f = value f := by
  cases f <;> rfl

theorem ofFields_get (config : AppConfig) : ofFields config.get = config := rfl

theorem ext_get {config config' : AppConfig} (h : ∀ f, config.get f = config'.get f) :
    config = config' := by
  rw [← ofFields_get config, ← ofFields_get config', funext h]

/-- The configuration with one field set. -/
def set (config : AppConfig) (f : Field) (v : f.Value) : AppConfig :=
  ofFields (Function.update config.get f v)

theorem get_set_self (config : AppConfig) (f : Field) (v : f.Value) :
    (config.set f v).get f = v := by
  simp [set]

theorem get_set_of_ne (config : AppConfig) {f g : Field} (v : f.Value) (h : g ≠ f) :
    (config.set f v).get g = config.get g := by
  simp [set, h]

end AppConfig

/-! ## The reading of a line -/

/-- A field and its value. -/
abbrev Setting := Σ f : Field, f.Value

/-- The reading of a directive whose value sets the field. -/
def setting (f : Field) (value : Except AnyError f.Value) : Option (Option Setting) :=
  value.toOption.map fun v => some ⟨f, v⟩

/-- The reading of a directive of which only one value is supported. -/
def checked (value : Except AnyError Bool) (supported : Bool) : Option (Option Setting) :=
  if value.toOption = some supported then some none else none

section

variable (p : Platform) (dirs : Dirs) (baseDir : PathBuf)

/-- **What a directive says**, by its name in lower case: which field it governs, and how its value
is read. `none` if it is not valid, `some none` if it sets nothing. -/
def directive (name : String) (first : Text) (values : List Text) : Option (Option Setting) :=
  match name with
  | "port" => setting .port (parseInt 16 first)
  | "listenaddress" => setting .listenAddress (.ok (Text.joinSpaces values))
  | "hostkey" => setting .hostKey (resolveConfigPath p dirs (Text.joinSpaces values) baseDir)
  | "authorizedkeysfile" => setting .authorizedKeysFile
      (resolveConfigPath p dirs (Text.joinSpaces values) baseDir)
  | "shell" => setting .shell (resolveShellCommandOrPath p dirs (Text.joinSpaces values) baseDir)
  | "execmode" => setting .execMode (ExecMode.parse first)
  | "permittty" => setting .permitTty (parseBool first)
  | "permitexec" => setting .permitExec (parseBool first)
  | "sftpenabled" => setting .sftpEnabled (parseBool first)
  | "subsystem" => if first = "sftp".toList then setting .sftpEnabled (.ok true) else some none
  | "allowtcpforwarding" => setting .allowTcpForwarding (parseBool first)
  | "allowremoteforwarding" => setting .allowRemoteForwarding (parseBool first)
  | "gatewayports" => setting .gatewayPorts (parseBool first)
  | "maxunauthconnectionsglobal" => setting .maxUnauthConnectionsGlobal (parseInt 64 first)
  | "maxunauthconnectionsperip" => setting .maxUnauthConnectionsPerIp (parseInt 64 first)
  | "maxunauthconnectionspersubnet" => setting .maxUnauthConnectionsPerSubnet (parseInt 64 first)
  | "newconnectionsperminuteperip" => setting .newConnectionsPerMinutePerIp (parseInt 64 first)
  | "newconnectionsburstperip" => setting .newConnectionsBurstPerIp (parseInt 64 first)
  | "logingracetime" => setting .loginGraceTime (parseDuration first)
  | "clientbannertimeout" => setting .clientBannerTimeout (parseDuration first)
  | "kexstarttimeout" => setting .kexStartTimeout (parseDuration first)
  | "maxauthattempts" => setting .maxAuthAttempts (parseInt 64 first)
  | "authrejectiontime" => setting .authRejectionTime (parseDuration first)
  | "authfailurebanthreshold" => setting .authFailureBanThreshold (parseInt 64 first)
  | "authfailurebanwindow" => setting .authFailureBanWindow (parseDuration first)
  | "authfailurebanduration" => setting .authFailureBanDuration (parseDuration first)
  | "inactivitytimeout" => setting .inactivityTimeout (parseDuration first)
  | "keepaliveinterval" => setting .keepaliveInterval (parseDuration first)
  | "keepalivemax" => setting .keepaliveMax (parseInt 64 first)
  | "channelbuffersize" => setting .channelBufferSize (parseInt 64 first)
  | "eventbuffersize" => setting .eventBufferSize (parseInt 64 first)
  | "windowsize" => setting .windowSize (parseInt 32 first)
  | "maximumpacketsize" => setting .maximumPacketSize (parseInt 32 first)
  | "nodelay" => setting .nodelay (parseBool first)
  | "authorizedkeysmaxsize" => setting .authorizedKeysMaxSize (parseByteSize first)
  | "authorizedkeysmaxentries" => setting .authorizedKeysMaxEntries (parseInt 64 first)
  | "authorizedkeysreloadinterval" => setting .authorizedKeysReloadInterval (parseDuration first)
  | "pubkeyauthentication" => checked (parseBool first) true
  | "passwordauthentication" => checked (parseBool first) false
  | "permitopen" => some none
  | "loglevel" => setting .logLevel (LogLevel.parse first)
  | _ => none

/-- The words of a line, without its comment. -/
def lineWords (line : Text) : List Text := words Text.isWhitespace (line.takeWhile (· != '#'))

/-- The reading of a line: `none` if it is not valid, `some none` if it sets nothing. -/
def settingOf (line : Text) : Option (Option Setting) :=
  match lineWords line with
  | [] => some none
  | [_] => none
  | key :: first :: rest => directive p dirs baseDir key.toAsciiLowercase first (first :: rest)

end

/-- The configuration that a reading leaves. -/
def AppConfig.apply (config : AppConfig) : Option Setting → AppConfig
  | none => config
  | some s => config.set s.1 s.2

/-! ## The code reads lines in this way -/

theorem toOption_value {α : Type} (place : Place) (name : String) (x : Except AnyError α) :
    (place.value name x).toOption = x.toOption := by
  cases x <;> rfl

/-- An arm that reads a value and stores it in its field. -/
theorem toOption_bind_set {α : Type} {config : AppConfig} {x y : Except AnyError α}
    {store : α → AppConfig} {spec : α → Setting}
    (hstore : ∀ v, store v = config.set (spec v).1 (spec v).2) (hxy : x.toOption = y.toOption) :
    (x >>= fun v => pure (store v)).toOption =
      (y.toOption.map fun v => some (spec v)).map config.apply := by
  rw [← hxy]
  cases x with
  | ok v => exact congrArg some (hstore v)
  | error err => rfl

theorem applyDirective_eq (config : AppConfig) (place : Place) (key first : Text)
    (values : List Text) :
    (config.applyDirective place key first values).toOption =
      (directive place.platform place.dirs place.baseDir key.toAsciiLowercase first values).map
        config.apply := by
  unfold AppConfig.applyDirective
  generalize key.toAsciiLowercase = name
  split
  case h_42 =>
    unfold directive
    split <;> first | rfl | contradiction
  all_goals dsimp only [directive, setting]
  all_goals first
    | refine toOption_bind_set ?_ ?_
      · exact fun _ => rfl
      · first
        | exact toOption_value _ _ _
        | rfl
    | rfl
    | skip
  · split <;> rfl
  · unfold Place.bool Place.value
    cases parseBool first with
    | error err => rfl
    | ok enabled => cases enabled <;> rfl
  · unfold Place.bool Place.value
    cases parseBool first with
    | error err => rfl
    | ok enabled => cases enabled <;> rfl

end Narrowd.Config
