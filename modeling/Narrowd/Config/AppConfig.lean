import Narrowd.Config.Parse
import Narrowd.Admission.State

set_option autoImplicit false

/-! # The configuration file

`AppConfig::apply_text` reads the directives of a configuration file into the defaults, one line
at a time; the last line for a field wins. `AppConfig::load` validates the result. The file is
given by its text and its directory: which file is read is the command line's business.
-/

namespace Narrowd.Config

open Narrowd

structure AppConfig where
  listenAddress : Text
  port : Nat
  hostKey : PathBuf
  authorizedKeysFile : PathBuf
  shell : PathBuf
  execMode : ExecMode
  permitTty : Bool
  permitExec : Bool
  sftpEnabled : Bool
  allowTcpForwarding : Bool
  allowRemoteForwarding : Bool
  gatewayPorts : Bool
  maxUnauthConnectionsGlobal : Nat
  maxUnauthConnectionsPerIp : Nat
  maxUnauthConnectionsPerSubnet : Nat
  newConnectionsPerMinutePerIp : Nat
  newConnectionsBurstPerIp : Nat
  loginGraceTime : Duration
  clientBannerTimeout : Duration
  kexStartTimeout : Duration
  maxAuthAttempts : Nat
  authRejectionTime : Duration
  authFailureBanThreshold : Nat
  authFailureBanWindow : Duration
  authFailureBanDuration : Duration
  inactivityTimeout : Duration
  keepaliveInterval : Duration
  keepaliveMax : Nat
  channelBufferSize : Nat
  eventBufferSize : Nat
  windowSize : Nat
  maximumPacketSize : Nat
  nodelay : Bool
  authorizedKeysMaxSize : Nat
  authorizedKeysMaxEntries : Nat
  authorizedKeysReloadInterval : Duration
  logLevel : LogLevel

/-! ## Directives

`.with_context(|| format!("invalid {name} on line {line_number}"))?` around the value of each. -/

/-- Where a directive stands. -/
structure Place where
  platform : Platform
  dirs : Dirs
  baseDir : PathBuf
  lineNumber : Nat

namespace Place

variable {α : Type}

def value (place : Place) (name : String) : Except AnyError α → Except AnyError α
  | .ok a => .ok a
  | .error err => .error (err.context s!"invalid {name} on line {place.lineNumber}")

def usize (place : Place) (name : String) (t : Text) : Except AnyError Nat :=
  place.value name (parseInt 64 t)

def bool (place : Place) (name : String) (t : Text) : Except AnyError Bool :=
  place.value name (parseBool t)

def duration (place : Place) (name : String) (t : Text) : Except AnyError Duration :=
  place.value name (parseDuration t)

end Place

namespace AppConfig

/-- One directive: `first` is its first value, `values` are all of them. -/
def applyDirective (config : AppConfig) (place : Place) (key first : Text) (values : List Text) :
    Except AnyError AppConfig := do
  match key.toAsciiLowercase with
  | "port" =>
      return { config with port := ← place.value "Port" (parseInt 16 first) }
  | "listenaddress" => return { config with listenAddress := Text.joinSpaces values }
  | "hostkey" =>
      return { config with
        hostKey := ← resolveConfigPath place.platform place.dirs (Text.joinSpaces values)
          place.baseDir }
  | "authorizedkeysfile" =>
      return { config with
        authorizedKeysFile := ← resolveConfigPath place.platform place.dirs
          (Text.joinSpaces values) place.baseDir }
  | "shell" =>
      return { config with
        shell := ← resolveShellCommandOrPath place.platform place.dirs (Text.joinSpaces values)
          place.baseDir }
  | "execmode" =>
      return { config with execMode := ← place.value "ExecMode" (ExecMode.parse first) }
  | "permittty" => return { config with permitTty := ← place.bool "PermitTTY" first }
  | "permitexec" => return { config with permitExec := ← place.bool "PermitExec" first }
  | "sftpenabled" => return { config with sftpEnabled := ← place.bool "SftpEnabled" first }
  | "subsystem" =>
      if first = "sftp".toList then return { config with sftpEnabled := true }
      else return config
  | "allowtcpforwarding" =>
      return { config with allowTcpForwarding := ← place.bool "AllowTcpForwarding" first }
  | "allowremoteforwarding" =>
      return { config with allowRemoteForwarding := ← place.bool "AllowRemoteForwarding" first }
  | "gatewayports" => return { config with gatewayPorts := ← place.bool "GatewayPorts" first }
  | "maxunauthconnectionsglobal" =>
      return { config with
        maxUnauthConnectionsGlobal := ← place.usize "MaxUnauthConnectionsGlobal" first }
  | "maxunauthconnectionsperip" =>
      return { config with
        maxUnauthConnectionsPerIp := ← place.usize "MaxUnauthConnectionsPerIp" first }
  | "maxunauthconnectionspersubnet" =>
      return { config with
        maxUnauthConnectionsPerSubnet := ← place.usize "MaxUnauthConnectionsPerSubnet" first }
  | "newconnectionsperminuteperip" =>
      return { config with
        newConnectionsPerMinutePerIp := ← place.usize "NewConnectionsPerMinutePerIp" first }
  | "newconnectionsburstperip" =>
      return { config with
        newConnectionsBurstPerIp := ← place.usize "NewConnectionsBurstPerIp" first }
  | "logingracetime" =>
      return { config with loginGraceTime := ← place.duration "LoginGraceTime" first }
  | "clientbannertimeout" =>
      return { config with clientBannerTimeout := ← place.duration "ClientBannerTimeout" first }
  | "kexstarttimeout" =>
      return { config with kexStartTimeout := ← place.duration "KexStartTimeout" first }
  | "maxauthattempts" =>
      return { config with maxAuthAttempts := ← place.usize "MaxAuthAttempts" first }
  | "authrejectiontime" =>
      return { config with authRejectionTime := ← place.duration "AuthRejectionTime" first }
  | "authfailurebanthreshold" =>
      return { config with
        authFailureBanThreshold := ← place.usize "AuthFailureBanThreshold" first }
  | "authfailurebanwindow" =>
      return { config with
        authFailureBanWindow := ← place.duration "AuthFailureBanWindow" first }
  | "authfailurebanduration" =>
      return { config with
        authFailureBanDuration := ← place.duration "AuthFailureBanDuration" first }
  | "inactivitytimeout" =>
      return { config with inactivityTimeout := ← place.duration "InactivityTimeout" first }
  | "keepaliveinterval" =>
      return { config with keepaliveInterval := ← place.duration "KeepaliveInterval" first }
  | "keepalivemax" => return { config with keepaliveMax := ← place.usize "KeepaliveMax" first }
  | "channelbuffersize" =>
      return { config with channelBufferSize := ← place.usize "ChannelBufferSize" first }
  | "eventbuffersize" =>
      return { config with eventBufferSize := ← place.usize "EventBufferSize" first }
  | "windowsize" =>
      return { config with windowSize := ← place.value "WindowSize" (parseInt 32 first) }
  | "maximumpacketsize" =>
      return { config with
        maximumPacketSize := ← place.value "MaximumPacketSize" (parseInt 32 first) }
  | "nodelay" => return { config with nodelay := ← place.bool "NoDelay" first }
  | "authorizedkeysmaxsize" =>
      return { config with
        authorizedKeysMaxSize := ← place.value "AuthorizedKeysMaxSize" (parseByteSize first) }
  | "authorizedkeysmaxentries" =>
      return { config with
        authorizedKeysMaxEntries := ← place.usize "AuthorizedKeysMaxEntries" first }
  | "authorizedkeysreloadinterval" =>
      return { config with
        authorizedKeysReloadInterval := ← place.duration "AuthorizedKeysReloadInterval" first }
  | "pubkeyauthentication" =>
      let enabled ← place.bool "PubkeyAuthentication" first
      if !enabled then throw ⟨"PubkeyAuthentication no is unsupported", []⟩
      return config
  | "passwordauthentication" =>
      let enabled ← place.bool "PasswordAuthentication" first
      if enabled then throw ⟨"PasswordAuthentication yes is unsupported", []⟩
      return config
  | "permitopen" => return config
  | "loglevel" =>
      return { config with logLevel := ← place.value "LogLevel" (LogLevel.parse first) }
  | other => throw ⟨s!"unsupported directive {other} on line {place.lineNumber}", []⟩

/-! ## The file -/

/-- One line of the file. What follows a `#` is a comment. -/
def applyLine (config : AppConfig) (place : Place) (rawLine : Text) : Except AnyError AppConfig :=
  let line := Text.trim (rawLine.takeWhile (· != '#'))
  match Text.splitWhitespace line with
  | [] => .ok config
  | [key] =>
      .error ⟨s!"missing value for directive {String.ofList key} on line {place.lineNumber}", []⟩
  | key :: first :: rest => config.applyDirective place key first (first :: rest)

/-- The loop of `apply_text`, from line `idx` on. -/
def applyLines (p : Platform) (dirs : Dirs) (baseDir : PathBuf) (idx : Nat) (config : AppConfig) :
    List Text → Except AnyError AppConfig
  | [] => .ok config
  | rawLine :: rest => do
      let config ← config.applyLine
        { platform := p, dirs := dirs, baseDir := baseDir, lineNumber := idx + 1 } rawLine
      applyLines p dirs baseDir (idx + 1) config rest

def applyText (config : AppConfig) (p : Platform) (dirs : Dirs) (text : Text)
    (baseDir : PathBuf) : Except AnyError AppConfig :=
  applyLines p dirs baseDir 0 config (Text.lines text)

def defaults (p : Platform) (dirs : Dirs) : Except AnyError AppConfig := do
  let home ← dirs.home
  let configRoot := dirs.configDir.getD (PathBuf.join p home ".config".toList)
  return {
    listenAddress := "0.0.0.0".toList
    port := 2222
    hostKey := PathBuf.join p configRoot "narrowd/ssh_host_ed25519_key".toList
    authorizedKeysFile := PathBuf.join p home ".ssh/authorized_keys".toList
    shell := match p with
      | .windows => "powershell.exe".toList
      | .linux => "/bin/bash".toList
    execMode := ExecMode.defaultForCurrentPlatform p
    permitTty := true
    permitExec := true
    sftpEnabled := true
    allowTcpForwarding := true
    allowRemoteForwarding := true
    gatewayPorts := true
    maxUnauthConnectionsGlobal := 16
    maxUnauthConnectionsPerIp := 3
    maxUnauthConnectionsPerSubnet := 8
    newConnectionsPerMinutePerIp := 12
    newConnectionsBurstPerIp := 4
    loginGraceTime := Duration.fromSecs 15
    clientBannerTimeout := Duration.fromSecs 5
    kexStartTimeout := Duration.fromSecs 5
    maxAuthAttempts := 4
    authRejectionTime := Duration.fromSecs 2
    authFailureBanThreshold := 8
    authFailureBanWindow := Duration.fromSecs (10 * 60)
    authFailureBanDuration := Duration.fromSecs (15 * 60)
    inactivityTimeout := Duration.fromSecs (15 * 60)
    keepaliveInterval := Duration.fromSecs 30
    keepaliveMax := 3
    channelBufferSize := 32
    eventBufferSize := 16
    windowSize := 1048576
    maximumPacketSize := 32768
    nodelay := true
    authorizedKeysMaxSize := 256 * 1024
    authorizedKeysMaxEntries := 128
    authorizedKeysReloadInterval := Duration.fromSecs 2
    logLevel := .info }

def validate (config : AppConfig) (p : Platform) : Except AnyError Unit :=
  if config.permitExec then config.execMode.validateShell p config.shell else .ok ()

/-- The text of a configuration file and the directory it is in. -/
structure ConfigFile where
  text : Text
  dir : PathBuf

/-- `AppConfig::load`; without a file the defaults are the configuration. -/
def load (p : Platform) (dirs : Dirs) (file : Option ConfigFile) : Except AnyError AppConfig := do
  let config ← defaults p dirs
  let config ←
    match file with
    | some file => config.applyText p dirs file.text file.dir
    | none => .ok config
  config.validate p
  return config

end AppConfig

end Narrowd.Config

namespace Narrowd.Admission

/-- `AdmissionConfig::from_app_config`. -/
def AdmissionConfig.fromAppConfig (config : Config.AppConfig) : AdmissionConfig :=
  { maxUnauthConnectionsGlobal := config.maxUnauthConnectionsGlobal
    maxUnauthConnectionsPerIp := config.maxUnauthConnectionsPerIp
    maxUnauthConnectionsPerSubnet := config.maxUnauthConnectionsPerSubnet
    newConnectionsPerMinutePerIp := config.newConnectionsPerMinutePerIp
    newConnectionsBurstPerIp := config.newConnectionsBurstPerIp
    authFailureBanThreshold := config.authFailureBanThreshold
    authFailureBanWindow := config.authFailureBanWindow
    authFailureBanDuration := config.authFailureBanDuration }

end Narrowd.Admission
