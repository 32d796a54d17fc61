import Narrowd.Basic.AnyError
import Narrowd.Basic.Path

set_option autoImplicit false

/-! # The values of the configuration

The parsers for single values: booleans, durations, sizes, enumerations and paths.
-/

namespace Narrowd.Config

open Narrowd

inductive LogLevel
  | error
  | warn
  | info
  | debug
  | trace
  deriving DecidableEq, Repr

def LogLevel.parse (input : Text) : Except AnyError LogLevel :=
  match input.trim.toAsciiLowercase with
  | "error" => .ok error
  | "warn" => .ok warn
  | "warning" => .ok warn
  | "info" => .ok info
  | "debug" => .ok debug
  | "trace" => .ok trace
  | other => .error ⟨"unsupported LogLevel value: " ++ other, []⟩

inductive ExecMode
  | shellLogin
  | shellCommand
  | powerShell
  | cmd
  deriving DecidableEq, Repr

namespace ExecMode

def parse (input : Text) : Except AnyError ExecMode :=
  match input.trim.toAsciiLowercase with
  | "shell-login" => .ok shellLogin
  | "login-shell" => .ok shellLogin
  | "shell-command" => .ok shellCommand
  | "command-shell" => .ok shellCommand
  | "shell" => .ok shellCommand
  | "powershell" => .ok powerShell
  | "pwsh" => .ok powerShell
  | "cmd" => .ok cmd
  | "cmd.exe" => .ok cmd
  | other => .error ⟨"unsupported ExecMode value: " ++ other, []⟩

def defaultForCurrentPlatform : Platform → ExecMode
  | .windows => powerShell
  | .linux => shellLogin

def validateShell (p : Platform) (mode : ExecMode) (shell : PathBuf) : Except AnyError Unit :=
  let shellName := (PathBuf.fileStem p shell).map Text.toAsciiLowercase
  match mode with
  | powerShell =>
      if shellName = some "powershell" ∨ shellName = some "pwsh" then .ok ()
      else .error ⟨"ExecMode powershell requires Shell to point to powershell.exe or pwsh, got " ++
        String.ofList shell, []⟩
  | cmd =>
      if shellName = some "cmd" then .ok ()
      else .error
        ⟨"ExecMode cmd requires Shell to point to cmd.exe, got " ++ String.ofList shell, []⟩
  | shellLogin => .ok ()
  | shellCommand => .ok ()

end ExecMode

def parseBool (input : Text) : Except AnyError Bool :=
  match input.trim.toAsciiLowercase with
  | "yes" => .ok true
  | "true" => .ok true
  | "on" => .ok true
  | "1" => .ok true
  | "no" => .ok false
  | "false" => .ok false
  | "off" => .ok false
  | "0" => .ok false
  | other => .error ⟨"expected yes/no boolean, got " ++ other, []⟩

/-- `value.saturating_mul(factor)` on `u64`. -/
def saturatingMul (value factor : Nat) : Nat := min (value * factor) u64Max

def parseInt (bits : Nat) (t : Text) : Except AnyError Nat :=
  match t.parseUnsigned bits with
  | .ok n => .ok n
  | .error err => .error ⟨err.text, []⟩

def parseDuration (input : Text) : Except AnyError Duration := do
  let input := input.trim
  if input.isEmpty then throw ⟨"duration must not be empty", []⟩
  let digits : Text := input.takeWhile Char.isDigit
  let suffix : Text := input.dropWhile Char.isDigit
  if digits.isEmpty then throw ⟨"duration must start with digits", []⟩
  let value ← parseInt 64 digits
  match suffix.toAsciiLowercase with
  | "" => return Duration.fromSecs value
  | "s" => return Duration.fromSecs value
  | "ms" => return Duration.fromMillis value
  | "m" => return Duration.fromSecs (saturatingMul value 60)
  | "h" => return Duration.fromSecs (saturatingMul value (60 * 60))
  | other => throw ⟨"unsupported duration suffix: " ++ other, []⟩

def parseByteSize (input : Text) : Except AnyError Nat := do
  let input := input.trim
  if input.isEmpty then throw ⟨"byte size must not be empty", []⟩
  let digits : Text := input.takeWhile Char.isDigit
  let suffix : Text := input.dropWhile Char.isDigit
  if digits.isEmpty then throw ⟨"byte size must start with digits", []⟩
  let value ← parseInt 64 digits
  let multiplier ←
    match suffix.toAsciiLowercase with
    | "" => pure 1
    | "b" => pure 1
    | "k" => pure 1000
    | "kb" => pure 1000
    | "ki" => pure 1024
    | "kib" => pure 1024
    | "m" => pure 1000000
    | "mb" => pure 1000000
    | "mi" => pure 1048576
    | "mib" => pure 1048576
    | other => throw ⟨"unsupported byte size suffix: " ++ other, []⟩
  if u64Max < value * multiplier then throw ⟨"byte size is too large", []⟩
  return value * multiplier

example : parseDuration "1500ms".toList = .ok (Duration.fromMillis 1500) := rfl

/-! ## Paths -/

/-- The directories the daemon asks the system for. -/
structure Dirs where
  homeDir : Option PathBuf
  configDir : Option PathBuf

def Dirs.home (dirs : Dirs) : Except AnyError PathBuf :=
  match dirs.homeDir with
  | some home => .ok home
  | none => .error ⟨"unable to determine home directory", []⟩

/-- `text.trim_start_matches("~/")`: all of them. -/
def trimHomeMarks : Text → Text
  | '~' :: '/' :: rest => trimHomeMarks rest
  | t => t

def expandHome (p : Platform) (dirs : Dirs) (path : PathBuf) : Except AnyError PathBuf := do
  if path = ['~'] then dirs.home
  else if path.take 2 = ['~', '/'] then
    let home ← dirs.home
    return PathBuf.join p home (trimHomeMarks path)
  else return path

def resolveConfigPath (p : Platform) (dirs : Dirs) (input : Text) (baseDir : PathBuf) :
    Except AnyError PathBuf := do
  let path ← expandHome p dirs input
  if PathBuf.isAbsolute p path then return path
  else return PathBuf.join p baseDir path

/-- A bare command name is left to the search path. -/
def resolveShellCommandOrPath (p : Platform) (dirs : Dirs) (input : Text) (baseDir : PathBuf) :
    Except AnyError PathBuf := do
  let path ← expandHome p dirs input
  if PathBuf.isAbsolute p path then return path
  else if (PathBuf.components p path).length ≤ 1 then return path
  else return PathBuf.join p baseDir path

end Narrowd.Config
