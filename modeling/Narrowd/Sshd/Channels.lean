import Narrowd.Config.AppConfig
import Narrowd.Executor.Messages
import Narrowd.Lib.SortedMap
import Narrowd.Lib.Table
import Mathlib.Data.Char
import Mathlib.Data.List.Lex

set_option autoImplicit false

/-! # The session channels of a connection

A channel that a client opens is pending: `env_request` and `pty_request` collect what its process
will get, and `shell_request`, `exec_request` or `subsystem_request` takes it out of the table and
launches the process or the SFTP server on it, whether the launch succeeds or fails. `channel_close`
takes it out too.
-/

namespace Narrowd.Sshd.Channels

open Lib Executor Narrowd.Config

/-- The part of `AppState` that the callbacks read. -/
structure AppState where
  config : AppConfig
  homeDir : PathBuf
  daemonUsername : Text

abbrev ChannelId := UInt32

structure PtySize where
  rows : UInt16
  cols : UInt16
  pixelWidth : UInt16
  pixelHeight : UInt16
  deriving DecidableEq

structure PtyRequest where
  term : Text
  size : PtySize
  deriving DecidableEq

structure PendingChannel where
  channel : ChannelId
  pty : Option PtyRequest
  env : Env

abbrev Pending := Table ChannelId PendingChannel

/-! ## The request for a process -/

def isEnvAllowed (name : Text) : Bool :=
  name == "TERM".toList || name == "COLORTERM".toList || name == "LANG".toList ||
    name == "TZ".toList || name.take 3 == "LC_".toList

def clampDimension (value : UInt32) : UInt16 := (min (max value 1) 65535).toUInt16

def toExecutorPtyRequest (pty : PtyRequest) : SerializablePtyRequest where
  term := pty.term
  size :=
    { rows := pty.size.rows
      cols := pty.size.cols
      pixelWidth := pty.size.pixelWidth
      pixelHeight := pty.size.pixelHeight }

def Env.lookup (env : Env) (name : Text) : Option Text := SortedMap.lookup name env

def Env.insert (env : Env) (name value : Text) : Env := SortedMap.insert name value env

/-- `env.entry(name).or_insert(value)`. -/
def Env.orInsert (env : Env) (name value : Text) : Env := SortedMap.orInsert name value env

theorem Env.lookup_insert (env : Env) (name value other : Text) :
    Env.lookup (Env.insert env name value) other =
      if other = name then some value else Env.lookup env other := by
  refine (SortedMap.lookup_insert name other value env).trans ?_
  by_cases h : other = name
  · rw [if_pos h, if_pos h]
  · rw [if_neg h, if_neg h]
    rfl

theorem Env.lookup_orInsert (env : Env) (name value other : Text) :
    Env.lookup (Env.orInsert env name value) other =
      if other = name then some ((Env.lookup env name).getD value) else Env.lookup env other := by
  refine (SortedMap.lookup_orInsert name other value env).trans ?_
  by_cases h : other = name
  · rw [if_pos h, if_pos h]
    rfl
  · rw [if_neg h, if_neg h]
    rfl

theorem Env.lookup_of_mem {env : Env} {v : Text × Text} (h : v ∈ env.1) :
    Env.lookup env v.1 = some v.2 :=
  SortedMap.lookup_of_mem h

/-- The loop of `build_child_env`: the requested variables that are allowed. -/
def allowedEnv (requestedEnv : Env) : Env :=
  SortedMap.insertAll isEnvAllowed requestedEnv Env.empty

def buildChildEnv (state : AppState) (requestedEnv : Env) (term : Option Text) : Env :=
  let env := allowedEnv requestedEnv
  let env := Env.orInsert env "HOME".toList state.homeDir
  let env := Env.orInsert env "USER".toList state.daemonUsername
  let env := Env.orInsert env "LOGNAME".toList state.daemonUsername
  let env := Env.orInsert env "SHELL".toList state.config.shell
  match term with
  | some term => Env.orInsert env "TERM".toList term
  | none => env

/-- The request of `launch_process`. -/
def processRequest (state : AppState) (pending : PendingChannel) (command : Option Text) :
    ProcessRequest where
  pty := pending.pty.map toExecutorPtyRequest
  env := buildChildEnv state pending.env (pending.pty.map PtyRequest.term)
  command := command

/-! ## The callbacks -/

/-- What a pending channel is handed to. -/
inductive Launch
  /-- `launch_shell` and `launch_exec`. -/
  | process (channel : ChannelId) (request : ProcessRequest)
  /-- `launch_sftp`. -/
  | sftp (channel : ChannelId)

def Launch.channel : Launch → ChannelId
  | process channel _ => channel
  | sftp channel => channel

/-- What the session answers to a request. -/
inductive Answer
  | channelSuccess
  | channelFailure
  deriving DecidableEq, Repr

/-- What a callback does: the channels it leaves, its result with the answer that it has sent, and
what it has launched. -/
structure Outcome where
  pending : Pending
  result : Except AnyError (Option Answer)
  launch : Option Launch

def unknownChannel (channel : ChannelId) : AnyError :=
  ⟨s!"unknown channel ChannelId({channel.toNat})", []⟩

/-- A request that is refused before the channel is looked up. -/
def refused (pending : Pending) : Outcome :=
  { pending := pending, result := .ok (some .channelFailure), launch := none }

/-- A change to a pending channel, by `channel_mut`. -/
def changeChannel (pending : Pending) (channel : ChannelId)
    (change : PendingChannel → PendingChannel) : Outcome :=
  match pending.lookup channel with
  | none => { pending := pending, result := .error (unknownChannel channel), launch := none }
  | some entry =>
      { pending := pending.insert channel (change entry)
        result := .ok (some .channelSuccess)
        launch := none }

/-- A launch on the channel that `take_channel` takes; `started` is how it ends. -/
def launchChannel (pending : Pending) (channel : ChannelId) (launch : PendingChannel → Launch)
    (started : Except AnyError Unit) : Outcome :=
  match pending.lookup channel with
  | none => { pending := pending, result := .error (unknownChannel channel), launch := none }
  | some entry =>
      { pending := pending.erase channel
        result := .ok (some (match started with
          | .ok () => .channelSuccess
          | .error _ => .channelFailure))
        launch := some (launch entry) }

section

variable (state : AppState) (pending : Pending) (channel : ChannelId)

def channelOpenSession : Outcome :=
  { pending := pending.insert channel { channel := channel, pty := none, env := Env.empty }
    result := .ok none
    launch := none }

def envRequest (variableName variableValue : Text) : Outcome :=
  if !isEnvAllowed variableName then refused pending
  else changeChannel pending channel fun entry =>
    { entry with env := Env.insert entry.env variableName variableValue }

def ptyRequest (term : Text) (colWidth rowHeight pixWidth pixHeight : UInt32) : Outcome :=
  if !state.config.permitTty then refused pending
  else changeChannel pending channel fun entry =>
    { entry with
      pty := some
        { term := term
          size :=
            { rows := clampDimension rowHeight
              cols := clampDimension colWidth
              pixelWidth := clampDimension pixWidth
              pixelHeight := clampDimension pixHeight } } }

def shellRequest (started : Except AnyError Unit) : Outcome :=
  launchChannel pending channel
    (fun entry => .process entry.channel (processRequest state entry none)) started

/-- `command` is the data of the request, decoded by `from_utf8_lossy`. -/
def execRequest (command : Text) (started : Except AnyError Unit) : Outcome :=
  if !state.config.permitExec then refused pending
  else launchChannel pending channel
    (fun entry => .process entry.channel (processRequest state entry (some command))) started

def subsystemRequest (name : Text) (started : Except AnyError Unit) : Outcome :=
  if name != "sftp".toList || !state.config.sftpEnabled then refused pending
  else launchChannel pending channel (fun entry => .sftp entry.channel) started

def channelClose : Outcome :=
  { pending := pending.erase channel, result := .ok none, launch := none }

end

/-- A callback, with how the launch it makes ends. -/
inductive Callback
  | channelOpenSession (channel : ChannelId)
  | envRequest (channel : ChannelId) (variableName variableValue : Text)
  | ptyRequest (channel : ChannelId) (term : Text)
      (colWidth rowHeight pixWidth pixHeight : UInt32)
  | shellRequest (channel : ChannelId) (started : Except AnyError Unit)
  | execRequest (channel : ChannelId) (command : Text) (started : Except AnyError Unit)
  | subsystemRequest (channel : ChannelId) (name : Text) (started : Except AnyError Unit)
  | channelClose (channel : ChannelId)

def call (state : AppState) (pending : Pending) : Callback → Outcome
  | .channelOpenSession channel => channelOpenSession pending channel
  | .envRequest channel name value => envRequest pending channel name value
  | .ptyRequest channel term cols rows width height =>
      ptyRequest state pending channel term cols rows width height
  | .shellRequest channel started => shellRequest state pending channel started
  | .execRequest channel command started => execRequest state pending channel command started
  | .subsystemRequest channel name started => subsystemRequest state pending channel name started
  | .channelClose channel => channelClose pending channel

def Callback.channel : Callback → ChannelId
  | channelOpenSession channel => channel
  | envRequest channel _ _ => channel
  | ptyRequest channel _ _ _ _ _ => channel
  | shellRequest channel _ => channel
  | execRequest channel _ _ => channel
  | subsystemRequest channel _ _ => channel
  | channelClose channel => channel

/-! ## What a callback does -/

def Callback.opens : Callback → Bool
  | channelOpenSession _ => true
  | _ => false

/-- The pty that the callback asks for, if ptys are permitted. -/
def Callback.pty (state : AppState) : Callback → Option PtyRequest
  | ptyRequest _ term colWidth rowHeight pixWidth pixHeight =>
      if state.config.permitTty then
        some
          { term := term
            size :=
              { rows := clampDimension rowHeight
                cols := clampDimension colWidth
                pixelWidth := clampDimension pixWidth
                pixelHeight := clampDimension pixHeight } }
      else none
  | _ => none

/-- The value that the callback sends for a variable. -/
def Callback.value (name : Text) : Callback → Option Text
  | envRequest _ variableName variableValue =>
      if variableName = name then some variableValue else none
  | _ => none

/-- A channel is handed to a process or to the SFTP server. -/
def Launches (state : AppState) (launch : PendingChannel → Launch) : Prop :=
  ∀ entry, (∃ command, launch entry = .process entry.channel (processRequest state entry command)) ∨
    launch entry = .sftp entry.channel

/-- **What a callback does.** -/
inductive Effect (state : AppState) (pending : Pending) : Callback → Outcome → Prop
  | opens {channel : ChannelId} :
      Effect state pending (.channelOpenSession channel) (channelOpenSession pending channel)
  | refuses {e : Callback} (hopens : e.opens = false) (hpty : e.pty state = none)
      (hvalue : ∀ name, isEnvAllowed name = true → e.value name = none) :
      Effect state pending e (refused pending)
  /-- The pty and the variable of the callback are stored. -/
  | changes {e : Callback} {change : PendingChannel → PendingChannel} (hopens : e.opens = false)
      (hchannel : ∀ entry, (change entry).channel = entry.channel)
      (hpty : ∀ entry, (change entry).pty = (e.pty state).or entry.pty)
      (henv : ∀ entry name, Env.lookup (change entry).env name =
        (e.value name).or (Env.lookup entry.env name))
      (hvalue : ∀ name, isEnvAllowed name = false → e.value name = none) :
      Effect state pending e (changeChannel pending e.channel change)
  | launches {e : Callback} {launch : PendingChannel → Launch} {started : Except AnyError Unit}
      (hlaunch : Launches state launch) :
      Effect state pending e (launchChannel pending e.channel launch started)
  | closes {channel : ChannelId} :
      Effect state pending (.channelClose channel) (channelClose pending channel)

theorem effect_envRequest (state : AppState) (pending : Pending) (channel : ChannelId)
    (name value : Text) :
    Effect state pending (.envRequest channel name value)
      (envRequest pending channel name value) := by
  have hother : ∀ other, isEnvAllowed other ≠ isEnvAllowed name →
      (Callback.envRequest channel name value).value other = none := by
    intro other hne
    have hname : name ≠ other := fun heq => hne (congrArg isEnvAllowed heq.symm)
    exact if_neg hname
  unfold envRequest
  cases hallowed : isEnvAllowed name with
  | false =>
      refine .refuses rfl rfl fun other hyes => hother other ?_
      rw [hyes, hallowed]
      exact nofun
  | true =>
      refine .changes rfl (fun _ => rfl) (fun _ => rfl) (fun entry other => ?_)
        fun other hno => hother other ?_
      · rw [Env.lookup_insert, Callback.value]
        by_cases heq : other = name
        · rw [if_pos heq, if_pos heq.symm]
          rfl
        · rw [if_neg heq, if_neg (Ne.symm heq)]
          rfl
      · rw [hno, hallowed]
        exact nofun

theorem effect_ptyRequest (state : AppState) (pending : Pending) (channel : ChannelId) (term : Text)
    (cols rows width height : UInt32) :
    Effect state pending (.ptyRequest channel term cols rows width height)
      (ptyRequest state pending channel term cols rows width height) := by
  unfold ptyRequest
  cases hpermit : state.config.permitTty with
  | false => exact .refuses rfl (by simp [Callback.pty, hpermit]) fun _ _ => rfl
  | true =>
      exact .changes rfl (fun _ => rfl) (fun _ => by simp [Callback.pty, hpermit]) (fun _ _ => rfl)
        fun _ _ => rfl

theorem call_effect (state : AppState) (pending : Pending) (e : Callback) :
    Effect state pending e (call state pending e) := by
  cases e with
  | channelOpenSession channel => exact .opens
  | envRequest channel name value => exact effect_envRequest state pending channel name value
  | ptyRequest channel term cols rows width height =>
      exact effect_ptyRequest state pending channel term cols rows width height
  | shellRequest channel started => exact .launches fun entry => .inl ⟨none, rfl⟩
  | execRequest channel command started =>
      dsimp only [call]
      unfold execRequest
      split
      · exact .refuses rfl rfl fun _ _ => rfl
      · exact .launches fun entry => .inl ⟨some command, rfl⟩
  | subsystemRequest channel name started =>
      dsimp only [call]
      unfold subsystemRequest
      split
      · exact .refuses rfl rfl fun _ _ => rfl
      · exact .launches fun entry => .inr rfl
  | channelClose channel => exact .closes

section

variable (pending : Pending) (channel c : ChannelId)

theorem lookup_changeChannel (change : PendingChannel → PendingChannel) :
    (changeChannel pending channel change).pending.lookup c =
      if c = channel then (pending.lookup channel).map change else pending.lookup c := by
  unfold changeChannel
  split
  · rename_i hnone
    split
    · rename_i hc
      rw [hc, hnone, Option.map_none]
    · rfl
  · rename_i entry hentry
    split
    · rename_i hc
      rw [hc, AList.lookup_insert, hentry, Option.map_some]
    · rename_i hc
      exact AList.lookup_insert_ne hc

theorem lookup_launchChannel (launch : PendingChannel → Launch) (started : Except AnyError Unit) :
    (launchChannel pending channel launch started).pending.lookup c =
      if c = channel then none else pending.lookup c := by
  unfold launchChannel
  split
  · rename_i hnone
    split
    · rename_i hc
      rw [hc, hnone]
    · rfl
  · by_cases hc : c = channel
    · rw [if_pos hc, hc, AList.lookup_erase]
    · rw [if_neg hc, AList.lookup_erase_ne hc]

theorem launch_changeChannel (change : PendingChannel → PendingChannel) :
    (changeChannel pending channel change).launch = none := by
  unfold changeChannel
  split <;> rfl

theorem launch_launchChannel (launch : PendingChannel → Launch) (started : Except AnyError Unit) :
    (launchChannel pending channel launch started).launch =
      (pending.lookup channel).map launch := by
  unfold launchChannel
  split
  · rename_i hnone
    rw [hnone, Option.map_none]
  · rename_i entry hentry
    rw [hentry, Option.map_some]

end

variable {state : AppState} {e : Callback}

/-- **The frame of a callback**: the other channels stay as they are. -/
theorem lookup_call_of_ne {pending : Pending} {c : ChannelId} (hc : c ≠ e.channel) :
    (call state pending e).pending.lookup c = pending.lookup c := by
  have heffect := call_effect state pending e
  generalize call state pending e = outcome at heffect
  cases heffect with
  | opens => exact AList.lookup_insert_ne hc
  | refuses => rfl
  | changes => exact (lookup_changeChannel ..).trans (if_neg hc)
  | launches => exact (lookup_launchChannel ..).trans (if_neg hc)
  | closes => exact AList.lookup_erase_ne hc

/-- A launch takes a pending channel, the one the callback is about. -/
theorem pending_of_launch {pending : Pending} {launch : Launch}
    (h : (call state pending e).launch = some launch) :
    ∃ entry, pending.lookup e.channel = some entry ∧ launch.channel = entry.channel ∧
      ∀ channel request, launch = .process channel request →
        ∃ command, request = processRequest state entry command := by
  have heffect := call_effect state pending e
  generalize call state pending e = outcome at h heffect
  cases heffect with
  | opens => cases h
  | refuses => cases h
  | changes =>
      rw [launch_changeChannel] at h
      cases h
  | launches hlaunch =>
      rw [launch_launchChannel] at h
      obtain ⟨entry, hentry, rfl⟩ := Option.map_eq_some_iff.mp h
      refine ⟨entry, hentry, ?_⟩
      rcases hlaunch entry with ⟨command, hprocess⟩ | hsftp
      · rw [hprocess]
        refine ⟨rfl, fun channel request heq => ⟨command, ?_⟩⟩
        cases heq
        rfl
      · rw [hsftp]
        exact ⟨rfl, nofun⟩
  | closes => cases h

/-! ## Histories

The callbacks of a connection so far, the newest first, and what they say about one channel since it
was opened.
-/

def replay (state : AppState) : List Callback → Pending
  | [] => ∅
  | e :: h => (call state (replay state h) e).pending

/-- What a callback launches after the history `h`. -/
def launchOf (state : AppState) (h : List Callback) (e : Callback) : Option Launch :=
  (call state (replay state h) e).launch

/-- The callbacks on the channel since it was opened. -/
def since (c : ChannelId) : List Callback → List Callback
  | [] => []
  | e :: h =>
      if e.channel = c then if e.opens then [] else e :: since c h
      else since c h

/-- What has been launched on the channel since it was opened. -/
def launchesSince (state : AppState) (c : ChannelId) : List Callback → List Launch
  | [] => []
  | e :: h =>
      if e.channel = c ∧ e.opens then []
      else ((launchOf state h e).filter (·.channel = c)).toList ++ launchesSince state c h

/-- The last pty request permitted on the channel. -/
def lastPty (state : AppState) (c : ChannelId) (h : List Callback) : Option PtyRequest :=
  (since c h).findSome? (Callback.pty state)

/-- The last value sent on the channel for a variable. -/
def sentValue (c : ChannelId) (name : Text) (h : List Callback) : Option Text :=
  (since c h).findSome? (Callback.value name)

/-- What a pending channel holds after the history `h`. -/
structure Collected (state : AppState) (c : ChannelId) (h : List Callback) (p : PendingChannel) :
    Prop where
  channel : p.channel = c
  pty : p.pty = lastPty state c h
  env : ∀ name, Env.lookup p.env name = if isEnvAllowed name then sentValue c name h else none
  launches : launchesSince state c h = []

section

variable {state : AppState} {c : ChannelId} {h : List Callback} {e : Callback}
  {p q : PendingChannel}

theorem since_cons (hc : e.channel = c) (hopens : e.opens = false) :
    since c (e :: h) = e :: since c h := by
  rw [since, if_pos hc, hopens]
  rfl

theorem launchesSince_cons (hlaunch : launchOf state h e = none) (hopens : e.opens = false) :
    launchesSince state c (e :: h) = launchesSince state c h := by
  rw [launchesSince, hlaunch, hopens]
  simp

/-- A callback on the channel that stores its pty and its variable, if it has an allowed one. -/
theorem Collected.step (hq : Collected state e.channel h q) (hopens : e.opens = false)
    (hlaunch : launchOf state h e = none) (hchannel : p.channel = q.channel)
    (hpty : p.pty = (e.pty state).or q.pty)
    (henv : ∀ name, Env.lookup p.env name =
      (if isEnvAllowed name then e.value name else none).or (Env.lookup q.env name)) :
    Collected state e.channel (e :: h) p where
  channel := hchannel.trans hq.channel
  pty := by
    rw [hpty, hq.pty, lastPty, lastPty, since_cons rfl hopens, List.findSome?_cons]
    cases e.pty state <;> rfl
  env name := by
    rw [henv, hq.env, sentValue, sentValue, since_cons rfl hopens, List.findSome?_cons]
    cases isEnvAllowed name
    · rfl
    · cases e.value name <;> rfl
  launches := (launchesSince_cons hlaunch hopens).trans hq.launches

/-- A callback on another channel. -/
theorem Collected.frame (hp : Collected state c h p) (hc : e.channel ≠ c)
    (hlaunch : ∀ launch, launchOf state h e = some launch → launch.channel = e.channel) :
    Collected state c (e :: h) p where
  channel := hp.channel
  pty := by
    rw [hp.pty, lastPty, lastPty, since, if_neg hc]
  env name := by
    rw [hp.env, sentValue, sentValue, since, if_neg hc]
  launches := by
    rw [launchesSince, if_neg fun hopens => hc hopens.1, hp.launches, List.append_nil]
    rcases hlaunch' : launchOf state h e with _ | launch
    · rfl
    · have hne : launch.channel ≠ c := fun heq => hc ((hlaunch launch hlaunch').symm.trans heq)
      simp [Option.filter, hne]

/-- A channel that has just been opened. -/
theorem collected_channelOpenSession :
    Collected state c (.channelOpenSession c :: h)
      { channel := c, pty := none, env := Env.empty } where
  channel := rfl
  pty := by simp [lastPty, since, Callback.channel, Callback.opens]
  env name := by
    have hempty : Env.lookup Env.empty name = none := rfl
    simp [sentValue, since, Callback.channel, Callback.opens, hempty]
  launches := by simp [launchesSince, Callback.channel, Callback.opens]

/-- A callback on the channel. -/
theorem Collected.own (hh : ∀ q, (replay state h).lookup e.channel = some q →
      Collected state e.channel h q)
    (hp : (replay state (e :: h)).lookup e.channel = some p) :
    Collected state e.channel (e :: h) p := by
  rw [replay] at hp
  have heffect := call_effect state (replay state h) e
  generalize hcall : call state (replay state h) e = outcome at heffect hp
  cases heffect with
  | opens =>
      cases (AList.lookup_insert _).symm.trans hp
      exact collected_channelOpenSession
  | refuses hopens hpty hvalue =>
      refine (hh p hp).step hopens (by rw [launchOf, hcall]; rfl) rfl ?_ fun name => ?_
      · rw [hpty, Option.none_or]
      · cases hallowed : isEnvAllowed name with
        | false => rfl
        | true => simp [hvalue name hallowed]
  | changes hopens hchannel hpty henv hvalue =>
      rw [lookup_changeChannel, if_pos rfl] at hp
      obtain ⟨q, hq, rfl⟩ := Option.map_eq_some_iff.mp hp
      refine (hh q hq).step hopens ?_ (hchannel q) (hpty q) fun name => ?_
      · rw [launchOf, hcall, launch_changeChannel]
      · rw [henv]
        cases hallowed : isEnvAllowed name with
        | false => simp [hvalue name hallowed]
        | true => rfl
  | launches =>
      rw [lookup_launchChannel, if_pos rfl] at hp
      cases hp
  | closes => cases (AList.lookup_erase _ _).symm.trans hp

end

/-- **What is collected**: at any time a pending channel holds its last permitted pty request and
the last values of the allowed variables, and nothing has been launched on it. -/
theorem collected (state : AppState) (h : List Callback) :
    ∀ c p, (replay state h).lookup c = some p → Collected state c h p := by
  induction h with
  | nil =>
      intro c p hp
      cases hp
  | cons e h ih =>
      intro c p hp
      by_cases hc : e.channel = c
      · subst hc
        exact .own (ih e.channel) hp
      · have hp' := (lookup_call_of_ne (Ne.symm hc)).symm.trans hp
        refine (ih c p hp').frame hc fun launch hlaunch => ?_
        obtain ⟨entry, hentry, hchannel, -⟩ := pending_of_launch hlaunch
        exact hchannel.trans (ih e.channel entry hentry).channel

/-- A launch is on the channel of its callback, with what that channel has collected. -/
theorem collected_of_launchOf {h : List Callback} {launch : Launch}
    (hlaunch : launchOf state h e = some launch) :
    ∃ entry, Collected state launch.channel h entry ∧
      ∀ channel request, launch = .process channel request →
        ∃ command, request = processRequest state entry command := by
  obtain ⟨entry, hentry, hchannel, hrequest⟩ := pending_of_launch hlaunch
  have hentry := collected state h e.channel entry hentry
  rw [← hentry.channel, ← hchannel] at hentry
  exact ⟨entry, hentry, hrequest⟩

/-- A channel is launched once at most after it was opened. -/
theorem length_launchesSince_le (state : AppState) (c : ChannelId) (h : List Callback) :
    (launchesSince state c h).length ≤ 1 := by
  induction h with
  | nil => exact Nat.zero_le 1
  | cons e h ih =>
      rw [launchesSince]
      split
      · exact Nat.zero_le 1
      · rcases hlaunch : launchOf state h e with _ | launch
        · exact ih
        · by_cases hc : launch.channel = c
          · -- the channel was pending, so this is its first launch
            obtain ⟨entry, hentry, -⟩ := collected_of_launchOf hlaunch
            rw [hc] at hentry
            rw [hentry.launches]
            simp [Option.filter, hc]
          · simpa [Option.filter, hc] using ih

theorem lastPty_of_not_permitTty (hpermit : state.config.permitTty = false) (c : ChannelId)
    (h : List Callback) : lastPty state c h = none := by
  refine List.findSome?_eq_none_iff.mpr fun e _ => ?_
  cases e <;> simp [Callback.pty, hpermit]

/-! ## The environment of a process -/

/-- The variables that a client may set. -/
def ClientVariable (name : Text) : Prop :=
  name ∈ ["TERM".toList, "COLORTERM".toList, "LANG".toList, "TZ".toList] ∨ "LC_".toList <+: name

theorem isEnvAllowed_iff (name : Text) : isEnvAllowed name = true ↔ ClientVariable name := by
  have htake : name.take 3 = "LC_".toList ↔ "LC_".toList <+: name :=
    eq_comm.trans List.prefix_iff_eq_take.symm
  simp only [isEnvAllowed, ClientVariable, Bool.or_eq_true, beq_iff_eq, htake, List.mem_cons,
    List.not_mem_nil, or_false, or_assoc]

/-- The variables of the server, with their values. -/
def serverVariables (state : AppState) : List (Text × Text) :=
  [("HOME".toList, state.homeDir), ("USER".toList, state.daemonUsername),
    ("LOGNAME".toList, state.daemonUsername), ("SHELL".toList, state.config.shell)]

/-- The variables of the server are not the client's. -/
theorem isEnvAllowed_of_mem {e : Text × Text} (he : e ∈ serverVariables state) :
    isEnvAllowed e.1 = false := by
  simp only [serverVariables, List.mem_cons, List.not_mem_nil, or_false] at he
  rcases he with rfl | rfl | rfl | rfl <;> rfl

theorem lookup_serverVariables {e : Text × Text} (he : e ∈ serverVariables state) :
    (serverVariables state).lookup e.1 = some e.2 := by
  simp only [serverVariables, List.mem_cons, List.not_mem_nil, or_false] at he
  rcases he with rfl | rfl | rfl | rfl <;> rfl

theorem lookup_allowedEnv (requestedEnv : Env) (name : Text) :
    Env.lookup (allowedEnv requestedEnv) name =
      if isEnvAllowed name then Env.lookup requestedEnv name else none := by
  refine (SortedMap.lookup_insertAll isEnvAllowed requestedEnv Env.empty name).trans ?_
  have hempty : SortedMap.lookup name Env.empty = none := rfl
  rw [hempty, Option.or_none]
  rfl

/-- Of the values that are entered for a name, the first counts, and none counts over what is
there. -/
theorem lookup_foldl_orInsert (entries : List (Text × Text)) (env : Env) (name : Text) :
    Env.lookup (entries.foldl (fun env e => Env.orInsert env e.1 e.2) env) name =
      (Env.lookup env name).or (entries.lookup name) := by
  induction entries generalizing env with
  | nil => exact Option.or_none.symm
  | cons e entries ih =>
      rw [List.foldl_cons, ih, Env.lookup_orInsert, List.lookup_cons]
      by_cases hname : name = e.1
      · subst hname
        rw [if_pos rfl, beq_self_eq_true]
        cases Env.lookup env e.1 <;> rfl
      · rw [if_neg hname, beq_false_of_ne hname]

theorem buildChildEnv_eq_foldl (state : AppState) (requestedEnv : Env) (term : Option Text) :
    buildChildEnv state requestedEnv term =
      (serverVariables state ++ (term.map fun term => ("TERM".toList, term)).toList).foldl
        (fun env e => Env.orInsert env e.1 e.2) (allowedEnv requestedEnv) := by
  cases term <;> rfl

theorem lookup_term (term : Option Text) (name : Text) :
    ((term.map fun term => ("TERM".toList, term)).toList).lookup name =
      if name = "TERM".toList then term else none := by
  cases term with
  | none => exact (ite_self none).symm
  | some term =>
      rw [Option.map_some, Option.toList_some, List.lookup_singleton]
      by_cases hterm : name = "TERM".toList
      · rw [if_pos hterm, if_pos (beq_iff_eq.mpr hterm)]
      · rw [if_neg hterm, if_neg (by simpa using hterm)]

/-- A variable that the client may set. -/
theorem lookup_buildChildEnv_of_allowed (state : AppState) (requestedEnv : Env) (term : Option Text)
    {name : Text} (hname : isEnvAllowed name = true) :
    Env.lookup (buildChildEnv state requestedEnv term) name =
      (Env.lookup requestedEnv name).or (if name = "TERM".toList then term else none) := by
  have hserver : (serverVariables state).lookup name = none := by
    refine List.lookup_eq_none_iff.mpr fun e he => ?_
    have hne : name ≠ e.1 := fun heq => by
      rw [heq, isEnvAllowed_of_mem he] at hname
      cases hname
    exact bne_iff_ne.mpr hne
  rw [buildChildEnv_eq_foldl, lookup_foldl_orInsert, lookup_allowedEnv, if_pos hname,
    List.lookup_append, hserver, Option.none_or, lookup_term]

/-- A variable that the client may not set. -/
theorem lookup_buildChildEnv_of_not_allowed (state : AppState) (requestedEnv : Env)
    (term : Option Text) {name : Text} (hname : isEnvAllowed name = false) :
    Env.lookup (buildChildEnv state requestedEnv term) name =
      (serverVariables state).lookup name := by
  have hterm : name ≠ "TERM".toList := by
    rintro rfl
    cases hname
  rw [buildChildEnv_eq_foldl, lookup_foldl_orInsert, lookup_allowedEnv, hname,
    List.lookup_append, lookup_term, if_neg hterm, Option.or_none]
  rfl

/-- **One launch per channel, with a clean environment**: whatever callbacks came in whatever order,
a channel is launched once at most after it was opened, be the launch a success or not. The request
for a process has the last pty that was permitted on the channel, none where ptys are not permitted,
and an environment in which the server's variables have the server's values, the others are those a
client may set, and each of them has the last value sent on the channel; `TERM` falls back to the
terminal of the pty. -/
theorem one_launch_per_channel (state : AppState) (c : ChannelId) (h : List Callback) :
    (launchesSince state c h).length ≤ 1 ∧
      ∀ e request, launchOf state h e = some (.process c request) →
        request.pty = (lastPty state c h).map toExecutorPtyRequest ∧
        (state.config.permitTty = false → request.pty = none) ∧
        (∀ v ∈ serverVariables state, Env.lookup request.env v.1 = some v.2) ∧
        (∀ v ∈ request.env.1, v ∈ serverVariables state ∨ ClientVariable v.1) ∧
        ∀ name, ClientVariable name → Env.lookup request.env name =
          (sentValue c name h).or
            (if name = "TERM".toList then (lastPty state c h).map PtyRequest.term else none) := by
  refine ⟨length_launchesSince_le state c h, fun e request hlaunch => ?_⟩
  obtain ⟨entry, hentry, hrequest⟩ := collected_of_launchOf hlaunch
  obtain ⟨command, rfl⟩ := hrequest c request rfl
  have hentry : Collected state c h entry := hentry
  refine ⟨?_, fun hpermit => ?_, fun v hv => ?_, fun v hv => ?_, fun name hname => ?_⟩
  · rw [processRequest, hentry.pty]
  · rw [processRequest, hentry.pty, lastPty_of_not_permitTty hpermit]
    rfl
  · rw [processRequest, lookup_buildChildEnv_of_not_allowed _ _ _ (isEnvAllowed_of_mem hv)]
    exact lookup_serverVariables hv
  · rw [or_iff_not_imp_right, ← isEnvAllowed_iff, Bool.not_eq_true]
    intro hallowed
    have hlookup : (serverVariables state).lookup v.1 = some v.2 :=
      (lookup_buildChildEnv_of_not_allowed _ _ _ hallowed).symm.trans (Env.lookup_of_mem hv)
    obtain ⟨l₁, l₂, hsplit, -⟩ := List.lookup_eq_some_iff.mp hlookup
    rw [hsplit]
    simp
  · have hallowed := (isEnvAllowed_iff name).mpr hname
    rw [processRequest, lookup_buildChildEnv_of_allowed _ _ _ hallowed, hentry.env, if_pos hallowed,
      hentry.pty]

/-- A client that sends `HOME` and two values of `LANG`, and asks for a pty. -/
def preparedChannel : List Callback :=
  [.ptyRequest 0 "xterm".toList 80 24 0 0, .envRequest 0 "LANG".toList "C.UTF-8".toList,
    .envRequest 0 "LANG".toList "C".toList, .envRequest 0 "HOME".toList "/".toList,
    .channelOpenSession 0]

/-- The shell that it then asks for. -/
theorem one_launch_for_shell :
    ∃ config request, AppConfig.defaults .linux ⟨some "/home/user".toList, none⟩ = .ok config ∧
      launchOf ⟨config, "/home/user".toList, "user".toList⟩ preparedChannel
        (.shellRequest 0 (.ok ())) = some (.process 0 request) ∧
      request.pty = some ⟨"xterm".toList, ⟨24, 80, 1, 1⟩⟩ ∧
      Env.lookup request.env "HOME".toList = some "/home/user".toList ∧
      Env.lookup request.env "LANG".toList = some "C.UTF-8".toList ∧
      Env.lookup request.env "TERM".toList = some "xterm".toList := by
  obtain ⟨config, request, hconfig, htty, hlaunch⟩ : ∃ config request,
      AppConfig.defaults .linux ⟨some "/home/user".toList, none⟩ = .ok config ∧
        config.permitTty = true ∧
        launchOf ⟨config, "/home/user".toList, "user".toList⟩ preparedChannel
          (.shellRequest 0 (.ok ())) = some (.process 0 request) := ⟨_, _, rfl, rfl, rfl⟩
  obtain ⟨hpty, -, hserver, -, hclient⟩ := (one_launch_per_channel _ 0 _).2 _ _ hlaunch
  have hlast : lastPty ⟨config, "/home/user".toList, "user".toList⟩ 0 preparedChannel =
      some ⟨"xterm".toList, ⟨24, 80, 1, 1⟩⟩ := by
    have hcols : clampDimension 80 = 80 := rfl
    have hrows : clampDimension 24 = 24 := rfl
    have hpixels : clampDimension 0 = 1 := rfl
    simp [lastPty, preparedChannel, since, Callback.channel, Callback.opens, Callback.pty, htty,
      hcols, hrows, hpixels]
  rw [hlast] at hpty hclient
  refine ⟨config, request, hconfig, hlaunch, hpty, ?_, ?_, ?_⟩
  · exact hserver ("HOME".toList, _) List.mem_cons_self
  · exact hclient _ (.inl (by simp))
  · exact hclient _ (.inl (by simp))

end Narrowd.Sshd.Channels
