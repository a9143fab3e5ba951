import PapajBadge.BlePeriph.AttributeReads
import PapajBadge.BlePeriph.PanicFreedom
import PapajBadge.BlePeriph.ServiceIsolation

/-!
# The peripheral as an attribute server

The peripheral event loop together with what it leaves out: the reads of connected peers,
which reach the read callbacks of the three services, and the task that blinks the LED.
Reads and blinking come at any time between the steps of the event loop.

Main results:

- Theorem `reads_leave_peripheral`: a run with reads and blinking contains a run of the
  event loop, with the same events, notifications and library calls.
- Theorem `led_follows_commands`: without empty commands, the LED, the replies and the
  notifications follow the command written last.
- Theorem `systemId_reads`: a read of the System ID is served zeros until the device has
  started, and then an id that the address can be recovered from.
-/

namespace PapajBadge

open TransitionSystem

variable {G : GapRole} {A : GattServApp}

/-- The services with a read callback. -/
inductive ReadableService where
  | deviceInformation
  | blinky
  | currentTime
deriving DecidableEq, Repr

/-- The peripheral, and the level of the LED pin. -/
structure Server (G : GapRole) (A : GattServApp) where
  core : Peripheral G A
  ledHigh : Bool

/-- A step of the event loop, a read while the clock shows `now`, or one turn of
`blinky_service_loop`. -/
inductive ServerAction where
  | core (a : Action)
  | read (service : ReadableService) (req : ReadRequest) (now : DateTime)
  | ledTurn

/-- What can be seen of a step of the server. -/
inductive ServerObs where
  | core (o : Obs)
  | replied (service : ReadableService) (req : ReadRequest) (reply : ReadReply)
  | toggled

/-- The read callback of a service: the reply and the statics afterwards. -/
def Peripheral.readAttr (service : ReadableService) (req : ReadRequest) (now : DateTime)
    (s : Peripheral G A) : ReadReply × Peripheral G A :=
  match service with
  | .deviceInformation => (devInfoOnReadAttr s.gap.systemId req, s)
  | .blinky => (blinkyOnReadAttr req s.blinky, s)
  | .currentTime =>
      let read := ctsOnReadAttr now req s.cts
      (read.reply, { s with cts := read.state })

namespace Server

/-- The state after the services were registered and the tasks were spawned; the pin
starts low. -/
def boot (profile : Profile) (store : G.Store) (dataHandle : UInt16) : Server G A where
  core := Peripheral.boot profile store dataHandle
  ledHigh := false

/-- One step of the server.  Only connected peers read, and nothing happens after a
panic. -/
def step (s : Server G A) : ServerAction → Option (Server G A × List ServerObs)
  | .core a => (s.core.step a).map fun next => ({ s with core := next.1 }, next.2.map .core)
  | .read service req now =>
      if s.core.panicked = true ∨ s.core.linkOn req.connHandle = none then none
      else
        let (reply, core) := s.core.readAttr service req now
        some ({ s with core := core }, [.replied service req reply])
  | .ledTurn =>
      if s.core.panicked then none
      else if s.core.blinky.blinkyOn then some ({ s with ledHigh := !s.ledHigh }, [.toggled])
      else some (s, [])

end Server

/-- The server from its boot state. -/
def serverMachine (G : GapRole) (A : GattServApp) :
    TransitionSystem (Server G A) ServerAction ServerObs where
  initial s := ∃ profile store dataHandle, s = Server.boot profile store dataHandle
  step s a := s.step a

/-- A step of the server. -/
abbrev ServerStep (G : GapRole) (A : GattServApp) :=
  Transition (Server G A) ServerAction ServerObs

/-! ## What one step can do -/

/-- A step is one of the event loop, a reply, or a turn of the LED. -/
theorem Server.step_cases {s s' : Server G A} {a : ServerAction} {out : List ServerObs}
    (h : s.step a = some (s', out)) :
    (∃ b obs, a = .core b ∧ s.core.step b = some (s'.core, obs) ∧ s'.ledHigh = s.ledHigh ∧
      out = obs.map .core) ∨
    (∃ service req now, a = .read service req now ∧
      s' = { s with core := (s.core.readAttr service req now).2 } ∧
      out = [.replied service req (s.core.readAttr service req now).1]) ∨
    (a = .ledTurn ∧ s' = { s with ledHigh := xor s.ledHigh s.core.blinky.blinkyOn } ∧
      ∀ o ∈ out, o = .toggled) := by
  cases a with
  | core b =>
      rcases Option.map_eq_some_iff.mp h with ⟨⟨core, obs⟩, hcore, hnext⟩
      cases hnext
      exact Or.inl ⟨b, obs, rfl, hcore, rfl, rfl⟩
  | read service req now =>
      rw [Server.step] at h
      split_ifs at h with hrefused
      cases h
      exact Or.inr (Or.inl ⟨service, req, now, rfl, rfl, rfl⟩)
  | ledTurn =>
      rw [Server.step] at h
      split_ifs at h with hpanicked hon
      · cases h
        exact Or.inr (Or.inr ⟨rfl, by simp [hon], by simp⟩)
      · cases h
        exact Or.inr (Or.inr ⟨rfl, by simp [hon], by simp⟩)

/-- A read changes at most the copy of the time. -/
theorem Peripheral.readAttr_blinky (service : ReadableService) (req : ReadRequest)
    (now : DateTime) (s : Peripheral G A) :
    (s.readAttr service req now).2.blinky = s.blinky ∧
      (s.readAttr service req now).2.gap = s.gap := by
  cases service <;> exact ⟨rfl, rfl⟩

/-! ## The event loop inside -/

/-- The same state with another copy of the time. -/
def Peripheral.withTime (s : Peripheral G A) (v : CurrentTime) : Peripheral G A :=
  s.withCts { s.cts with currentTimeValue := v }

/-- A write to the Current Time service does not look at the copy of the time. -/
theorem ctsOnWriteAttr_withTime (req : WriteRequest) (cts : CtsState A) (v : CurrentTime) :
    ctsOnWriteAttr req { cts with currentTimeValue := v } =
      { status := (ctsOnWriteAttr req cts).status
        state := { (ctsOnWriteAttr req cts).state with currentTimeValue := v }
        rtcSet := (ctsOnWriteAttr req cts).rtcSet } := by
  by_cases hoffset : req.offset > 0
  · rw [ctsOnWriteAttr_long hoffset, ctsOnWriteAttr_long hoffset]
  · by_cases htime : req.uuid = currentTimeUuid
    · rw [ctsOnWriteAttr_time hoffset htime, ctsOnWriteAttr_time hoffset htime]
      cases CurrentTime.fromBytes req.payload <;> rfl
    · by_cases hccc : req.uuid = gattClientCharCfgUuid
      · rw [ctsOnWriteAttr_ccc hoffset hccc, ctsOnWriteAttr_ccc hoffset hccc]
        cases A.processCccWriteReq req.connHandle req.value req.len req.offset
          gattClientCfgNotify cts.charCfg <;> rfl
      · rw [ctsOnWriteAttr_other hoffset htime hccc, ctsOnWriteAttr_other hoffset htime hccc]

/-- No other step changes the statics of the Current Time service. -/
theorem Peripheral.step_cts {s s' : Peripheral G A} {a : Action} {out : List Obs}
    (ha : ∀ req, a ≠ .ctsWrite req) (h : s.step a = some (s', out)) : s'.cts = s.cts := by
  have hsame : s.withCts s.cts = s := rfl
  have hstep := Peripheral.step_withCts s s.cts ha
  rw [hsame, h, Option.map_some, Option.some.injEq, Prod.mk.injEq] at hstep
  rw [hstep.1]
  rfl

/-- A write to the Current Time service keeps the copy of the time. -/
theorem Peripheral.ctsWrite_withTime (s : Peripheral G A) (v : CurrentTime) (req : WriteRequest)
    (link : Link) :
    ctsWrite req link (s.withTime v) =
      ((ctsWrite req link s).1.withTime v, (ctsWrite req link s).2) := by
  have hccc : ctsCccWrite req (s.withTime v).cts = ctsCccWrite req s.cts := rfl
  have hwrite : ctsOnWriteAttr req (s.withTime v).cts = _ := ctsOnWriteAttr_withTime req s.cts v
  unfold ctsWrite
  rw [hccc, hwrite]
  rfl

/-- No step looks at the copy of the time. -/
theorem Peripheral.step_withTime (s : Peripheral G A) (v : CurrentTime) (a : Action) :
    (s.withTime v).step a = (s.step a).map fun next => (next.1.withTime v, next.2) := by
  by_cases ha : ∃ req, a = .ctsWrite req
  · rcases ha with ⟨req, rfl⟩
    have hpanicked : (s.withTime v).panicked = s.panicked := rfl
    have hlink : (s.withTime v).linkOn req.connHandle = s.linkOn req.connHandle := rfl
    unfold step
    rw [hpanicked]
    split_ifs
    · rfl
    · dsimp only
      rw [hlink]
      cases s.linkOn req.connHandle with
      | none => rfl
      | some link => exact congrArg some (ctsWrite_withTime s v req link)
  · have hother : ∀ req, a ≠ .ctsWrite req := by
      intro req hreq
      exact ha ⟨req, hreq⟩
    have hstep := Peripheral.step_withCts s { s.cts with currentTimeValue := v } hother
    rw [withTime, hstep]
    cases hs : s.step a with
    | none => rfl
    | some next =>
        rw [Option.map_some, Option.map_some, withTime, Peripheral.step_cts hother hs]

/-- The event loop inside a server, up to the copy of the time. -/
def SameBut (s : Server G A) (t : Peripheral G A) : Prop :=
  ∃ v, s.core = t.withTime v

/-- The actions of the event loop. -/
def innerAction : ServerAction → Option Action
  | .core a => some a
  | _ => none

/-- The observations of the event loop. -/
def innerObs : ServerObs → Option Obs
  | .core o => some o
  | _ => none

theorem filterMap_innerObs (obs : List Obs) : (obs.map ServerObs.core).filterMap innerObs = obs := by
  rw [List.filterMap_map]
  exact List.filterMap_some

/-- A read leaves the event loop as it is. -/
theorem SameBut.read {s : Server G A} {t : Peripheral G A} (hsame : SameBut s t)
    (service : ReadableService) (req : ReadRequest) (now : DateTime) :
    ∃ v, (s.core.readAttr service req now).2 = t.withTime v := by
  rcases hsame with ⟨v, hcore⟩
  cases service with
  | deviceInformation => exact ⟨v, hcore⟩
  | blinky => exact ⟨v, hcore⟩
  | currentTime =>
      have hread : ∃ v', (ctsOnReadAttr now req s.core.cts).state =
          { s.core.cts with currentTimeValue := v' } := by
        unfold ctsOnReadAttr
        split_ifs
        · exact ⟨s.core.cts.currentTimeValue, rfl⟩
        · exact ⟨CurrentTime.fromDatetime now, rfl⟩
        · exact ⟨s.core.cts.currentTimeValue, rfl⟩
      rcases hread with ⟨v', hv'⟩
      refine ⟨v', ?_⟩
      change { s.core with cts := (ctsOnReadAttr now req s.core.cts).state } = t.withTime v'
      rw [hv', hcore]
      rfl

/-- The server wraps the event loop. -/
theorem serverMachine_wraps (G : GapRole) (A : GattServApp) :
    Wraps (serverMachine G A) (peripheralMachine G A) SameBut innerAction innerObs where
  init := by
    rintro s ⟨profile, store, dataHandle, rfl⟩
    exact ⟨Peripheral.boot profile store dataHandle, ⟨profile, store, dataHandle, rfl⟩,
      CurrentTime.default, rfl⟩
  inner_step := by
    rintro s t a b s' out ⟨v, hcore⟩ ha hs
    rcases Server.step_cases hs with
      ⟨b', obs, rfl, hstep, -, rfl⟩ | ⟨service, req, now, rfl, -, -⟩ | ⟨rfl, -, -⟩
    · cases ha
      rw [hcore, Peripheral.step_withTime] at hstep
      rcases Option.map_eq_some_iff.mp hstep with ⟨⟨t', obs'⟩, ht, hnext⟩
      rw [Prod.mk.injEq] at hnext
      rcases hnext with ⟨hafter, rfl⟩
      refine ⟨t', ?_, v, hafter.symm⟩
      rw [filterMap_innerObs]
      exact ht
    · cases ha
    · cases ha
  own_step := by
    rintro s t a s' out hsame ha hs
    rcases Server.step_cases hs with
      ⟨b', obs, rfl, hstep, -, rfl⟩ | ⟨service, req, now, rfl, rfl, rfl⟩ | ⟨rfl, rfl, hout⟩
    · cases ha
    · exact ⟨hsame.read service req now, rfl⟩
    · refine ⟨hsame, ?_⟩
      apply List.filterMap_eq_nil_iff.mpr
      intro o ho
      rw [hout o ho]
      rfl

/-- Reads and the blinking of the LED do not disturb the event loop: taking them out of a
run leaves a run of the event loop that makes the same observations and ends in the same
state, up to the copy of the time. -/
theorem reads_leave_peripheral {trace : List (ServerStep G A)} {s : Server G A}
    (hrun : (serverMachine G A).Run trace s) :
    ∃ trace' t, (peripheralMachine G A).Run trace' t ∧
      trace'.map Transition.action = (trace.map Transition.action).filterMap innerAction ∧
      outputsOf trace' = (outputsOf trace).filterMap innerObs ∧ SameBut s t :=
  hrun.project (serverMachine_wraps G A)

/-! ## The LED -/

/-- What the blinky service is for: peers switch the blinking of the LED on and off. -/
structure LedControl where
  blinking : Bool
  high : Bool
deriving DecidableEq, Repr

/-- The LED blinks at first, and the pin is low. -/
def LedControl.start : LedControl where
  blinking := true
  high := false

/-- The command that a byte stands for. -/
def commandOfByte (b : UInt8) : Option Bool :=
  if b = 0x01 then some true else if b = 0x00 then some false else none

/-- The command that an action writes: the first byte the peer sent. -/
def commandOf : ServerAction → Option Bool
  | .core (.blinkyWrite req) =>
      if req.uuid = blinkyCmdUuid then req.payload.head?.bind commandOfByte else none
  | _ => none

/-- A command that is written has a first byte.  For an empty one the callback takes the
byte that lies behind the value pointer. -/
def CommandSent : ServerAction → Prop
  | .core (.blinkyWrite req) => req.uuid = blinkyCmdUuid → req.len ≠ 0
  | _ => True

instance : DecidablePred CommandSent := fun a =>
  match a with
  | .core (.blinkyWrite _) => inferInstanceAs (Decidable (_ → _))
  | .core (.linkEstablished _) | .core (.linkLost _ _) | .core (.gapNotify _)
  | .core (.ctsWrite _) | .core .loopReceive | .core (.loopTimer _) | .core (.notifierTick _)
  | .core .notifierReceive | .read _ _ _ | .ledTurn => isTrue trivial

/-- A turn toggles the pin while the LED blinks, and a command switches the blinking. -/
def LedControl.next (c : LedControl) : ServerAction → LedControl
  | .ledTurn => { c with high := xor c.high c.blinking }
  | a => { c with blinking := (commandOf a).getD c.blinking }

/-- The control after a sequence of actions. -/
def ledControl (actions : List ServerAction) : LedControl :=
  actions.foldl LedControl.next LedControl.start

/-- The byte that reports whether the LED blinks. -/
def blinkingByte (blinking : Bool) : UInt8 :=
  if blinking then 0x01 else 0x00

/-- The byte by which an observation reports whether the LED blinks: the reply to a read
of the data, or the value of a notification. -/
def reportedBlinking : ServerObs → Option UInt8
  | .replied .blinky req reply =>
      if req.offset = 0 ∧ req.uuid = blinkyDataUuid then reply.written.head? else none
  | .core (.tick (.copy _ bytes)) => bytes.head?
  | _ => none

/-- A write switches the blinking as the command says. -/
theorem blinkyOnWriteAttr_blinkyOn {req : WriteRequest}
    (hsent : CommandSent (.core (.blinkyWrite req))) (s : BlinkyState A) :
    (blinkyOnWriteAttr req s).state.blinkyOn =
      (commandOf (.core (.blinkyWrite req))).getD s.blinkyOn := by
  rcases blinky_attribute_cases req.uuid with hcmd | hconf | hccc | ⟨hcmd, hconf, hccc⟩
  · rw [blinkyOnWriteAttr_cmd hcmd, commandOf, if_pos hcmd, WriteRequest.payload_head?,
      if_neg (hsent hcmd), Option.bind_some, commandOfByte]
    split_ifs <;> rfl
  · rw [blinkyOnWriteAttr_conf hconf, commandOf, hconf, if_neg blinkyConfUuid_ne_cmd]
    rfl
  · rw [blinkyOnWriteAttr_ccc hccc, commandOf, hccc, if_neg blinkyCmdUuid_ne_ccc.symm]
    cases A.processCccWriteReq req.connHandle req.value req.len req.offset
      gattClientCfgNotify s.charCfg <;> rfl
  · rw [blinkyOnWriteAttr_other hcmd hconf hccc, commandOf, if_neg hcmd]
    rfl

/-- What a write of a connected peer leaves in the blinky service. -/
theorem Peripheral.step_blinkyWrite {s s' : Peripheral G A} {req : WriteRequest} {out : List Obs}
    (h : s.step (.blinkyWrite req) = some (s', out)) :
    s'.blinky = (blinkyOnWriteAttr req s.blinky).state := by
  unfold step at h
  split_ifs at h with hpanicked
  dsimp only at h
  cases hlink : s.linkOn req.connHandle with
  | none => simp [hlink] at h
  | some link =>
      rw [hlink] at h
      cases h
      rfl

/-- A step switches the blinking as the command it writes says. -/
theorem Peripheral.step_blinkyOn {s s' : Peripheral G A} {a : Action} {out : List Obs}
    (h : s.step a = some (s', out)) (hsent : CommandSent (.core a)) :
    s'.blinky.blinkyOn = (commandOf (.core a)).getD s.blinky.blinkyOn := by
  by_cases hwrite : ∃ req, a = .blinkyWrite req
  · rcases hwrite with ⟨req, rfl⟩
    rw [Peripheral.step_blinkyWrite h]
    exact blinkyOnWriteAttr_blinkyOn hsent s.blinky
  · have hnone : commandOf (.core a) = none := by
      cases a with
      | blinkyWrite req => exact absurd ⟨req, rfl⟩ hwrite
      | _ => rfl
    rw [hnone]
    cases (Peripheral.step_sound h).2 with
    | @blinkyCcc req link charCfg hlink hw hccc => exact absurd ⟨req, rfl⟩ hwrite
    | @blinkyOther req blinky hcfg hccc => exact absurd ⟨req, rfl⟩ hwrite
    | _ => rfl

/-- The value copied in a tick reports whether the LED blinks. -/
theorem fillBuffer_reports {env : TickEnv} {s : BlinkyState A} {buffer : Option Nat}
    {bytes : List UInt8} (hmem : .copy buffer bytes ∈ fillBuffer env s) :
    bytes.head? = some (blinkingByte s.blinkyOn) := by
  simp only [fillBuffer, List.mem_cons, reduceCtorEq, TickOutput.copy.injEq, List.not_mem_nil,
    or_false, false_or] at hmem
  rw [hmem.2]
  rfl

/-- A tick copies to its buffer only while it fills it. -/
theorem copy_mem_fillBuffer {h : ConnHandle} {env : TickEnv} {s : BlinkyState A}
    {buffer : Option Nat} {bytes : List UInt8}
    (hmem : .copy buffer bytes ∈ notificationTick h env s) :
    .copy buffer bytes ∈ fillBuffer env s := by
  unfold notificationTick at hmem
  split_ifs at hmem
  · rcases List.mem_append.mp hmem with hfill | hnotify
    · exact hfill
    · simp at hnotify
  · cases hmem

/-- A notification reports whether the LED blinks. -/
theorem PeripheralStep.tick_reports {s s' : Peripheral G A} {a : Action} {out : List Obs}
    (h : PeripheralStep s a s' out) {buffer : Option Nat} {bytes : List UInt8}
    (hmem : .tick (.copy buffer bytes) ∈ out) :
    bytes.head? = some (blinkingByte s.blinky.blinkyOn) := by
  cases h with
  | callback hlinks hgap =>
      rcases Peripheral.mem_obsOfGap hmem with hadv | ⟨m, hm⟩
      · cases hadv
      · cases hm
  | tick hrunning =>
      rcases List.mem_map.mp hmem with ⟨o, ho, hcopy⟩
      cases hcopy
      exact fillBuffer_reports (copy_mem_fillBuffer ho)
  | tickPanic hrunning hpanics =>
      rcases List.mem_map.mp hmem with ⟨o, ho, hcopy⟩
      cases hcopy
      exact fillBuffer_reports ho
  | _ => simp at hmem

/-- A reply to a read of the data reports whether the LED blinks. -/
theorem readAttr_reports {s : Peripheral G A} {service : ReadableService} {req : ReadRequest}
    {now : DateTime} {v : UInt8}
    (hv : v ∈ reportedBlinking (.replied service req (s.readAttr service req now).1)) :
    v = blinkingByte s.blinky.blinkyOn := by
  cases service with
  | deviceInformation => cases hv
  | currentTime => cases hv
  | blinky =>
      rw [reportedBlinking] at hv
      split_ifs at hv with hdata
      · have hserved : (blinkyOnReadAttr req s.blinky).written =
            [blinkingByte s.blinky.blinkyOn] := by
          have hstart : ¬req.offset > 0 := by
            rw [hdata.1]
            decide
          rw [blinkyOnReadAttr, if_neg hstart, if_pos hdata.2]
          rfl
        have hhead : v ∈ (blinkyOnReadAttr req s.blinky).written.head? := hv
        rw [hserved, List.head?_cons, Option.mem_some_iff] at hhead
        exact hhead.symm
      · cases hv

/-- The control of a server: whether the LED blinks, and the pin. -/
def Server.control (s : Server G A) : LedControl where
  blinking := s.core.blinky.blinkyOn
  high := s.ledHigh

/-- A step moves the control as its action says, and reports it as it was. -/
theorem Server.control_step {s s' : Server G A} {a : ServerAction} {out : List ServerObs}
    (h : s.step a = some (s', out)) (hsent : CommandSent a) :
    s'.control = s.control.next a ∧
      ∀ o ∈ out, ∀ v ∈ reportedBlinking o, v = blinkingByte s.control.blinking := by
  rcases Server.step_cases h with
    ⟨b, obs, rfl, hstep, hhigh, rfl⟩ | ⟨service, req, now, rfl, rfl, rfl⟩ | ⟨rfl, rfl, hout⟩
  · refine ⟨?_, ?_⟩
    · rw [Server.control, hhigh, Peripheral.step_blinkyOn hstep hsent]
      rfl
    · intro o ho v hv
      rcases List.mem_map.mp ho with ⟨o', ho', rfl⟩
      cases o' with
      | tick output =>
          cases output with
          | copy buffer bytes =>
              have hhead := (Peripheral.step_sound hstep).2.tick_reports ho'
              have hv' : v ∈ bytes.head? := hv
              rw [hhead, Option.mem_some_iff] at hv'
              exact hv'.symm
          | bmAlloc buffer => cases hv
          | gattNotification c handle len buffer notified => cases hv
      | _ => cases hv
  · refine ⟨?_, ?_⟩
    · rw [Server.control]
      rw [(Peripheral.readAttr_blinky service req now s.core).1]
      rfl
    · intro o ho v hv
      rw [List.mem_singleton.mp ho] at hv
      exact readAttr_reports hv
  · refine ⟨rfl, ?_⟩
    intro o ho v hv
    rw [hout o ho] at hv
    cases hv

/-- In every run without empty commands, the control is the one that the actions have
led to. -/
theorem Server.control_eq {trace : List (ServerStep G A)} {s : Server G A}
    (hrun : (serverMachine G A).Run trace s) (hsent : ∀ t ∈ trace, CommandSent t.action) :
    s.control = ledControl (trace.map Transition.action) := by
  refine @Run.history_invariant _ _ _ _ (fun _ => CommandSent)
    (fun trace s => s.control = ledControl (trace.map Transition.action)) ?_ ?_ _ _ hrun hsent
  · rintro s ⟨profile, store, dataHandle, rfl⟩
    rfl
  · intro trace s a s' out hcontrol hsent hs
    rw [(Server.control_step hs hsent).1, hcontrol, List.map_append, ledControl, ledControl,
      List.foldl_append]
    rfl

/-- A client that switches the blinking off and on and reads the data in between. -/
def switchedOffAndOn : List ServerAction :=
  [.ledTurn, .core (.linkEstablished 0), .core (.blinkyWrite ⟨0, blinkyCmdUuid, fun _ => 0, 1, 0⟩),
    .ledTurn, .read .blinky ⟨0, blinkyDataUuid, 0, 22⟩ ⟨2025, 4, 2, 21, 36, 0, 0⟩,
    .core (.blinkyWrite ⟨0, blinkyCmdUuid, fun _ => 1, 1, 0⟩), .ledTurn]

/-- `mac_addr`. -/
def macAddr : BdAddr :=
  #v[0x21, 0x37, 0x04, 0x20, 0x69, 0x96]

/-- The server over the two concrete libraries. -/
abbrev badgeServer : TransitionSystem (Server (paramStore macAddr) slotTable) ServerAction
    ServerObs :=
  serverMachine (paramStore macAddr) slotTable

/-- Its boot state with the data value at handle 0x2A. -/
def badgeServerBoot : Server (paramStore macAddr) slotTable :=
  Server.boot .release (fun _ => 0) 0x2A

theorem badgeServer_initial : badgeServer.initial badgeServerBoot :=
  ⟨.release, fun _ => 0, 0x2A, rfl⟩

theorem reads_leave_peripheral_switchedOffAndOn :
    ∃ trace s trace' t, badgeServer.Run trace s ∧
      trace.map Transition.action = switchedOffAndOn ∧
      (peripheralMachine (paramStore macAddr) slotTable).Run trace' t ∧
      trace'.length = 3 ∧ SameBut s t := by
  have hsome : (badgeServer.exec badgeServerBoot switchedOffAndOn).isSome = true := by
    decide
  rcases Option.isSome_iff_exists.mp hsome with ⟨⟨trace, s⟩, hexec⟩
  have hrun := exec_run badgeServer_initial hexec
  rcases reads_leave_peripheral hrun with ⟨trace', t, hrun', hactions, -, hsame⟩
  refine ⟨trace, s, trace', t, hrun, exec_actions hexec, hrun', ?_, hsame⟩
  have hlength := congrArg List.length hactions
  rw [List.length_map, exec_actions hexec] at hlength
  exact hlength

/-! ## The System ID -/

/-- The address inside a system id: its first three bytes and its last three. -/
def addressBytes (systemId : Vector UInt8 8) : List UInt8 :=
  systemId.toList.take 3 ++ systemId.toList.drop 5

/-- The address can be recovered from the system id. -/
theorem addressBytes_systemIdOf (addr : BdAddr) : addressBytes (systemIdOf addr) = addr.toList := by
  have happend : ∀ i (hi : i < 6), (addr ++ (#v[0, 0] : Vector UInt8 2))[i] = addr[i] :=
    fun i hi => Vector.getElem_append_left hi
  apply List.ext_getElem
  · simp [addressBytes]
  · intro i hi hi'
    rw [Vector.length_toList] at hi'
    interval_cases i <;> simp [addressBytes, systemIdOf] <;> exact happend _ _

/-- The address that a call of the state callback publishes. -/
def startedAddress (n : Notification) (s : GapState G) : Option BdAddr :=
  if n.newState = .started ∧ s.lastState ≠ .connected then G.getBdAddr s.store else none

/-- The address that a step of the event loop publishes. -/
def publishedBy (s : Peripheral G A) : Action → Option BdAddr
  | .gapNotify n => startedAddress n s.gap
  | .linkLost _ n => startedAddress n s.gap
  | _ => none

/-- A completed call leaves the id of the address it publishes. -/
theorem onGapStateChange_systemId {n : Notification} {s s' : GapState G} {out : List GapOutput}
    (h : onGapStateChange n s = some (s', out)) :
    s'.systemId = ((startedAddress n s).map systemIdOf).getD s.systemId := by
  unfold startedAddress
  by_cases hpublish : n.newState = .started ∧ s.lastState ≠ .connected
  · rw [if_pos hpublish]
    rcases hpublish with ⟨hstarted, hlast⟩
    unfold onGapStateChange gapStateArm startedArm at h
    cases haddr : G.getBdAddr s.store with
    | none => simp [hstarted, hlast, haddr] at h
    | some addr =>
        simp only [hstarted, hlast, haddr, reduceCtorEq, if_false, false_and, if_true] at h
        cases h
        rfl
  · rw [if_neg hpublish]
    cases onGapStateChange_step h with
    | started hstate hlast haddr => exact absurd ⟨hstate, hlast⟩ hpublish
    | _ => rfl

/-- What a call on behalf of a link leaves of the system id. -/
theorem Peripheral.gapCallback_systemId {n : Notification} {origin : Option Nat}
    {links : List Link} {nextLink : Nat} {s s' : Peripheral G A} {out : List Obs}
    (h : gapCallback n origin { s with links := links, nextLink := nextLink } = (s', out)) :
    s'.gap.systemId = ((startedAddress n s.gap).map systemIdOf).getD s.gap.systemId := by
  unfold gapCallback at h
  cases hgap : onGapStateChange n s.gap with
  | none =>
      rcases (onGapStateChange_eq_none_iff n s.gap).mp hgap with ⟨hstarted, hlast, haddr⟩
      rw [hgap] at h
      cases h
      rw [startedAddress, if_pos ⟨hstarted, hlast⟩, haddr]
      rfl
  | some result =>
      rw [hgap] at h
      cases h
      exact onGapStateChange_systemId hgap

/-- A step leaves the id of the address it publishes. -/
theorem Peripheral.step_systemId {s s' : Peripheral G A} {a : Action} {out : List Obs}
    (h : s.step a = some (s', out)) :
    s'.gap.systemId = ((publishedBy s a).map systemIdOf).getD s.gap.systemId := by
  rcases Peripheral.step_callback h with
    ⟨c, rfl, hcall⟩ | ⟨c, n, link, rfl, hcall⟩ | ⟨n, rfl, hcall⟩ | hother
  · exact Peripheral.gapCallback_systemId hcall
  · exact Peripheral.gapCallback_systemId hcall
  · exact Peripheral.gapCallback_systemId hcall
  · cases (Peripheral.step_sound h).2 with
    | callback hlinks hgap => exact absurd hlinks (hother _ _ _ _)
    | callbackPanic hlinks hpanic => exact absurd hlinks (hother _ _ _ _)
    | _ => rfl

/-- The address that a step of the server publishes. -/
def publishedAddress (t : ServerStep G A) : Option BdAddr :=
  match t.action with
  | .core a => publishedBy t.pre.core a
  | _ => none

/-- The system id is the one of the address published last. -/
theorem Server.systemId_step {s s' : Server G A} {a : ServerAction} {out : List ServerObs}
    (h : s.step a = some (s', out)) :
    s'.core.gap.systemId =
      ((publishedAddress ⟨s, a, out, s'⟩).map systemIdOf).getD s.core.gap.systemId := by
  rcases Server.step_cases h with
    ⟨b, obs, rfl, hstep, -, -⟩ | ⟨service, req, now, rfl, rfl, -⟩ | ⟨rfl, rfl, -⟩
  · exact Peripheral.step_systemId hstep
  · exact congrArg GapState.systemId (Peripheral.readAttr_blinky service req now s.core).2
  · rfl

/-- `SYSTEM_ID`. -/
def Server.systemId (s : Server G A) : Vector UInt8 8 :=
  s.core.gap.systemId

/-- In every run, the system id is the one of the address published last, and zero before
any. -/
theorem Server.systemId_eq {trace : List (ServerStep G A)} {s : Server G A}
    (hrun : (serverMachine G A).Run trace s) :
    s.systemId =
      lastWrite (fun t => (publishedAddress t).map systemIdOf) (Vector.replicate 8 0) trace := by
  refine Run.last_write ?_ ?_ hrun
  · rintro s ⟨profile, store, dataHandle, rfl⟩
    rfl
  · intro s a s' out hs
    exact Server.systemId_step hs

/-- In every run, a read of the System ID is served eight zeros until the state callback
has published an address, and afterwards an id that the address published last can be
recovered from. -/
theorem systemId_reads {before after : List (ServerStep G A)} {t : ServerStep G A}
    {s : Server G A} (hrun : (serverMachine G A).Run (before ++ t :: after) s)
    {req : ReadRequest} {reply : ReadReply} (huuid : req.uuid = systemIdUuid)
    (hreply : .replied .deviceInformation req reply ∈ t.outputs) :
    match (before.filterMap publishedAddress).getLast? with
    | none => reply = .serve (List.replicate 8 0)
    | some addr => ∃ systemId : Vector UInt8 8,
        reply = .serve systemId.toList ∧ addressBytes systemId = addr.toList := by
  rcases hrun.split with ⟨hbefore, hs⟩
  have hserved : reply = .serve t.pre.core.gap.systemId.toList := by
    rcases Server.step_cases hs with
      ⟨b, obs, -, -, -, hout⟩ | ⟨service, req', now, -, -, hout⟩ | ⟨-, -, hout⟩
    · rw [hout] at hreply
      rcases List.mem_map.mp hreply with ⟨o, -, ho⟩
      cases ho
    · rw [hout, List.mem_singleton] at hreply
      cases hreply
      rw [Peripheral.readAttr, devInfoOnReadAttr_eq, devInfoValue, if_pos huuid]
      rfl
    · cases hout _ hreply
  have hid : t.pre.core.gap.systemId = _ := Server.systemId_eq hbefore
  rw [lastWrite, ← List.map_filterMap, List.getLast?_map] at hid
  cases hlast : (before.filterMap publishedAddress).getLast? with
  | none =>
      rw [hlast] at hid
      rw [hserved, hid]
      rfl
  | some addr =>
      rw [hlast] at hid
      refine ⟨t.pre.core.gap.systemId, hserved, ?_⟩
      rw [hid]
      exact addressBytes_systemIdOf addr

/-- A read of the System ID by a client that connected after the start. -/
def systemIdRead : ReadRequest where
  connHandle := 0
  uuid := systemIdUuid
  offset := 0
  maxLen := 22

theorem systemId_reads_started :
    ∃ before t s reply, badgeServer.Run (before ++ [t]) s ∧
      .replied .deviceInformation systemIdRead reply ∈ t.outputs ∧
      ∃ systemId : Vector UInt8 8, reply = .serve systemId.toList ∧
        addressBytes systemId = macAddr.toList := by
  have hcheck : ∃ result ∈ badgeServer.exec badgeServerBoot
      [.core (.gapNotify ⟨.started, ⟨0, 0⟩⟩), .core (.linkEstablished 0)],
      (result.1.filterMap publishedAddress).getLast? = some macAddr ∧
        ¬(result.2.core.panicked = true ∨ result.2.core.linkOn systemIdRead.connHandle = none) := by
    decide
  rcases hcheck with ⟨⟨before, mid⟩, hexec, hlast, hlive⟩
  have hbefore := exec_run badgeServer_initial hexec
  have hstep : badgeServer.step mid
      (.read .deviceInformation systemIdRead ⟨2025, 4, 2, 21, 36, 0, 0⟩) = some _ :=
    if_neg hlive
  have hrun := hbefore.extend hstep
  have hreads := systemId_reads hrun rfl (List.mem_singleton_self _)
  rw [hlast] at hreads
  exact ⟨before, _, _, _, hrun, List.mem_singleton_self _, hreads⟩

end PapajBadge
