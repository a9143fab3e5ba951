import PapajBadge.BlePeriph.BlinkyService
import PapajBadge.BlePeriph.CurrentTimeService
import PapajBadge.Foundation.BoundedFifo

/-!
# The peripheral event loop

The callbacks, the `peripheral()` loop and the notification task as one system.
All of them run on one cooperative executor, so a callback or the stretch of a
task between two `await`s is one atomic step; which of them comes next, which of
two waiting tasks receives an event, and how the BLE library answers are choices
of the environment and part of the action.

The environment keeps the links.  A handle identifies at most one live link but
may be used again later, so every link has an identity of its own; an event
remembers the link whose callback sent it.  No modelled code reads identities.

Main results:

- Theorem `Peripheral.step_sound`: every step of the system is one of the cases of
  `PeripheralStep`.
-/

namespace PapajBadge

open TransitionSystem

/-- A link instance. -/
structure Link where
  handle : ConnHandle
  id : Nat
deriving DecidableEq, Repr

/-- An event in the channel, with the link whose callback sent it, if any. -/
structure Message where
  event : AppEvent
  origin : Option Nat
deriving DecidableEq, Repr

/-- The number of slots of `APP_CHANNEL`. -/
def appChannelCapacity : Nat := 3

/-- The two tasks that receive from `APP_CHANNEL`. -/
inductive Receiver where
  | peripheralLoop
  | blinkyNotification
deriving DecidableEq, Repr

/-- Where the `peripheral()` loop is: at its `select`, or in the `Connected` arm
waiting for the one-second timer. -/
inductive LoopPhase where
  | selecting
  | connDelay (connHandle : ConnHandle) (origin : Option Nat)
deriving DecidableEq, Repr

/-- The program, the profile it was built in, and its environment. -/
structure Peripheral (G : GapRole) (A : GattServApp) where
  profile : Profile
  gap : GapState G
  blinky : BlinkyState A
  cts : CtsState A
  channel : BoundedFifo Message appChannelCapacity
  loop : LoopPhase
  notifier : Option ConnHandle
  panicked : Bool
  links : List Link
  nextLink : Nat

/-- The two services with a configuration table. -/
inductive Service where
  | blinky
  | currentTime
deriving DecidableEq, Repr

/-- What can be seen of a step. -/
inductive Obs where
  | attempted (message : Message)
  | enableAdvertising
  | received (receiver : Receiver) (message : Message)
  | connParamUpdateReq (connHandle : ConnHandle)
  | initCharCfg (connHandle : ConnHandle)
  | spawn (connHandle : ConnHandle)
  | tick (output : TickOutput)
  | cccWritten (service : Service) (link : Link) (value : UInt16)
  | rtcSet (time : CurrentTime)
deriving DecidableEq, Repr

/-- The choices of the environment: changes of the links and other notifications
of the role library, write requests of connected peers, and the scheduling of the
two tasks with the outcomes of their library calls. -/
inductive Action where
  | linkEstablished (connHandle : ConnHandle)
  | linkLost (connHandle : ConnHandle) (n : Notification)
  | gapNotify (n : Notification)
  | blinkyWrite (req : WriteRequest)
  | ctsWrite (req : WriteRequest)
  | loopReceive
  | loopTimer (updateOk : Bool)
  | notifierTick (env : TickEnv)
  | notifierReceive

namespace Peripheral

variable {G : GapRole} {A : GattServApp}

/-- The state after the services were registered and the device was started. -/
def boot (profile : Profile) (store : G.Store) (dataHandle : UInt16) : Peripheral G A where
  profile := profile
  gap := GapState.boot store
  blinky := BlinkyState.boot A dataHandle
  cts := CtsState.boot A
  channel := BoundedFifo.empty
  loop := .selecting
  notifier := none
  panicked := false
  links := []
  nextLink := 0

/-- The live link that uses a handle. -/
def linkOn (s : Peripheral G A) (h : ConnHandle) : Option Link :=
  s.links.find? fun l => l.handle = h

/-! ## Steps -/

/-- Offer events to the channel, discarding the ones that do not fit. -/
def sendAll (origin : Option Nat) (events : List AppEvent)
    (channel : BoundedFifo Message appChannelCapacity) :
    BoundedFifo Message appChannelCapacity :=
  events.foldl (fun channel event => channel.offer ⟨event, origin⟩) channel

/-- What can be seen of an output of the state callback. -/
def obsOfGap (origin : Option Nat) : GapOutput → Obs
  | .trySend event => .attempted ⟨event, origin⟩
  | .enableAdvertising => .enableAdvertising

/-- The library calls the state callback on behalf of a link. -/
def gapCallback (n : Notification) (origin : Option Nat) (s : Peripheral G A) :
    Peripheral G A × List Obs :=
  match onGapStateChange n s.gap with
  | none => ({ s with panicked := true }, [])
  | some (gap, out) =>
      ({ s with gap := gap, channel := sendAll origin (sentEvents out) s.channel },
        out.map (obsOfGap origin))

/-- A notification that announces no new link: `GAPROLE_CONNECTED` is reported
only while some link is live and never with the link-established event. -/
def quietNotification (n : Notification) (links : List Link) : Bool :=
  n.newState ≠ .connected || (links ≠ [] && n.event.opcode ≠ gapLinkEstablishedEvent)

/-- A peer writes to the blinky service. -/
def blinkyWrite (req : WriteRequest) (link : Link) (s : Peripheral G A) :
    Peripheral G A × List Obs :=
  let write := blinkyOnWriteAttr req s.blinky
  ({ s with
      blinky := write.state
      channel := sendAll (some link.id) write.sent s.channel },
    (blinkyCccWrite req s.blinky).toList.map (fun _ => .cccWritten .blinky link req.cccValue) ++
      write.sent.map fun event => .attempted ⟨event, some link.id⟩)

/-- A peer writes to the Current Time service. -/
def ctsWrite (req : WriteRequest) (link : Link) (s : Peripheral G A) :
    Peripheral G A × List Obs :=
  let write := ctsOnWriteAttr req s.cts
  ({ s with cts := write.state },
    (ctsCccWrite req s.cts).toList.map (fun _ => .cccWritten .currentTime link req.cccValue) ++
      write.rtcSet.toList.map .rtcSet)

/-- The arms of the `peripheral()` loop for an event taken from the channel.
`spawn` is unwrapped, and the one slot of the notification task may be taken. -/
def loopArm (m : Message) (s : Peripheral G A) : Peripheral G A × List Obs :=
  match m.event with
  | .connected h => ({ s with loop := .connDelay h m.origin }, [])
  | .disconnected h =>
      ({ s with blinky := { s.blinky with charCfg := A.initCharCfg h s.blinky.charCfg } },
        [.initCharCfg h])
  | .blinkySubscribed h =>
      match s.notifier with
      | none => ({ s with notifier := some h }, [.spawn h])
      | some _ => ({ s with panicked := true }, [.spawn h])
  | .blinkyUnsubscribed _ => (s, [])

/-- The rest of the `Connected` arm once the timer has expired.  The request is
unwrapped. -/
def requestUpdate (h : ConnHandle) (updateOk : Bool) (s : Peripheral G A) :
    Peripheral G A × List Obs :=
  if updateOk then ({ s with loop := .selecting }, [.connParamUpdateReq h])
  else ({ s with panicked := true }, [.connParamUpdateReq h])

/-- The ticker of the notification task fires.  In a build that checks its pointers, the
copy to the null buffer panics. -/
def tick (h : ConnHandle) (env : TickEnv) (s : Peripheral G A) : Peripheral G A × List Obs :=
  if CopyPanics s.profile h env s.blinky then
    ({ s with panicked := true }, (fillBuffer env s.blinky).map .tick)
  else (s, (notificationTick h env s.blinky).map .tick)

/-- The notification task receives an event: it returns or keeps going. -/
def notifierArm (m : Message) (s : Peripheral G A) : Peripheral G A :=
  if stopsNotification m.event then { s with notifier := none } else s

/-- One step of the system.  Nothing happens after a panic. -/
def step (s : Peripheral G A) (a : Action) : Option (Peripheral G A × List Obs) :=
  if s.panicked then none
  else
    match a with
    | .linkEstablished h =>
        if h ≠ invalidConnHandle ∧ s.linkOn h = none then
          some (gapCallback ⟨.connected, ⟨gapLinkEstablishedEvent, h⟩⟩ (some s.nextLink)
            { s with
              links := s.links ++ [⟨h, s.nextLink⟩]
              nextLink := s.nextLink + 1 })
        else none
    | .linkLost h n =>
        match s.linkOn h with
        | none => none
        | some link =>
            let links := s.links.filter fun l => l.handle ≠ h
            if quietNotification n links then
              some (gapCallback n (some link.id) { s with links := links })
            else none
    | .gapNotify n =>
        if quietNotification n s.links then some (gapCallback n none s) else none
    | .blinkyWrite req =>
        match s.linkOn req.connHandle with
        | none => none
        | some link => some (s.blinkyWrite req link)
    | .ctsWrite req =>
        match s.linkOn req.connHandle with
        | none => none
        | some link => some (s.ctsWrite req link)
    | .loopReceive =>
        match s.loop with
        | .connDelay _ _ => none
        | .selecting =>
            match s.channel.receive? with
            | none => none
            | some (m, channel) =>
                let next := loopArm m { s with channel := channel }
                some (next.1, .received .peripheralLoop m :: next.2)
    | .loopTimer updateOk =>
        match s.loop with
        | .selecting => none
        | .connDelay h _ =>
            -- the library rejects the handle of a link that is not live
            if updateOk ∧ s.linkOn h = none then none
            else some (requestUpdate h updateOk s)
    | .notifierTick env =>
        match s.notifier with
        | none => none
        | some h => some (tick h env s)
    | .notifierReceive =>
        match s.notifier with
        | none => none
        | some _ =>
            match s.channel.receive? with
            | none => none
            | some (m, channel) =>
                some (notifierArm m { s with channel := channel },
                  [.received .blinkyNotification m])

end Peripheral

/-- The system from its boot state, in whichever profile it was built, whatever the
library's parameters are and whichever handle it assigned to the data value. -/
def peripheralMachine (G : GapRole) (A : GattServApp) :
    TransitionSystem (Peripheral G A) Action Obs where
  initial s := ∃ profile store dataHandle, s = Peripheral.boot profile store dataHandle
  step s a := s.step a

/-! ## What one step can do -/

variable {G : GapRole} {A : GattServApp}

/-- How the environment changes the links around a call of the state callback:
the action, the notification, the link it is about, and the links and the next
identity afterwards. -/
inductive LinkChange (s : Peripheral G A) :
    Action → Notification → Option Nat → List Link → Nat → Prop
  | established {h : ConnHandle} (hvalid : h ≠ invalidConnHandle)
      (hfree : s.linkOn h = none) :
      LinkChange s (.linkEstablished h) ⟨.connected, ⟨gapLinkEstablishedEvent, h⟩⟩
        (some s.nextLink) (s.links ++ [⟨h, s.nextLink⟩]) (s.nextLink + 1)
  | lost {h : ConnHandle} {n : Notification} {link : Link} (hlink : s.linkOn h = some link)
      (hquiet : Peripheral.quietNotification n (s.links.filter fun l => l.handle ≠ h) = true) :
      LinkChange s (.linkLost h n) n (some link.id) (s.links.filter fun l => l.handle ≠ h)
        s.nextLink
  | unchanged {n : Notification} (hquiet : Peripheral.quietNotification n s.links = true) :
      LinkChange s (.gapNotify n) n none s.links s.nextLink

/-- The steps of the system, one constructor for each thing that can happen. -/
inductive PeripheralStep (s : Peripheral G A) : Action → Peripheral G A → List Obs → Prop
  | callback {a : Action} {n : Notification} {origin : Option Nat} {links : List Link}
      {nextLink : Nat} {gap : GapState G} {out : List GapOutput}
      (hlinks : LinkChange s a n origin links nextLink) (hgap : GapStep s.gap n gap out) :
      PeripheralStep s a
        { s with
          links := links
          nextLink := nextLink
          gap := gap
          channel := Peripheral.sendAll origin (sentEvents out) s.channel }
        (out.map (Peripheral.obsOfGap origin))
  | callbackPanic {a : Action} {n : Notification} {origin : Option Nat} {links : List Link}
      {nextLink : Nat} (hlinks : LinkChange s a n origin links nextLink)
      (hpanic : onGapStateChange n s.gap = none) :
      PeripheralStep s a { s with links := links, nextLink := nextLink, panicked := true } []
  | blinkyCcc {req : WriteRequest} {link : Link} {charCfg : A.Table}
      (hlink : s.linkOn req.connHandle = some link)
      (hwrite : A.processCccWriteReq req.connHandle req.value req.len req.offset
        gattClientCfgNotify s.blinky.charCfg = .ok charCfg)
      (hccc : blinkyCccWrite req s.blinky = some charCfg) :
      PeripheralStep s (.blinkyWrite req)
        { s with
          blinky := { s.blinky with charCfg := charCfg }
          channel := s.channel.offer ⟨subscriptionEvent req, some link.id⟩ }
        [.cccWritten .blinky link req.cccValue,
          .attempted ⟨subscriptionEvent req, some link.id⟩]
  | blinkyOther {req : WriteRequest} {blinky : BlinkyState A}
      (hcfg : blinky.charCfg = s.blinky.charCfg) (hccc : blinkyCccWrite req s.blinky = none) :
      PeripheralStep s (.blinkyWrite req) { s with blinky := blinky } []
  | ctsCcc {req : WriteRequest} {link : Link} {charCfg : A.Table}
      (hlink : s.linkOn req.connHandle = some link)
      (hwrite : A.processCccWriteReq req.connHandle req.value req.len req.offset
        gattClientCfgNotify s.cts.charCfg = .ok charCfg) :
      PeripheralStep s (.ctsWrite req) { s with cts := { s.cts with charCfg := charCfg } }
        [.cccWritten .currentTime link req.cccValue]
  | ctsOther {req : WriteRequest} {times : List CurrentTime} :
      PeripheralStep s (.ctsWrite req) s (times.map .rtcSet)
  | loopConnected {h : ConnHandle} {origin : Option Nat}
      {channel : BoundedFifo Message appChannelCapacity} (hloop : s.loop = .selecting)
      (hreceive : s.channel.receive? = some (⟨.connected h, origin⟩, channel)) :
      PeripheralStep s .loopReceive
        { s with channel := channel, loop := .connDelay h origin }
        [.received .peripheralLoop ⟨.connected h, origin⟩]
  | loopDisconnected {h : ConnHandle} {origin : Option Nat}
      {channel : BoundedFifo Message appChannelCapacity} (hloop : s.loop = .selecting)
      (hreceive : s.channel.receive? = some (⟨.disconnected h, origin⟩, channel)) :
      PeripheralStep s .loopReceive
        { s with
          channel := channel
          blinky := { s.blinky with charCfg := A.initCharCfg h s.blinky.charCfg } }
        [.received .peripheralLoop ⟨.disconnected h, origin⟩, .initCharCfg h]
  | loopSubscribed {h : ConnHandle} {origin : Option Nat}
      {channel : BoundedFifo Message appChannelCapacity} (hloop : s.loop = .selecting)
      (hreceive : s.channel.receive? = some (⟨.blinkySubscribed h, origin⟩, channel))
      (hfree : s.notifier = none) :
      PeripheralStep s .loopReceive { s with channel := channel, notifier := some h }
        [.received .peripheralLoop ⟨.blinkySubscribed h, origin⟩, .spawn h]
  | loopSubscribedPanic {h running : ConnHandle} {origin : Option Nat}
      {channel : BoundedFifo Message appChannelCapacity} (hloop : s.loop = .selecting)
      (hreceive : s.channel.receive? = some (⟨.blinkySubscribed h, origin⟩, channel))
      (hrunning : s.notifier = some running) :
      PeripheralStep s .loopReceive { s with channel := channel, panicked := true }
        [.received .peripheralLoop ⟨.blinkySubscribed h, origin⟩, .spawn h]
  | loopUnsubscribed {h : ConnHandle} {origin : Option Nat}
      {channel : BoundedFifo Message appChannelCapacity} (hloop : s.loop = .selecting)
      (hreceive : s.channel.receive? = some (⟨.blinkyUnsubscribed h, origin⟩, channel)) :
      PeripheralStep s .loopReceive { s with channel := channel }
        [.received .peripheralLoop ⟨.blinkyUnsubscribed h, origin⟩]
  | updateAccepted {h : ConnHandle} {origin : Option Nat}
      (hloop : s.loop = .connDelay h origin) (hlive : s.linkOn h ≠ none) :
      PeripheralStep s (.loopTimer true) { s with loop := .selecting } [.connParamUpdateReq h]
  | updatePanic {h : ConnHandle} {origin : Option Nat}
      (hloop : s.loop = .connDelay h origin) :
      PeripheralStep s (.loopTimer false) { s with panicked := true } [.connParamUpdateReq h]
  | tick {h : ConnHandle} {env : TickEnv} (hrunning : s.notifier = some h)
      (hcopies : ¬CopyPanics s.profile h env s.blinky) :
      PeripheralStep s (.notifierTick env) s ((notificationTick h env s.blinky).map .tick)
  | tickPanic {h : ConnHandle} {env : TickEnv} (hrunning : s.notifier = some h)
      (hpanics : CopyPanics s.profile h env s.blinky) :
      PeripheralStep s (.notifierTick env) { s with panicked := true }
        ((fillBuffer env s.blinky).map .tick)
  | notifierStops {h : ConnHandle} {m : Message}
      {channel : BoundedFifo Message appChannelCapacity} (hrunning : s.notifier = some h)
      (hreceive : s.channel.receive? = some (m, channel))
      (hstops : stopsNotification m.event = true) :
      PeripheralStep s .notifierReceive { s with channel := channel, notifier := none }
        [.received .blinkyNotification m]
  | notifierIgnores {h : ConnHandle} {m : Message}
      {channel : BoundedFifo Message appChannelCapacity} (hrunning : s.notifier = some h)
      (hreceive : s.channel.receive? = some (m, channel))
      (hignores : stopsNotification m.event = false) :
      PeripheralStep s .notifierReceive { s with channel := channel }
        [.received .blinkyNotification m]

namespace Peripheral

/-- A call of the state callback after a change of the links. -/
theorem gapCallback_sound {s s' : Peripheral G A} {a : Action} {n : Notification}
    {origin : Option Nat} {links : List Link} {nextLink : Nat} {out : List Obs}
    (hlinks : LinkChange s a n origin links nextLink)
    (h : gapCallback n origin { s with links := links, nextLink := nextLink } = (s', out)) :
    PeripheralStep s a s' out := by
  unfold gapCallback at h
  cases hgap : onGapStateChange n s.gap with
  | none =>
      simp only [hgap] at h
      cases h
      exact .callbackPanic hlinks hgap
  | some result =>
      rcases result with ⟨gap, gapOut⟩
      simp only [hgap] at h
      cases h
      exact .callback hlinks (onGapStateChange_step hgap)

/-- A write to the blinky service by a connected peer. -/
theorem blinkyWrite_sound {s s' : Peripheral G A} {req : WriteRequest} {link : Link}
    {out : List Obs} (hlink : s.linkOn req.connHandle = some link)
    (h : s.blinkyWrite req link = (s', out)) :
    PeripheralStep s (.blinkyWrite req) s' out := by
  unfold blinkyWrite at h
  rcases blinkyOnWriteAttr_cases req s.blinky with
    ⟨charCfg, hwrite, hccc, hstate, hsent⟩ | ⟨hccc, hcfg, hsent⟩
  · simp only [hccc, hstate, hsent] at h
    cases h
    exact .blinkyCcc hlink hwrite hccc
  · simp only [hccc, hsent] at h
    cases h
    exact .blinkyOther hcfg hccc

/-- A write to the Current Time service by a connected peer. -/
theorem ctsWrite_sound {s s' : Peripheral G A} {req : WriteRequest} {link : Link}
    {out : List Obs} (hlink : s.linkOn req.connHandle = some link)
    (h : s.ctsWrite req link = (s', out)) :
    PeripheralStep s (.ctsWrite req) s' out := by
  unfold ctsWrite at h
  rcases ctsOnWriteAttr_cases req s.cts with
    ⟨charCfg, hwrite, hccc, hstate, hrtc⟩ | ⟨hccc, hstate⟩
  · simp only [hccc, hstate, hrtc] at h
    cases h
    exact .ctsCcc hlink hwrite
  · simp only [hccc, hstate] at h
    cases h
    exact .ctsOther

/-- An event taken by the `peripheral()` loop. -/
theorem loopArm_sound {s s' : Peripheral G A} {m : Message} {out : List Obs}
    {channel : BoundedFifo Message appChannelCapacity} (hloop : s.loop = .selecting)
    (hreceive : s.channel.receive? = some (m, channel))
    (h : loopArm m { s with channel := channel } = (s', out)) :
    PeripheralStep s .loopReceive s' (.received .peripheralLoop m :: out) := by
  rcases m with ⟨event, origin⟩
  cases event with
  | connected c =>
      cases h
      exact .loopConnected hloop hreceive
  | disconnected c =>
      cases h
      exact .loopDisconnected hloop hreceive
  | blinkySubscribed c =>
      simp only [loopArm] at h
      split at h
      · rename_i hfree
        cases h
        exact .loopSubscribed hloop hreceive hfree
      · rename_i running hrunning
        cases h
        exact .loopSubscribedPanic hloop hreceive hrunning
  | blinkyUnsubscribed c =>
      cases h
      exact .loopUnsubscribed hloop hreceive

/-- The `peripheral()` loop receives while it waits at its `select`. -/
theorem loopReceive_sound {s s' : Peripheral G A} {out : List Obs}
    (h : s.step .loopReceive = some (s', out)) : PeripheralStep s .loopReceive s' out := by
  unfold step at h
  split_ifs at h with hpanicked
  simp only at h
  split at h
  · cases h
  · rename_i hloop
    split at h
    · cases h
    · rename_i m channel hreceive
      cases h
      exact loopArm_sound hloop hreceive rfl

/-- The timer of the loop expires while it is in its `Connected` arm. -/
theorem loopTimer_sound {s s' : Peripheral G A} {updateOk : Bool} {out : List Obs}
    (h : s.step (.loopTimer updateOk) = some (s', out)) :
    PeripheralStep s (.loopTimer updateOk) s' out := by
  unfold step at h
  split_ifs at h with hpanicked
  simp only at h
  cases hloop : s.loop with
  | selecting => simp [hloop] at h
  | connDelay c origin =>
      simp only [hloop] at h
      split_ifs at h with hdead
      cases updateOk with
      | true =>
          cases h
          exact .updateAccepted hloop fun hnone => hdead ⟨rfl, hnone⟩
      | false =>
          cases h
          exact .updatePanic hloop

/-- The ticker of the notification task fires while it runs. -/
theorem notifierTick_sound {s s' : Peripheral G A} {env : TickEnv} {out : List Obs}
    (h : s.step (.notifierTick env) = some (s', out)) :
    PeripheralStep s (.notifierTick env) s' out := by
  unfold step at h
  split_ifs at h with hpanicked
  simp only at h
  split at h
  · cases h
  · rename_i c hrunning
    unfold tick at h
    split_ifs at h with hpanics
    · cases h
      exact .tickPanic hrunning hpanics
    · cases h
      exact .tick hrunning hpanics

/-- The notification task receives while it runs. -/
theorem notifierReceive_sound {s s' : Peripheral G A} {out : List Obs}
    (h : s.step .notifierReceive = some (s', out)) :
    PeripheralStep s .notifierReceive s' out := by
  unfold step at h
  split_ifs at h with hpanicked
  simp only at h
  split at h
  · cases h
  · rename_i c hrunning
    split at h
    · cases h
    · rename_i m channel hreceive
      cases h
      unfold notifierArm
      split_ifs with hstops
      · exact .notifierStops hrunning hreceive hstops
      · exact .notifierIgnores hrunning hreceive (by simpa using hstops)

/-- Every step is one of the cases of `PeripheralStep`, and none follows a panic. -/
theorem step_sound {s s' : Peripheral G A} {a : Action} {out : List Obs}
    (h : s.step a = some (s', out)) : s.panicked = false ∧ PeripheralStep s a s' out := by
  have hstep := h
  unfold step at h
  split_ifs at h with hpanicked
  refine ⟨by simpa using hpanicked, ?_⟩
  cases a with
  | linkEstablished c =>
      simp only at h
      split_ifs at h with hnew
      exact gapCallback_sound (.established hnew.1 hnew.2) (Option.some.inj h)
  | linkLost c n =>
      simp only at h
      cases hlink : s.linkOn c with
      | none => simp [hlink] at h
      | some link =>
          simp only [hlink] at h
          split_ifs at h with hquiet
          exact gapCallback_sound (.lost hlink hquiet) (Option.some.inj h)
  | gapNotify n =>
      simp only at h
      split_ifs at h with hquiet
      exact gapCallback_sound (.unchanged hquiet) (Option.some.inj h)
  | blinkyWrite req =>
      simp only at h
      cases hlink : s.linkOn req.connHandle with
      | none => simp [hlink] at h
      | some link =>
          simp only [hlink] at h
          exact blinkyWrite_sound hlink (Option.some.inj h)
  | ctsWrite req =>
      simp only at h
      cases hlink : s.linkOn req.connHandle with
      | none => simp [hlink] at h
      | some link =>
          simp only [hlink] at h
          exact ctsWrite_sound hlink (Option.some.inj h)
  | loopReceive => exact loopReceive_sound hstep
  | loopTimer updateOk => exact loopTimer_sound hstep
  | notifierTick env => exact notifierTick_sound hstep
  | notifierReceive => exact notifierReceive_sound hstep

end Peripheral

/-! ## What a step leaves alone -/

/-- The state callback is seen only by what it offers and by advertising. -/
theorem Peripheral.mem_obsOfGap {o : Obs} {origin : Option Nat} {out : List GapOutput}
    (h : o ∈ out.map (Peripheral.obsOfGap origin)) :
    o = .enableAdvertising ∨ ∃ m, o = .attempted m := by
  rcases List.mem_map.mp h with ⟨output, -, rfl⟩
  cases output with
  | trySend event => exact Or.inr ⟨⟨event, origin⟩, rfl⟩
  | enableAdvertising => exact Or.inl rfl

/-! ## Ticks that do not panic -/

/-- The copy of a tick does not panic: it finds a buffer, or its pointers are not
checked. -/
def TickCopies (s : Peripheral G A) : Action → Prop
  | .notifierTick env => ∀ c ∈ s.notifier, ¬CopyPanics s.profile c env s.blinky
  | _ => True

-- The quantifier ranges over an option, not over all handles.
instance (s : Peripheral G A) : DecidablePred (TickCopies s) := fun a =>
  match a with
  | .notifierTick _ => Option.decidableForallMem s.notifier
  | .linkEstablished _ | .linkLost _ _ | .gapNotify _ | .blinkyWrite _ | .ctsWrite _
  | .loopReceive | .loopTimer _ | .notifierReceive => isTrue trivial

/-! ## A concrete system -/

/-- The system over the two concrete libraries. -/
abbrev badge : TransitionSystem (Peripheral (paramStore (Vector.replicate 6 0)) slotTable)
    Action Obs :=
  peripheralMachine (paramStore (Vector.replicate 6 0)) slotTable

/-- Its boot state in the release profile, with the data value at handle 0x2A. -/
def badgeBoot : Peripheral (paramStore (Vector.replicate 6 0)) slotTable :=
  Peripheral.boot .release (fun _ => 0) 0x2A

theorem badge_initial : badge.initial badgeBoot :=
  ⟨.release, fun _ => 0, 0x2A, rfl⟩

/-- A well-formed configuration write of a peer. -/
def cccRequest (h : ConnHandle) (low : UInt8) : WriteRequest where
  connHandle := h
  uuid := gattClientCharCfgUuid
  value := fun i => if i = 0 then low else 0
  len := 2
  offset := 0

end PapajBadge
