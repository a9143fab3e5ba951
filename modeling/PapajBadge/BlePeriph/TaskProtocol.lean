import PapajBadge.BlePeriph.Subscriptions
import PapajBadge.Foundation.RunRefinement

/-!
# The protocol of the two tasks

What the `peripheral()` loop and the notification task do, seen from outside.  The
first part is an automaton that reads the observations only: it knows what the loop owes
for the event it took last, and who occupies the slot of the notification task.  The
second part traces every action of the loop back to what caused it.

Main results:

- Theorem `tasks_follow_protocol`: every run obeys the automaton, whose state is the
  duty of the tasks.
- Theorem `effects_sublist_sent`: the loop acts on events that were sent, at most once
  on each and in the order they were sent.
- Theorem `effects_have_causes`: requests follow established links, spawns follow
  subscriptions, and resets follow reported disconnects.
-/

namespace PapajBadge

open TransitionSystem

variable {G : GapRole} {A : GattServApp}

/-! ## The protocol -/

/-- What the loop owes for the event it took last. -/
inductive LoopDuty where
  | nothing
  | request (connHandle : ConnHandle)
  | reset (connHandle : ConnHandle)
  | spawn (connHandle : ConnHandle)
deriving DecidableEq, Repr

/-- The duty of the loop, and the handle that occupies the slot of the notification
task. -/
structure TaskDuty where
  loop : LoopDuty
  slot : Option ConnHandle
deriving DecidableEq, Repr

/-- What the loop owes for an event. -/
def LoopDuty.of : AppEvent → LoopDuty
  | .connected h => .request h
  | .disconnected h => .reset h
  | .blinkySubscribed h => .spawn h
  | .blinkyUnsubscribed _ => .nothing

/-- Read one observation.  The loop takes an event only when it owes nothing and does
only what it owes; the task receives and ticks only while it occupies the slot, and
notifies its own handle only.  A spawn into the occupied slot fails. -/
def TaskDuty.observe (q : TaskDuty) : Obs → Option TaskDuty
  | .received .peripheralLoop m =>
      if q.loop = .nothing then some { q with loop := .of m.event } else none
  | .connParamUpdateReq h =>
      if q.loop = .request h then some { q with loop := .nothing } else none
  | .initCharCfg h => if q.loop = .reset h then some { q with loop := .nothing } else none
  | .spawn h =>
      if q.loop = .spawn h then some { loop := .nothing, slot := some (q.slot.getD h) } else none
  | .received .blinkyNotification m =>
      if q.slot = none then none
      else if stopsNotification m.event then some { q with slot := none }
      else some q
  | .tick (.gattNotification h _ _ _ _) => if q.slot = some h then some q else none
  | .tick (.bmAlloc _) => if q.slot = none then none else some q
  | .tick (.copy _ _) => if q.slot = none then none else some q
  | .attempted _ | .enableAdvertising | .cccWritten _ _ _ | .rtcSet _ => some q

/-- The duty of the loop at its `select` or in its `Connected` arm. -/
def LoopPhase.duty : LoopPhase → LoopDuty
  | .selecting => .nothing
  | .connDelay h _ => .request h

/-- The duty of the tasks in a state of the system. -/
def Peripheral.duty (s : Peripheral G A) : TaskDuty where
  loop := s.loop.duty
  slot := s.notifier

/-- The protocol ignores what the state callback does. -/
theorem TaskDuty.observe_gap (q : TaskDuty) (origin : Option Nat) (out : List GapOutput) :
    monitor TaskDuty.observe q (out.map (Peripheral.obsOfGap origin)) = some q := by
  apply monitor_of_ignored
  intro o ho
  rcases Peripheral.mem_obsOfGap ho with rfl | ⟨m, rfl⟩
  · rfl
  · rfl

/-- The protocol allows every tick of the task that occupies the slot. -/
theorem TaskDuty.observe_tick {q : TaskDuty} {c : ConnHandle} (hslot : q.slot = some c)
    (env : TickEnv) (s : BlinkyState A) :
    monitor TaskDuty.observe q ((notificationTick c env s).map .tick) = some q := by
  apply monitor_of_ignored
  intro o ho
  rcases List.mem_map.mp ho with ⟨output, houtput, rfl⟩
  cases output with
  | bmAlloc buffer => simp [TaskDuty.observe, hslot]
  | copy buffer bytes => simp [TaskDuty.observe, hslot]
  | gattNotification h handle len buffer notified =>
      have hh := (mem_notificationTick houtput).1
      simp [TaskDuty.observe, hslot, hh]

/-- The protocol allows the task that occupies the slot to stop after filling a buffer. -/
theorem TaskDuty.observe_fill {q : TaskDuty} {c : ConnHandle} (hslot : q.slot = some c)
    (env : TickEnv) (s : BlinkyState A) :
    monitor TaskDuty.observe q ((fillBuffer env s).map .tick) = some q := by
  simp [fillBuffer, monitor, TaskDuty.observe, hslot]

/-- A step obeys the protocol, and leaves the tasks with the duty the protocol expects
unless it panics. -/
theorem PeripheralStep.duty_step {s s' : Peripheral G A} {a : Action} {out : List Obs}
    (h : PeripheralStep s a s' out) :
    ∃ q, monitor TaskDuty.observe s.duty out = some q ∧ (s'.panicked = false → q = s'.duty) := by
  cases h with
  | @callback _ n origin links nextLink gap gapOut hlinks hgap =>
      exact ⟨s.duty, TaskDuty.observe_gap s.duty origin gapOut, fun _ => rfl⟩
  | ctsOther =>
      refine ⟨s.duty, monitor_of_ignored ?_, fun _ => rfl⟩
      intro o ho
      rcases List.mem_map.mp ho with ⟨time, -, rfl⟩
      rfl
  | @loopConnected c origin channel hloop hreceive =>
      refine ⟨⟨.request c, s.notifier⟩, ?_, fun _ => rfl⟩
      simp [monitor, TaskDuty.observe, Peripheral.duty, hloop, LoopPhase.duty, LoopDuty.of]
  | @loopDisconnected c origin channel hloop hreceive =>
      refine ⟨⟨.nothing, s.notifier⟩, ?_, fun _ => by rw [Peripheral.duty, hloop]; rfl⟩
      simp [monitor, TaskDuty.observe, Peripheral.duty, hloop, LoopPhase.duty, LoopDuty.of]
  | @loopSubscribed c origin channel hloop hreceive hfree =>
      refine ⟨⟨.nothing, some c⟩, ?_, fun _ => by rw [Peripheral.duty, hloop]; rfl⟩
      simp [monitor, TaskDuty.observe, Peripheral.duty, hloop, LoopPhase.duty, LoopDuty.of, hfree]
  | @loopSubscribedPanic c running origin channel hloop hreceive hrunning =>
      refine ⟨⟨.nothing, some running⟩, ?_, fun hpanicked => by cases hpanicked⟩
      simp [monitor, TaskDuty.observe, Peripheral.duty, hloop, LoopPhase.duty, LoopDuty.of,
        hrunning]
  | @loopUnsubscribed c origin channel hloop hreceive =>
      refine ⟨⟨.nothing, s.notifier⟩, ?_, fun _ => by rw [Peripheral.duty, hloop]; rfl⟩
      simp [monitor, TaskDuty.observe, Peripheral.duty, hloop, LoopPhase.duty, LoopDuty.of]
  | @updateAccepted c origin hloop hlive =>
      refine ⟨⟨.nothing, s.notifier⟩, ?_, fun _ => rfl⟩
      simp [monitor, TaskDuty.observe, Peripheral.duty, hloop, LoopPhase.duty]
  | @updatePanic c origin hloop =>
      refine ⟨⟨.nothing, s.notifier⟩, ?_, fun hpanicked => by cases hpanicked⟩
      simp [monitor, TaskDuty.observe, Peripheral.duty, hloop, LoopPhase.duty]
  | @tick c env hrunning hcopies =>
      exact ⟨s.duty, TaskDuty.observe_tick hrunning env s.blinky, fun _ => rfl⟩
  | @tickPanic c env hrunning hpanics =>
      refine ⟨s.duty, TaskDuty.observe_fill hrunning env s.blinky, ?_⟩
      intro hpanicked
      cases hpanicked
  | @notifierStops c m channel hrunning hreceive hstops =>
      refine ⟨⟨s.loop.duty, none⟩, ?_, fun _ => rfl⟩
      simp [monitor, TaskDuty.observe, Peripheral.duty, hrunning, hstops]
  | @notifierIgnores c m channel hrunning hreceive hignores =>
      refine ⟨s.duty, ?_, fun _ => rfl⟩
      simp [monitor, TaskDuty.observe, Peripheral.duty, hrunning, hignores]
  | _ => exact ⟨s.duty, rfl, fun _ => rfl⟩

/-- The observations of every run obey the protocol of the two tasks, and until a panic
the protocol knows the duty of both. -/
theorem tasks_follow_protocol {trace : List (Step G A)} {s : Peripheral G A}
    (hrun : (peripheralMachine G A).Run trace s) :
    ∃ q, monitor TaskDuty.observe ⟨.nothing, none⟩ (outputsOf trace) = some q ∧
      (s.panicked = false → q = s.duty) := by
  refine hrun.accepted (R := fun q s => s.panicked = false → q = s.duty) ?_ ?_
  · rintro s ⟨profile, store, dataHandle, rfl⟩ _
    rfl
  · intro q s a s' out hR hs
    have hstep := Peripheral.step_sound hs
    rw [hR hstep.1]
    exact hstep.2.duty_step

theorem tasks_follow_protocol_subscriberNotified :
    ∃ trace s, badge.Run trace s ∧ trace.map Transition.action = subscriberNotified ∧
      s.duty = ⟨.nothing, some 0⟩ ∧
      ∃ q, monitor TaskDuty.observe ⟨.nothing, none⟩ (outputsOf trace) = some q ∧
        (s.panicked = false → q = s.duty) := by
  have hcheck : ∃ result ∈ badge.exec badgeBoot subscriberNotified,
      result.2.duty = ⟨.nothing, some 0⟩ := by
    decide
  rcases hcheck with ⟨⟨trace, s⟩, hexec, hduty⟩
  have hrun := exec_run badge_initial hexec
  exact ⟨trace, s, hrun, exec_actions hexec, hduty, tasks_follow_protocol hrun⟩

/-! ## Effects and the events behind them -/

/-- The event that an action of the loop is the answer to. -/
def answeredEvent : Obs → Option AppEvent
  | .connParamUpdateReq h => some (.connected h)
  | .initCharCfg h => some (.disconnected h)
  | .spawn h => some (.blinkySubscribed h)
  | _ => none

/-- The events the loop has answered, in order. -/
def answeredEvents (obs : List Obs) : List AppEvent :=
  obs.filterMap answeredEvent

/-- The event the loop has taken and will answer. -/
def Peripheral.owedEvents (s : Peripheral G A) : List AppEvent :=
  if s.panicked then [] else s.loop.taken.map Message.event

@[simp]
theorem answeredEvents_append (left right : List Obs) :
    answeredEvents (left ++ right) = answeredEvents left ++ answeredEvents right := by
  simp [answeredEvents]

/-- The state callback answers no event. -/
theorem answeredEvents_gap (origin : Option Nat) (out : List GapOutput) :
    answeredEvents (out.map (Peripheral.obsOfGap origin)) = [] := by
  apply List.filterMap_eq_nil_iff.mpr
  intro o ho
  rcases Peripheral.mem_obsOfGap ho with rfl | ⟨m, rfl⟩
  · rfl
  · rfl

/-- A step that answers nothing and takes no event on keeps the account. -/
theorem answered_of_quiet {s s' : Peripheral G A} {out : List Obs}
    (hout : answeredEvents out = []) (howed : s'.owedEvents.Sublist s.owedEvents)
    (received : List AppEvent) :
    (answeredEvents out ++ s'.owedEvents).Sublist (s.owedEvents ++ received) := by
  rw [hout, List.nil_append]
  exact howed.trans (List.sublist_append_left _ _)

/-- A step that answers the event it has received leaves nothing owed. -/
theorem answered_of_received {s s' : Peripheral G A} {out : List Obs} {event : AppEvent}
    (hout : answeredEvents out = [event])
    (hreceived : (receivedMessages out).map Message.event = [event])
    (howed : s'.owedEvents = []) :
    (answeredEvents out ++ s'.owedEvents).Sublist
      (s.owedEvents ++ (receivedMessages out).map Message.event) := by
  rw [hout, howed, hreceived, List.append_nil]
  exact List.sublist_append_right _ _

/-- At its `select` the loop owes no answer. -/
theorem Peripheral.owedEvents_selecting {s : Peripheral G A} (hloop : s.loop = .selecting) :
    s.owedEvents = [] := by
  simp [Peripheral.owedEvents, hloop, LoopPhase.taken]

/-- After a panic nothing will be answered. -/
theorem Peripheral.owedEvents_panicked {s : Peripheral G A} (hpanicked : s.panicked = true) :
    s.owedEvents = [] := by
  simp [Peripheral.owedEvents, hpanicked]

/-- In its `Connected` arm the loop owes an answer to the connect event. -/
theorem Peripheral.owedEvents_connDelay {s : Peripheral G A} (hpanicked : s.panicked = false)
    {c : ConnHandle} {origin : Option Nat} (hloop : s.loop = .connDelay c origin) :
    s.owedEvents = [.connected c] := by
  simp [Peripheral.owedEvents, hpanicked, hloop, LoopPhase.taken]

/-- A step answers the event the loop owes an answer to or one it has just received. -/
theorem PeripheralStep.answered_step {s s' : Peripheral G A} {a : Action} {out : List Obs}
    (h : PeripheralStep s a s' out) (hpanicked : s.panicked = false) :
    (answeredEvents out ++ s'.owedEvents).Sublist
      (s.owedEvents ++ (receivedMessages out).map Message.event) := by
  have hkept : s.owedEvents.Sublist s.owedEvents := List.Sublist.refl _
  cases h with
  | @callback _ n origin links nextLink gap gapOut hlinks hgap =>
      exact answered_of_quiet (answeredEvents_gap origin gapOut) hkept _
  | ctsOther => exact answered_of_quiet (by simp [answeredEvents, answeredEvent]) hkept _
  | tick hrunning =>
      exact answered_of_quiet (by simp [answeredEvents, answeredEvent]) hkept _
  | tickPanic hrunning hpanics =>
      refine answered_of_quiet (by simp [answeredEvents, answeredEvent]) ?_ _
      rw [Peripheral.owedEvents_panicked rfl]
      exact List.nil_sublist _
  | callbackPanic hlinks hpanic =>
      refine answered_of_quiet rfl ?_ _
      rw [Peripheral.owedEvents_panicked rfl]
      exact List.nil_sublist _
  | @loopConnected c origin channel hloop hreceive =>
      have howed : Peripheral.owedEvents
          { s with channel := channel, loop := .connDelay c origin } = [.connected c] := by
        apply Peripheral.owedEvents_connDelay
        · exact hpanicked
        · rfl
      rw [howed, Peripheral.owedEvents_selecting hloop]
      exact List.Sublist.refl [AppEvent.connected c]
  | loopDisconnected hloop hreceive =>
      exact answered_of_received rfl rfl (Peripheral.owedEvents_selecting hloop)
  | loopSubscribed hloop hreceive hfree =>
      exact answered_of_received rfl rfl (Peripheral.owedEvents_selecting hloop)
  | loopSubscribedPanic hloop hreceive hrunning =>
      exact answered_of_received rfl rfl (Peripheral.owedEvents_selecting hloop)
  | @updateAccepted c origin hloop hlive =>
      rw [Peripheral.owedEvents_connDelay hpanicked hloop, Peripheral.owedEvents_selecting rfl]
      exact List.Sublist.refl [AppEvent.connected c]
  | @updatePanic c origin hloop =>
      rw [Peripheral.owedEvents_connDelay hpanicked hloop, Peripheral.owedEvents_panicked rfl]
      exact List.Sublist.refl [AppEvent.connected c]
  | _ => exact answered_of_quiet rfl hkept _

/-- The events answered so far, and the one still owed, are among the received ones. -/
theorem answered_sublist_received {trace : List (Step G A)} {s : Peripheral G A}
    (hrun : (peripheralMachine G A).Run trace s) :
    (answeredEvents (outputsOf trace) ++ s.owedEvents).Sublist
      ((receivedMessages (outputsOf trace)).map Message.event) := by
  induction hrun with
  | start hinit =>
      rcases hinit with ⟨profile, store, dataHandle, rfl⟩
      exact List.Sublist.refl []
  | @extend trace s a s' out _ hs ih =>
      have hstep := Peripheral.step_sound hs
      have hnew := hstep.2.answered_step hstep.1
      rw [outputsOf_append, outputsOf_cons, outputsOf_nil, List.append_nil,
        answeredEvents_append, receivedMessages_append, List.map_append, List.append_assoc]
      refine (List.Sublist.append (List.Sublist.refl _) hnew).trans ?_
      rw [← List.append_assoc]
      exact List.Sublist.append ih (List.Sublist.refl _)

/-- In every run, the loop answers only events that were sent, each at most once, and in
the order they were sent. -/
theorem effects_sublist_sent {trace : List (Step G A)} {s : Peripheral G A}
    (hrun : (peripheralMachine G A).Run trace s) :
    (answeredEvents (outputsOf trace)).Sublist
      ((attemptedMessages (outputsOf trace)).map Message.event) := by
  have hanswered := (List.sublist_append_left _ _).trans (answered_sublist_received hrun)
  have hreceived : (receivedMessages (outputsOf trace)).Sublist
      (attemptedMessages (outputsOf trace)) := by
    have haccepted := acceptedMessages_sublist trace
    rw [← messages_conserved hrun] at haccepted
    exact (List.sublist_append_left _ _).trans haccepted
  exact hanswered.trans (hreceived.map Message.event)

/-! ## The causes of the events -/

/-- The handle of a connect event. -/
def connectedHandle? : AppEvent → Option ConnHandle
  | .connected h => some h
  | _ => none

/-- The handle of a disconnect event. -/
def disconnectedHandle? : AppEvent → Option ConnHandle
  | .disconnected h => some h
  | _ => none

/-- The handle of a subscription event. -/
def subscribedHandle? : AppEvent → Option ConnHandle
  | .blinkySubscribed h => some h
  | _ => none

/-- The handle of the link that the action establishes. -/
def establishedHandle? : Action → Option ConnHandle
  | .linkEstablished h => some h
  | _ => none

/-- The handles for which connection parameters were requested. -/
def updateRequests (obs : List Obs) : List ConnHandle :=
  obs.filterMap fun
    | .connParamUpdateReq h => some h
    | _ => none

/-- The handles whose blinky configuration was reset. -/
def resetHandles (obs : List Obs) : List ConnHandle :=
  obs.filterMap fun
    | .initCharCfg h => some h
    | _ => none

/-- The handles for which the notification task was spawned. -/
def spawnedHandles (obs : List Obs) : List ConnHandle :=
  obs.filterMap fun
    | .spawn h => some h
    | _ => none

/-- The handles on which clients enabled the notifications of the blinky service. -/
def subscriptions (obs : List Obs) : List ConnHandle :=
  (configurations obs).filterMap fun w =>
    if w.1 = .blinky ∧ w.2.2 = 1 then some w.2.1.handle else none

/-- The handles of the disconnects that the state callback reported. -/
def reportedLosses (obs : List Obs) : List ConnHandle :=
  (attemptedMessages obs).filterMap fun m => disconnectedHandle? m.event

theorem updateRequests_eq (obs : List Obs) :
    updateRequests obs = (answeredEvents obs).filterMap connectedHandle? := by
  rw [answeredEvents, List.filterMap_filterMap]
  apply List.filterMap_congr
  intro o _
  cases o <;> rfl

theorem resetHandles_eq (obs : List Obs) :
    resetHandles obs = (answeredEvents obs).filterMap disconnectedHandle? := by
  rw [answeredEvents, List.filterMap_filterMap]
  apply List.filterMap_congr
  intro o _
  cases o <;> rfl

theorem spawnedHandles_eq (obs : List Obs) :
    spawnedHandles obs = (answeredEvents obs).filterMap subscribedHandle? := by
  rw [answeredEvents, List.filterMap_filterMap]
  apply List.filterMap_congr
  intro o _
  cases o <;> rfl

/-- A configuration write that enables notifications carries the value one. -/
theorem cccValue_of_payload {req : WriteRequest} (h : req.payload = [0x01, 0x00]) :
    req.cccValue = 1 := by
  have hlen : req.len.toNat = 2 := by
    rw [← req.payload_length, h]
    rfl
  rw [WriteRequest.payload, hlen] at h
  have hbytes : req.value 0 = 0x01 ∧ req.value 1 = 0x00 := by
    simpa [List.range_succ] using h
  rw [WriteRequest.cccValue, hbytes.1, hbytes.2]
  decide

/-- A configuration write that offers a subscription event is one of the subscriptions. -/
theorem subscribedHandle?_write {req : WriteRequest} {link : Link}
    (hhandle : link.handle = req.connHandle) {h : ConnHandle}
    (hsub : subscribedHandle? (subscriptionEvent req) = some h) :
    subscriptions [.cccWritten .blinky link req.cccValue,
      .attempted ⟨subscriptionEvent req, some link.id⟩] = [h] := by
  unfold subscriptionEvent at hsub
  split_ifs at hsub with hpayload
  · have hh : req.connHandle = h := Option.some.inj hsub
    rw [← hh, ← hhandle]
    simp [subscriptions, configurations, cccValue_of_payload hpayload]
  · cases hsub

/-- A quiet notification offers no connect event. -/
theorem GapStep.quiet_connects {s s' : GapState G} {n : Notification} {out : List GapOutput}
    {links : List Link} (h : GapStep s n s' out)
    (hquiet : Peripheral.quietNotification n links = true) :
    (sentEvents out).filterMap connectedHandle? = [] := by
  apply List.filterMap_eq_nil_iff.mpr
  intro event hevent
  cases event with
  | connected c => exact absurd hevent ((h.quiet_sends hquiet).1 c)
  | _ => rfl

/-- The events that a step offers, by handle. -/
theorem filterMap_attempted_gap (pick : AppEvent → Option ConnHandle) (origin : Option Nat)
    (out : List GapOutput) :
    (attemptedMessages (out.map (Peripheral.obsOfGap origin))).filterMap
        (fun m => pick m.event) = (sentEvents out).filterMap pick := by
  rw [attemptedMessages_gap, List.filterMap_map]
  rfl

/-- The connect event of a step is that of the link it establishes. -/
theorem PeripheralStep.connects_established {s s' : Peripheral G A} {a : Action}
    {out : List Obs} (h : PeripheralStep s a s' out) :
    ((attemptedMessages out).filterMap fun m => connectedHandle? m.event).Sublist
      (establishedHandle? a).toList := by
  cases h with
  | @callback _ n origin links nextLink gap gapOut hlinks hgap =>
      rw [filterMap_attempted_gap]
      cases hlinks with
      | established hvalid hfree =>
          rw [hgap.established_sends.1]
          exact List.Sublist.refl _
      | lost hlink hquiet =>
          rw [hgap.quiet_connects hquiet]
          exact List.nil_sublist _
      | unchanged hquiet =>
          rw [hgap.quiet_connects hquiet]
          exact List.nil_sublist _
  | @blinkyCcc req link charCfg hlink hwrite hccc =>
      rcases subscriptionEvent_cases req with hsub | hsub
      · simp [attemptedMessages, hsub, connectedHandle?]
      · simp [attemptedMessages, hsub, connectedHandle?]
  | ctsOther => simp [attemptedMessages]
  | tick hrunning => simp [attemptedMessages]
  | _ => exact List.nil_sublist _

/-- The subscription event of a step is that of a configuration it accepts. -/
theorem PeripheralStep.subscribes_configured {s s' : Peripheral G A} {a : Action}
    {out : List Obs} (h : PeripheralStep s a s' out) :
    ((attemptedMessages out).filterMap fun m => subscribedHandle? m.event).Sublist
      (subscriptions out) := by
  cases h with
  | @callback _ n origin links nextLink gap gapOut hlinks hgap =>
      rw [filterMap_attempted_gap]
      have hnone : (sentEvents gapOut).filterMap subscribedHandle? = [] := by
        apply List.filterMap_eq_nil_iff.mpr
        intro event hevent
        have hother := hgap.no_subscribe event hevent
        cases event with
        | blinkySubscribed c => cases hother
        | _ => rfl
      rw [hnone]
      exact List.nil_sublist _
  | @blinkyCcc req link charCfg hlink hwrite hccc =>
      have hhandle := (Peripheral.linkOn_eq_some hlink).2
      cases hsub : subscribedHandle? (subscriptionEvent req) with
      | none => simp [attemptedMessages, hsub]
      | some c =>
          rw [subscribedHandle?_write hhandle hsub]
          simp [attemptedMessages, hsub]
  | ctsOther => simp [attemptedMessages]
  | tick hrunning => simp [attemptedMessages]
  | _ => exact List.nil_sublist _

/-- The connect events sent so far are those of established links. -/
theorem connects_sublist_established {trace : List (Step G A)} {s : Peripheral G A}
    (hrun : (peripheralMachine G A).Run trace s) :
    ((attemptedMessages (outputsOf trace)).filterMap fun m => connectedHandle? m.event).Sublist
      (trace.filterMap fun t => establishedHandle? t.action) := by
  induction hrun with
  | start hinit => exact List.Sublist.refl []
  | @extend trace s a s' out _ hs ih =>
      have hnew := (Peripheral.step_sound hs).2.connects_established
      rw [outputsOf_append, outputsOf_cons, outputsOf_nil, List.append_nil,
        attemptedMessages_append, List.filterMap_append, List.filterMap_append]
      refine List.Sublist.append ih ?_
      rw [List.filterMap_cons]
      cases hhandle : establishedHandle? a with
      | none => simpa [hhandle] using hnew
      | some c => simpa [hhandle] using hnew

/-- The subscription events sent so far are those of accepted configurations. -/
theorem subscribes_sublist_subscriptions {trace : List (Step G A)} {s : Peripheral G A}
    (hrun : (peripheralMachine G A).Run trace s) :
    ((attemptedMessages (outputsOf trace)).filterMap fun m => subscribedHandle? m.event).Sublist
      (subscriptions (outputsOf trace)) := by
  induction hrun with
  | start hinit => exact List.Sublist.refl []
  | @extend trace s a s' out _ hs ih =>
      have hnew := (Peripheral.step_sound hs).2.subscribes_configured
      rw [outputsOf_append, outputsOf_cons, outputsOf_nil, List.append_nil,
        attemptedMessages_append, List.filterMap_append, subscriptions, configurations_append,
        List.filterMap_append]
      exact List.Sublist.append ih hnew

/-- In every run, connection parameters are requested for established links, the
notification task is spawned for accepted subscriptions, and configurations are reset for
reported disconnects: in the same order, and never twice for one cause. -/
theorem effects_have_causes {trace : List (Step G A)} {s : Peripheral G A}
    (hrun : (peripheralMachine G A).Run trace s) :
    (updateRequests (outputsOf trace)).Sublist
        (trace.filterMap fun t => establishedHandle? t.action) ∧
      (spawnedHandles (outputsOf trace)).Sublist (subscriptions (outputsOf trace)) ∧
      (resetHandles (outputsOf trace)).Sublist (reportedLosses (outputsOf trace)) := by
  have hsent := effects_sublist_sent hrun
  have hpick : ∀ pick : AppEvent → Option ConnHandle,
      ((answeredEvents (outputsOf trace)).filterMap pick).Sublist
        ((attemptedMessages (outputsOf trace)).filterMap fun m => pick m.event) := by
    intro pick
    have hpicked := hsent.filterMap pick
    rwa [List.filterMap_map] at hpicked
  refine ⟨?_, ?_, ?_⟩
  · rw [updateRequests_eq]
    exact (hpick connectedHandle?).trans (connects_sublist_established hrun)
  · rw [spawnedHandles_eq]
    exact (hpick subscribedHandle?).trans (subscribes_sublist_subscriptions hrun)
  · rw [resetHandles_eq]
    exact hpick disconnectedHandle?

theorem effects_have_causes_subscriberNotified :
    ∃ trace s, badge.Run trace s ∧ trace.map Transition.action = subscriberNotified ∧
      updateRequests (outputsOf trace) = [0] ∧ spawnedHandles (outputsOf trace) = [0] ∧
      (updateRequests (outputsOf trace)).Sublist
        (trace.filterMap fun t => establishedHandle? t.action) ∧
      (spawnedHandles (outputsOf trace)).Sublist (subscriptions (outputsOf trace)) ∧
      (resetHandles (outputsOf trace)).Sublist (reportedLosses (outputsOf trace)) := by
  have hcheck : ∃ result ∈ badge.exec badgeBoot subscriberNotified,
      updateRequests (outputsOf result.1) = [0] ∧ spawnedHandles (outputsOf result.1) = [0] := by
    decide
  rcases hcheck with ⟨⟨trace, s⟩, hexec, hrequests, hspawns⟩
  have hrun := exec_run badge_initial hexec
  exact ⟨trace, s, hrun, exec_actions hexec, hrequests, hspawns, effects_have_causes hrun⟩

end PapajBadge
