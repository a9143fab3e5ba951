import PapajBadge.BlePeriph.LinkReports
import PapajBadge.BlePeriph.TaskProtocol

/-!
# The firmware without the blinky service

The main program of `bt_poc` starts the `peripheral()` loop but leaves the call of
`blinky_init` out.  The attributes of the blinky service are then not registered, so no
peer can write to them, and the statics of the service keep their initial values.

Main results:

- Theorem `poc_without_notifications`: in every run of that firmware every step is one of
  five kinds, none of which is about the notification task, and only the address lookup and
  the parameter update request panic.
- Theorem `poc_handles_links`: with one link at a time and room in the queue, the loop
  handles every change of the links once and in order.
-/

namespace PapajBadge

open TransitionSystem

variable {G : GapRole} {A : GattServApp}

/-- The state after `common_init`, `devinfo_init` and `current_time_init`: the table of
the blinky service is still the zeroed static, and its data value has no handle. -/
def Peripheral.bootPoc (profile : Profile) (store : G.Store) : Peripheral G A :=
  { Peripheral.boot profile store 0 with
    blinky := { blinkyOn := true, charCfg := A.zeroed, dataHandle := 0 } }

/-- The firmware of `bt_poc`: the system without writes to the blinky service. -/
def pocMachine (G : GapRole) (A : GattServApp) :
    TransitionSystem (Peripheral G A) Action Obs where
  initial s := ∃ profile store, s = Peripheral.bootPoc profile store
  step s a :=
    match a with
    | .blinkyWrite _ => none
    | a => s.step a

/-- A step of the firmware is a step of the system that writes nothing to the blinky
service. -/
theorem pocMachine_step {s s' : Peripheral G A} {a : Action} {out : List Obs}
    (h : (pocMachine G A).step s a = some (s', out)) :
    s.step a = some (s', out) ∧ ∀ req, a ≠ .blinkyWrite req := by
  cases a with
  | blinkyWrite req => cases h
  | _ => exact ⟨h, fun req hreq => by cases hreq⟩

/-- The notification task does not run, only link events are queued, and `BLINKY_ON` is
set. -/
structure PocQuiet (s : Peripheral G A) : Prop where
  idle : s.notifier = none
  linkEvents : ∀ m ∈ s.channel.items, isLinkEvent m.event = true
  ledOn : s.blinky.blinkyOn = true

theorem pocQuiet_boot (profile : Profile) (store : G.Store) :
    PocQuiet (Peripheral.bootPoc profile store : Peripheral G A) where
  idle := rfl
  linkEvents := by
    intro m hm
    cases hm
  ledOn := rfl

/-- The notification task does not run. -/
theorem PocQuiet.not_running {s : Peripheral G A} (hI : PocQuiet s) {c : ConnHandle} :
    s.notifier ≠ some c := by
  rw [hI.idle]
  exact (Option.some_ne_none c).symm

/-- The event that is taken is a link event. -/
theorem PocQuiet.takes_linkEvent {s : Peripheral G A} (hI : PocQuiet s) {m : Message}
    {channel : BoundedFifo Message appChannelCapacity}
    (hreceive : s.channel.receive? = some (m, channel)) : isLinkEvent m.event = true :=
  hI.linkEvents m (BoundedFifo.mem_of_receive? hreceive)

/-! ## The steps of the firmware -/

/-- What a step of the firmware does.  The state callback advertises and sends link events,
and panics only for want of an address; a write to the Current Time service shows nothing
but itself; the loop takes a connect event and waits, or takes a disconnect event and resets
the handle; and when the wait is over it requests the connection parameters and panics
exactly when the request is refused. -/
inductive PocStep (t : Step G A) : Prop
  | callback {n : Notification} {origin : Option Nat} {links : List Link} {nextLink : Nat}
      (hlinks : LinkChange t.pre t.action n origin links nextLink)
      (hsent : ∀ o ∈ t.outputs,
        o = .enableAdvertising ∨ ∃ m, isLinkEvent m.event = true ∧ o = .attempted m)
      (hpanic : t.post.panicked = true ↔ AddressMissing n t.pre.gap)
  | ctsWrite {req : WriteRequest} (haction : t.action = .ctsWrite req)
      (hseen : ∀ o ∈ t.outputs,
        (∃ link value, o = .cccWritten .currentTime link value) ∨ ∃ time, o = .rtcSet time)
      (hrunning : t.post.panicked = false)
  | connected {c : ConnHandle} {origin : Option Nat} (haction : t.action = .loopReceive)
      (hqueue : t.pre.channel.items = ⟨.connected c, origin⟩ :: t.post.channel.items)
      (hout : t.outputs = [.received .peripheralLoop ⟨.connected c, origin⟩])
      (hloop : t.post.loop = .connDelay c origin) (hrunning : t.post.panicked = false)
  | disconnected {c : ConnHandle} {origin : Option Nat} (haction : t.action = .loopReceive)
      (hqueue : t.pre.channel.items = ⟨.disconnected c, origin⟩ :: t.post.channel.items)
      (hout : t.outputs =
        [.received .peripheralLoop ⟨.disconnected c, origin⟩, .initCharCfg c])
      (hreset : t.post.blinky.charCfg = A.initCharCfg c t.pre.blinky.charCfg)
      (hloop : t.post.loop = .selecting) (hrunning : t.post.panicked = false)
  | requested {c : ConnHandle} {origin : Option Nat} {updateOk : Bool}
      (haction : t.action = .loopTimer updateOk) (hloop : t.pre.loop = .connDelay c origin)
      (hout : t.outputs = [.connParamUpdateReq c])
      (haccepted : updateOk = true → t.post.loop = .selecting)
      (hpanic : t.post.panicked = !updateOk)

/-- What the state callback offers in a step of the firmware. -/
theorem GapStep.offers_linkEvents {s s' : GapState G} {n : Notification} {out : List GapOutput}
    (h : GapStep s n s' out) (origin : Option Nat) :
    ∀ o ∈ out.map (Peripheral.obsOfGap origin),
      o = .enableAdvertising ∨ ∃ m, isLinkEvent m.event = true ∧ o = .attempted m := by
  intro o ho
  rcases List.mem_map.mp ho with ⟨output, houtput, rfl⟩
  cases output with
  | enableAdvertising => exact Or.inl rfl
  | trySend event =>
      refine Or.inr ⟨⟨event, origin⟩, ?_, rfl⟩
      apply h.sends_linkEvents event
      exact List.mem_filterMap.mpr ⟨.trySend event, houtput, rfl⟩

/-- A call of the state callback panics exactly when the address it needs is missing. -/
theorem Peripheral.linkChange_panicked_iff {s s' : Peripheral G A} {a : Action} {out : List Obs}
    (hs : s.step a = some (s', out)) {n : Notification} {origin : Option Nat}
    {links : List Link} {nextLink : Nat} (hlinks : LinkChange s a n origin links nextLink) :
    s'.panicked = true ↔ AddressMissing n s.gap := by
  rw [Peripheral.step_panicked_iff hs]
  cases hlinks with
  | established hvalid hfree => simp [PanicCause, AddressMissing]
  | lost hlink hquiet => exact Iff.rfl
  | unchanged hquiet => exact Iff.rfl

/-- Every step of the firmware is of one of these kinds. -/
theorem PocQuiet.pocStep {s s' : Peripheral G A} {a : Action} {out : List Obs}
    (hI : PocQuiet s) (hs : s.step a = some (s', out)) (hwrite : ∀ req, a ≠ .blinkyWrite req) :
    PocStep ⟨s, a, out, s'⟩ := by
  rcases Peripheral.step_sound hs with ⟨hpanicked, h⟩
  cases h with
  | @callback _ n origin links nextLink gap gapOut hlinks hgap =>
      exact .callback hlinks (hgap.offers_linkEvents origin)
        (Peripheral.linkChange_panicked_iff hs hlinks)
  | @callbackPanic _ n origin links nextLink hlinks hpanic =>
      exact .callback hlinks (by simp) (Peripheral.linkChange_panicked_iff hs hlinks)
  | @blinkyCcc req link charCfg hlink hw hccc => exact absurd rfl (hwrite req)
  | @blinkyOther req blinky hcfg hccc => exact absurd rfl (hwrite req)
  | @ctsCcc req link charCfg hlink hw =>
      exact .ctsWrite rfl (by simp) hpanicked
  | @ctsOther req times =>
      exact .ctsWrite rfl (by simp) hpanicked
  | loopConnected hloop hreceive =>
      exact .connected rfl ((BoundedFifo.receive?_eq_some_iff _ _ _).mp hreceive) rfl rfl hpanicked
  | loopDisconnected hloop hreceive =>
      exact .disconnected rfl ((BoundedFifo.receive?_eq_some_iff _ _ _).mp hreceive) rfl rfl
        hloop hpanicked
  | loopSubscribed hloop hreceive hfree => cases hI.takes_linkEvent hreceive
  | loopSubscribedPanic hloop hreceive hrunning => cases hI.takes_linkEvent hreceive
  | loopUnsubscribed hloop hreceive => cases hI.takes_linkEvent hreceive
  | updateAccepted hloop hlive => exact .requested rfl hloop rfl (fun _ => rfl) hpanicked
  | updatePanic hloop => exact .requested rfl hloop rfl (by simp) rfl
  | tick hrunning => exact absurd hrunning hI.not_running
  | tickPanic hrunning hpanics => exact absurd hrunning hI.not_running
  | notifierStops hrunning hreceive hstops => exact absurd hrunning hI.not_running
  | notifierIgnores hrunning hreceive hignores => exact absurd hrunning hI.not_running

/-- The firmware sends link events only. -/
theorem PocStep.sends_linkEvents {t : Step G A} (h : PocStep t) {m : Message}
    (hm : m ∈ attemptedMessages t.outputs) : isLinkEvent m.event = true := by
  rcases List.mem_filterMap.mp hm with ⟨o, ho, hattempted⟩
  cases h with
  | callback hlinks hsent hpanic =>
      rcases hsent o ho with rfl | ⟨m', hlink, rfl⟩
      · cases hattempted
      · cases hattempted
        exact hlink
  | ctsWrite haction hseen hrunning =>
      rcases hseen o ho with ⟨link, value, rfl⟩ | ⟨time, rfl⟩
      · cases hattempted
      · cases hattempted
  | connected haction hqueue hout hloop hrunning =>
      rw [hout, List.mem_singleton] at ho
      rw [ho] at hattempted
      cases hattempted
  | disconnected haction hqueue hout hreset hloop hrunning =>
      rw [hout, List.mem_cons, List.mem_singleton] at ho
      rcases ho with rfl | rfl
      · cases hattempted
      · cases hattempted
  | requested haction hloop hout haccepted hpanic =>
      rw [hout, List.mem_singleton] at ho
      rw [ho] at hattempted
      cases hattempted

/-- The invariant survives every step of the firmware. -/
theorem PocQuiet.step {s s' : Peripheral G A} {a : Action} {out : List Obs} (hI : PocQuiet s)
    (hs : s.step a = some (s', out)) (hwrite : ∀ req, a ≠ .blinkyWrite req) : PocQuiet s' := by
  have h := (Peripheral.step_sound hs).2
  have hlinkEvents : ∀ m ∈ s'.channel.items, isLinkEvent m.event = true := by
    intro m hm
    rcases h.queued_step hm with hold | hnew
    · exact hI.linkEvents m hold
    · exact (hI.pocStep hs hwrite).sends_linkEvents hnew
  cases h with
  | @blinkyCcc req link charCfg hlink hw hccc => exact absurd rfl (hwrite req)
  | @blinkyOther req blinky hcfg hccc => exact absurd rfl (hwrite req)
  | @loopSubscribed c origin channel hloop hreceive hfree =>
      cases hI.takes_linkEvent hreceive
  | notifierStops hrunning hreceive hstops => exact absurd hrunning hI.not_running
  | _ => exact ⟨hI.idle, hlinkEvents, hI.ledOn⟩

/-- The invariant holds after every run of the firmware. -/
theorem pocQuiet_run {trace : List (Step G A)} {s : Peripheral G A}
    (hrun : (pocMachine G A).Run trace s) : PocQuiet s := by
  refine hrun.invariant ?_ ?_
  · rintro s ⟨profile, store, rfl⟩
    exact pocQuiet_boot profile store
  · intro s a s' out hI hs
    rcases pocMachine_step hs with ⟨hstep, hwrite⟩
    exact hI.step hstep hwrite

/-- A client that connects and leaves. -/
def pocClientLeaves : List Action :=
  [.linkEstablished 0, .loopReceive, .loopTimer true, .ctsWrite (cccRequest 0 1),
    .linkLost 0 ⟨.waiting, ⟨0x06, 0⟩⟩, .loopReceive]

/-- A change of the links is reported only while a slot of the queue is free. -/
def ReportsFit (s : Peripheral G A) (a : Action) : Prop :=
  linkChangeEvents a ≠ [] → s.HasRoom

instance (s : Peripheral G A) (a : Action) : Decidable (ReportsFit s a) :=
  inferInstanceAs (Decidable (_ → _))

/-- One honestly reported link at a time, with room for its reports. -/
structure LinksReported (s : Peripheral G A) (a : Action) : Prop where
  oneLink : OneHonestLink s a
  fits : ReportsFit s a

instance (s : Peripheral G A) (a : Action) : Decidable (LinksReported s a) :=
  decidable_of_iff (OneHonestLink s a ∧ ReportsFit s a) ⟨fun h => ⟨h.1, h.2⟩, fun h => ⟨h.1, h.2⟩⟩

/-- The events that are still to be answered: the one the loop has taken, and the queued
ones. -/
def Peripheral.pendingEvents (s : Peripheral G A) : List AppEvent :=
  s.owedEvents ++ s.channel.items.map Message.event

/-- An event that the loop takes and answers at once was the first of the pending ones. -/
theorem Peripheral.pendingEvents_received {s s' : Peripheral G A} {m : Message}
    {channel : BoundedFifo Message appChannelCapacity} (hbefore : s.loop = .selecting)
    (hafter : s'.loop = .selecting) (hreceive : s.channel.receive? = some (m, channel))
    (hchannel : s'.channel = channel) : m.event :: s'.pendingEvents = s.pendingEvents := by
  have hitems := (BoundedFifo.receive?_eq_some_iff _ _ _).mp hreceive
  rw [Peripheral.pendingEvents, Peripheral.pendingEvents, Peripheral.owedEvents_selecting hbefore,
    Peripheral.owedEvents_selecting hafter, hitems, hchannel]
  rfl

/-- While the loop waits for its timer, the event it has taken is the first of the pending
ones. -/
theorem Peripheral.pendingEvents_connDelay {s s' : Peripheral G A} {c : ConnHandle}
    {origin : Option Nat} (hpanicked : s.panicked = false) (hbefore : s.loop = .connDelay c origin)
    (hafter : s'.loop = .selecting) (hchannel : s'.channel = s.channel) :
    .connected c :: s'.pendingEvents = s.pendingEvents := by
  rw [Peripheral.pendingEvents, Peripheral.pendingEvents,
    Peripheral.owedEvents_connDelay hpanicked hbefore, Peripheral.owedEvents_selecting hafter,
    hchannel]
  rfl

/-- The events of a state callback on a single link are queued behind the others. -/
theorem sendAll_reports {s : Peripheral G A} {a : Action} (hfits : ReportsFit s a)
    (origin : Option Nat) {events : List AppEvent} (hevents : events = linkChangeEvents a) :
    (Peripheral.sendAll origin events s.channel).items.map Message.event =
      s.channel.items.map Message.event ++ linkChangeEvents a := by
  have hone : ∀ {event : AppEvent}, linkChangeEvents a = [event] →
      (Peripheral.sendAll origin [event] s.channel).items.map Message.event =
        s.channel.items.map Message.event ++ [event] := by
    intro event hevent
    have hroom : s.channel.items.length < appChannelCapacity := by
      apply hfits
      rw [hevent]
      exact List.cons_ne_nil _ _
    change (s.channel.offer ⟨event, origin⟩).items.map Message.event = _
    rw [BoundedFifo.offer_items, if_pos hroom, List.map_append]
    rfl
  rw [hevents]
  cases a with
  | linkEstablished c => exact hone rfl
  | linkLost c n => exact hone rfl
  | _ => exact (List.append_nil _).symm

/-- The events answered in a step and those pending after it are those pending before, and
that of the link change it makes. -/
theorem PocQuiet.handles {s s' : Peripheral G A} {a : Action} {out : List Obs} (hI : PocQuiet s)
    (hsingle : SingleLink s) (hreported : LinksReported s a) (h : PeripheralStep s a s' out)
    (hwrite : ∀ req, a ≠ .blinkyWrite req) (hbefore : s.panicked = false)
    (hafter : s'.panicked = false) :
    answeredEvents out ++ s'.pendingEvents = s.pendingEvents ++ linkChangeEvents a := by
  cases h with
  | @callback _ n origin links nextLink gap gapOut hlinks hgap =>
      have hsent := (hsingle.callback hreported.oneLink hlinks hgap).1
      have hqueue := sendAll_reports hreported.fits origin hsent
      rw [answeredEvents_gap, List.nil_append, Peripheral.pendingEvents, hqueue,
        ← List.append_assoc]
      rfl
  | callbackPanic hlinks hpanic => cases hafter
  | @blinkyCcc req link charCfg hlink hw hccc => exact absurd rfl (hwrite req)
  | @blinkyOther req blinky hcfg hccc => exact absurd rfl (hwrite req)
  | ctsOther => simp [answeredEvents, answeredEvent, linkChangeEvents]
  | @loopConnected c origin channel hloop hreceive =>
      have hitems := (BoundedFifo.receive?_eq_some_iff _ _ _).mp hreceive
      rw [Peripheral.pendingEvents, Peripheral.owedEvents_connDelay hafter rfl,
        Peripheral.pendingEvents, Peripheral.owedEvents_selecting hloop, hitems]
      simp [answeredEvents, answeredEvent, linkChangeEvents]
  | @loopDisconnected c origin channel hloop hreceive =>
      refine Eq.trans ?_ (List.append_nil _).symm
      refine Peripheral.pendingEvents_received (m := ⟨.disconnected c, origin⟩) hloop ?_ hreceive ?_
      · exact hloop
      · rfl
  | loopSubscribed hloop hreceive hfree => cases hI.takes_linkEvent hreceive
  | loopSubscribedPanic hloop hreceive hrunning => cases hafter
  | loopUnsubscribed hloop hreceive => cases hI.takes_linkEvent hreceive
  | @updateAccepted c origin hloop hlive =>
      refine Eq.trans ?_ (List.append_nil _).symm
      refine Peripheral.pendingEvents_connDelay hbefore hloop ?_ ?_
      · rfl
      · rfl
  | updatePanic hloop => cases hafter
  | tick hrunning => exact absurd hrunning hI.not_running
  | tickPanic hrunning hpanics => cases hafter
  | notifierStops hrunning hreceive hstops => exact absurd hrunning hI.not_running
  | notifierIgnores hrunning hreceive hignores => exact absurd hrunning hI.not_running
  | ctsCcc hlink hw => exact (List.append_nil _).symm

/-- In every run of the firmware without the blinky service, with one link at a time and room
for its reports, the loop has requested the connection parameters of every link that was
established and reset the configuration of every link that was lost, once for each and in
order, up to the events that are still pending. -/
theorem poc_handles_links {trace : List (Step G A)} {s : Peripheral G A}
    (hrun : (pocMachine G A).Run trace s)
    (hreported : ∀ t ∈ trace, LinksReported t.pre t.action) (hrunning : s.panicked = false) :
    answeredEvents (outputsOf trace) ++ s.pendingEvents =
      (trace.map Transition.action).flatMap linkChangeEvents := by
  have hhandled : PocQuiet s ∧ SingleLink s ∧ (s.panicked = false →
      answeredEvents (outputsOf trace) ++ s.pendingEvents =
        (trace.map Transition.action).flatMap linkChangeEvents) := by
    refine Run.history_invariant (J := fun trace s => PocQuiet s ∧ SingleLink s ∧
      (s.panicked = false → answeredEvents (outputsOf trace) ++ s.pendingEvents =
        (trace.map Transition.action).flatMap linkChangeEvents)) ?_ ?_ hrun hreported
    · rintro s ⟨profile, store, rfl⟩
      exact ⟨pocQuiet_boot profile store, (singleLink_boot profile store 0).of_same rfl rfl,
        fun _ => rfl⟩
    · rintro trace s a s' out ⟨hquiet, hsingle, hprev⟩ hreported hs
      rcases pocMachine_step hs with ⟨hstep, hwrite⟩
      rcases Peripheral.step_sound hstep with ⟨hbefore, hcases⟩
      refine ⟨hquiet.step hstep hwrite, (hsingle.reports hreported.oneLink hcases).2, ?_⟩
      intro hafter
      have hnew := hquiet.handles hsingle hreported hcases hwrite hbefore hafter
      rw [outputsOf_append, outputsOf_cons, outputsOf_nil, List.append_nil,
        answeredEvents_append, List.append_assoc, hnew, ← List.append_assoc, hprev hbefore,
        List.map_append, List.flatMap_append]
      simp
  exact hhandled.2.2 hrunning

/-- Two clients in a row, the second of which is waiting for its request. -/
def pocTwoClients : List Action :=
  [.linkEstablished 0, .loopReceive, .loopTimer true, .linkLost 0 ⟨.waiting, ⟨0x06, 0⟩⟩,
    .linkEstablished 1, .loopReceive, .loopReceive]

theorem poc_handles_links_twoClients :
    ∃ trace s, (pocMachine (paramStore (Vector.replicate 6 0)) slotTable).Run trace s ∧
      trace.map Transition.action = pocTwoClients ∧
      answeredEvents (outputsOf trace) ++ s.pendingEvents =
        [.connected 0, .disconnected 0, .connected 1] ∧
      s.pendingEvents = [.connected 1] := by
  have hcheck : ∃ result ∈ (pocMachine (paramStore (Vector.replicate 6 0)) slotTable).exec
      (Peripheral.bootPoc .release fun _ => 0) pocTwoClients,
      (∀ t ∈ result.1, LinksReported t.pre t.action) ∧ result.2.panicked = false ∧
        result.2.pendingEvents = [.connected 1] := by
    decide
  have hinit : (pocMachine (paramStore (Vector.replicate 6 0)) slotTable).initial
      (Peripheral.bootPoc .release fun _ => 0) :=
    ⟨.release, fun _ => 0, rfl⟩
  rcases hcheck with ⟨⟨trace, s⟩, hexec, hreported, hrunning, hpending⟩
  have hrun := exec_run hinit hexec
  have hactions := exec_actions hexec
  refine ⟨trace, s, hrun, hactions, ?_, hpending⟩
  rw [poc_handles_links hrun hreported hrunning, hactions]
  rfl

end PapajBadge
