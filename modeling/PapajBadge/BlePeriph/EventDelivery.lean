import PapajBadge.BlePeriph.EventLoop

/-!
# Delivery of application events

What happens to the events between the callbacks that send them and the tasks
that receive them.  Seen from the channel, a step of the system is one queue
operation or none, so the account of the queue carries over to whole runs.

Main results:

- Theorem `PeripheralStep.channel_step`: a step offers one message, receives one
  message, or leaves the channel alone.
- Theorem `messages_conserved`: received and queued messages are the accepted ones,
  in order.
- Theorem `events_kept_unless_full`: the only events missing are those offered
  while three were queued.
- Theorem `every_event_served_iff`: the runs in which no event is consumed by a
  task that ignores it.
-/

namespace PapajBadge

open TransitionSystem

variable {G : GapRole} {A : GattServApp}

/-- A step of the system. -/
abbrev Step (G : GapRole) (A : GattServApp) := Transition (Peripheral G A) Action Obs

/-! ## The channel in a run -/

/-- The messages offered to the channel, whether or not there was room. -/
def attemptedMessages (obs : List Obs) : List Message :=
  obs.filterMap fun
    | .attempted m => some m
    | _ => none

/-- The messages received from the channel, by either task. -/
def receivedMessages (obs : List Obs) : List Message :=
  obs.filterMap fun
    | .received _ m => some m
    | _ => none

@[simp]
theorem attemptedMessages_append (left right : List Obs) :
    attemptedMessages (left ++ right) = attemptedMessages left ++ attemptedMessages right := by
  simp [attemptedMessages]

@[simp]
theorem receivedMessages_append (left right : List Obs) :
    receivedMessages (left ++ right) = receivedMessages left ++ receivedMessages right := by
  simp [receivedMessages]

/-- The state callback offers what it sends and receives nothing. -/
theorem attemptedMessages_gap (origin : Option Nat) (out : List GapOutput) :
    attemptedMessages (out.map (Peripheral.obsOfGap origin)) =
      (sentEvents out).map fun event => ⟨event, origin⟩ := by
  induction out with
  | nil => rfl
  | cons o out ih =>
      cases o with
      | trySend event => simpa [attemptedMessages, Peripheral.obsOfGap] using ih
      | enableAdvertising => simpa [attemptedMessages, Peripheral.obsOfGap] using ih

theorem receivedMessages_gap (origin : Option Nat) (out : List GapOutput) :
    receivedMessages (out.map (Peripheral.obsOfGap origin)) = [] := by
  apply List.filterMap_eq_nil_iff.mpr
  intro o ho
  rcases Peripheral.mem_obsOfGap ho with rfl | ⟨m, rfl⟩
  · rfl
  · rfl

/-- What a step does to the channel. -/
inductive ChannelStep (before after : BoundedFifo Message appChannelCapacity)
    (obs : List Obs) : Prop
  | offered (m : Message) (hattempted : attemptedMessages obs = [m])
      (hreceived : receivedMessages obs = []) (hafter : after = before.offer m)
  | taken (m : Message) (hattempted : attemptedMessages obs = [])
      (hreceived : receivedMessages obs = [m]) (hafter : before.receive? = some (m, after))
  | untouched (hattempted : attemptedMessages obs = []) (hreceived : receivedMessages obs = [])
      (hafter : after = before)

/-- Every step is at most one operation on the channel. -/
theorem PeripheralStep.channel_step {s s' : Peripheral G A} {a : Action} {out : List Obs}
    (h : PeripheralStep s a s' out) : ChannelStep s.channel s'.channel out := by
  cases h with
  | @callback _ n origin links nextLink gap gapOut hlinks hgap =>
      rcases hgap.sent_cases with hsent | ⟨event, hsent⟩
      · refine .untouched ?_ (receivedMessages_gap origin gapOut) ?_
        · rw [attemptedMessages_gap, hsent]
          rfl
        · simp [hsent, Peripheral.sendAll]
      · refine .offered ⟨event, origin⟩ ?_ (receivedMessages_gap origin gapOut) ?_
        · rw [attemptedMessages_gap, hsent]
          rfl
        · simp [hsent, Peripheral.sendAll]
  | blinkyCcc hlink hwrite hccc => exact .offered _ rfl rfl rfl
  | ctsOther => exact .untouched (by simp [attemptedMessages]) (by simp [receivedMessages]) rfl
  | tick hrunning =>
      exact .untouched (by simp [attemptedMessages]) (by simp [receivedMessages]) rfl
  | loopConnected hloop hreceive => exact .taken _ rfl rfl hreceive
  | loopDisconnected hloop hreceive => exact .taken _ rfl rfl hreceive
  | loopSubscribed hloop hreceive hfree => exact .taken _ rfl rfl hreceive
  | loopSubscribedPanic hloop hreceive hrunning => exact .taken _ rfl rfl hreceive
  | loopUnsubscribed hloop hreceive => exact .taken _ rfl rfl hreceive
  | notifierStops hrunning hreceive hstops => exact .taken _ rfl rfl hreceive
  | notifierIgnores hrunning hreceive hignores => exact .taken _ rfl rfl hreceive
  | _ => exact .untouched rfl rfl rfl

/-- What is queued after a step was queued before or offered by the step. -/
theorem PeripheralStep.queued_step {s s' : Peripheral G A} {a : Action} {out : List Obs}
    (h : PeripheralStep s a s' out) {m : Message} (hm : m ∈ s'.channel.items) :
    m ∈ s.channel.items ∨ m ∈ attemptedMessages out := by
  cases h.channel_step with
  | offered x hattempted hreceived hafter =>
      rw [hafter] at hm
      rcases BoundedFifo.mem_of_mem_offer hm with hold | hnew
      · exact Or.inl hold
      · right
        simp [hattempted, hnew]
  | taken x hattempted hreceived hafter =>
      rw [BoundedFifo.receive?_eq_some_iff] at hafter
      left
      rw [hafter]
      exact List.mem_cons_of_mem x hm
  | untouched hattempted hreceived hafter =>
      rw [hafter] at hm
      exact Or.inl hm

/-- A message is offered by the state callback on behalf of a link, or for an
accepted configuration write of the blinky service. -/
theorem PeripheralStep.attempted_cases {s s' : Peripheral G A} {a : Action} {out : List Obs}
    (h : PeripheralStep s a s' out) {m : Message} (hm : m ∈ attemptedMessages out) :
    (∃ n gapOut, LinkChange s a n m.origin s'.links s'.nextLink ∧
      GapStep s.gap n s'.gap gapOut ∧ m.event ∈ sentEvents gapOut) ∨
    ∃ req link, s.linkOn req.connHandle = some link ∧
      m = ⟨subscriptionEvent req, some link.id⟩ ∧
      out = [.cccWritten .blinky link req.cccValue, .attempted m] := by
  cases h with
  | @callback _ n origin links nextLink gap gapOut hlinks hgap =>
      rw [attemptedMessages_gap, List.mem_map] at hm
      rcases hm with ⟨event, hsent, rfl⟩
      exact Or.inl ⟨n, gapOut, hlinks, hgap, hsent⟩
  | @blinkyCcc req link charCfg hlink hwrite hccc =>
      have heq := List.mem_singleton.mp hm
      exact Or.inr ⟨req, link, hlink, heq, by rw [heq]⟩
  | ctsOther => simp [attemptedMessages] at hm
  | tick hrunning => simp [attemptedMessages] at hm
  | _ => cases hm

/-- Whether a slot of the channel is free. -/
def Peripheral.HasRoom (s : Peripheral G A) : Prop :=
  s.channel.items.length < appChannelCapacity

instance (s : Peripheral G A) : Decidable s.HasRoom :=
  inferInstanceAs (Decidable (_ < _))

/-- The messages offered while a slot was free. -/
def acceptedMessages (trace : List (Step G A)) : List Message :=
  trace.flatMap fun t => if t.pre.HasRoom then attemptedMessages t.outputs else []

/-- In every run, the messages received so far followed by the ones still queued
are the accepted ones, in order. -/
theorem messages_conserved {trace : List (Step G A)} {s : Peripheral G A}
    (hrun : (peripheralMachine G A).Run trace s) :
    receivedMessages (outputsOf trace) ++ s.channel.items = acceptedMessages trace := by
  induction hrun with
  | start hinit =>
      rcases hinit with ⟨profile, store, dataHandle, rfl⟩
      rfl
  | @extend trace s a s' out _ hs ih =>
      have hstep := (Peripheral.step_sound hs).2.channel_step
      simp only [acceptedMessages, List.flatMap_append, outputsOf_append, receivedMessages_append,
        List.flatMap_singleton, outputsOf_cons, outputsOf_nil, List.append_nil]
      cases hstep with
      | offered m hattempted hreceived hafter =>
          rw [hattempted, hreceived, hafter, List.append_nil]
          exact BoundedFifo.conserves_offer ih m
      | taken m hattempted hreceived hafter =>
          rw [hattempted, hreceived, ite_self, List.append_nil]
          exact BoundedFifo.conserves_receive ih hafter
      | untouched hattempted hreceived hafter =>
          rw [hattempted, hreceived, hafter, ite_self, List.append_nil, List.append_nil]
          exact ih

/-! ## Events that find the channel full -/

/-- Accepting messages drops some of them and reorders none. -/
theorem acceptedMessages_sublist (trace : List (Step G A)) :
    (acceptedMessages trace).Sublist (attemptedMessages (outputsOf trace)) := by
  induction trace with
  | nil => exact List.Sublist.refl []
  | cons t trace ih =>
      rw [acceptedMessages, List.flatMap_cons, outputsOf_cons, attemptedMessages_append]
      apply List.Sublist.append
      · split_ifs with hroom
        · exact List.Sublist.refl _
        · exact List.nil_sublist _
      · exact ih

/-- Every message was accepted exactly when each of them found a free slot. -/
theorem acceptedMessages_eq_iff (trace : List (Step G A)) :
    acceptedMessages trace = attemptedMessages (outputsOf trace) ↔
      ∀ t ∈ trace, attemptedMessages t.outputs ≠ [] → t.pre.HasRoom := by
  induction trace with
  | nil => simp [acceptedMessages, attemptedMessages]
  | cons t trace ih =>
      have hrest := (acceptedMessages_sublist trace).length_le
      rw [List.forall_mem_cons, ← ih, acceptedMessages, List.flatMap_cons, outputsOf_cons,
        attemptedMessages_append]
      by_cases hroom : t.pre.HasRoom
      · rw [if_pos hroom, List.append_cancel_left_eq]
        exact (and_iff_right fun _ => hroom).symm
      · rw [if_neg hroom, List.nil_append]
        constructor
        · intro heq
          have hlength := congrArg List.length heq
          rw [List.length_append] at hlength
          have hnone : attemptedMessages t.outputs = [] := by
            apply List.eq_nil_of_length_eq_zero
            change (acceptedMessages trace).length = _ at hlength
            omega
          refine ⟨fun hsome => absurd hnone hsome, ?_⟩
          rwa [hnone, List.nil_append] at heq
        · rintro ⟨hfree, heq⟩
          have hnone : attemptedMessages t.outputs = [] := by
            by_contra hsome
            exact hroom (hfree hsome)
          rwa [hnone, List.nil_append]

/-- The events received so far followed by the ones still queued are the events
that found a free slot, in the order they were sent; they are all the events that
were sent exactly when none was sent while three were queued. -/
theorem events_kept_unless_full {trace : List (Step G A)} {s : Peripheral G A}
    (hrun : (peripheralMachine G A).Run trace s) :
    (receivedMessages (outputsOf trace) ++ s.channel.items).map Message.event =
        (acceptedMessages trace).map Message.event ∧
      ((receivedMessages (outputsOf trace) ++ s.channel.items).map Message.event =
          (attemptedMessages (outputsOf trace)).map Message.event ↔
        ∀ t ∈ trace, attemptedMessages t.outputs ≠ [] → t.pre.HasRoom) := by
  rw [messages_conserved hrun, ← acceptedMessages_eq_iff]
  refine ⟨rfl, ?_, fun heq => by rw [heq]⟩
  intro hevents
  have hlength := congrArg List.length hevents
  rw [List.length_map, List.length_map] at hlength
  exact (acceptedMessages_sublist trace).eq_of_length hlength

/-- Two events and never more than one of them queued. -/
theorem events_kept_unless_full_briefLink :
    ∃ trace s, badge.Run trace s ∧
      trace.map Transition.action =
        [.linkEstablished 0, .loopReceive, .linkLost 0 ⟨.waiting, ⟨0x06, 0⟩⟩] ∧
      (receivedMessages (outputsOf trace) ++ s.channel.items).map Message.event =
        (attemptedMessages (outputsOf trace)).map Message.event := by
  have hcheck : ∃ result ∈ badge.exec badgeBoot
      [.linkEstablished 0, .loopReceive, .linkLost 0 ⟨.waiting, ⟨0x06, 0⟩⟩],
      ∀ t ∈ result.1, attemptedMessages t.outputs ≠ [] → t.pre.HasRoom := by
    decide
  rcases hcheck with ⟨⟨trace, s⟩, hexec, hroom⟩
  have hrun := exec_run badge_initial hexec
  exact ⟨trace, s, hrun, exec_actions hexec, (events_kept_unless_full hrun).2.mpr hroom⟩

/-- A link that is lost while the loop waits in its `Connected` arm and three
configuration writes are queued. -/
def lostBehindWrites : List Action :=
  [.linkEstablished 0, .loopReceive, .blinkyWrite (cccRequest 0 1), .blinkyWrite (cccRequest 0 0),
    .blinkyWrite (cccRequest 0 1), .linkLost 0 ⟨.waiting, ⟨0x06, 0⟩⟩]

/-- The disconnect event of that link is sent and neither received nor queued. -/
theorem events_lost_behindWrites :
    ∃ trace s, badge.Run trace s ∧ trace.map Transition.action = lostBehindWrites ∧
      (receivedMessages (outputsOf trace) ++ s.channel.items).map Message.event ≠
        (attemptedMessages (outputsOf trace)).map Message.event ∧
      .disconnected 0 ∈ (attemptedMessages (outputsOf trace)).map Message.event ∧
      .disconnected 0 ∉ (receivedMessages (outputsOf trace) ++ s.channel.items).map
        Message.event := by
  have hcheck : ∃ result ∈ badge.exec badgeBoot lostBehindWrites,
      (receivedMessages (outputsOf result.1) ++ result.2.channel.items).map Message.event ≠
          (attemptedMessages (outputsOf result.1)).map Message.event ∧
        .disconnected 0 ∈ (attemptedMessages (outputsOf result.1)).map Message.event ∧
        .disconnected 0 ∉ (receivedMessages (outputsOf result.1) ++
          result.2.channel.items).map Message.event := by
    decide
  rcases hcheck with ⟨⟨trace, s⟩, hexec, hresult⟩
  exact ⟨trace, s, exec_run badge_initial hexec, exec_actions hexec, hresult⟩

/-! ## Events that reach the wrong task -/

/-- What the receiver of an event has to do about it: the loop waits to request
connection parameters or starts the notification task, and a running notification
task ends when its client unsubscribes or leaves. -/
def ServedBy (t : Step G A) (receiver : Receiver) (m : Message) : Prop :=
  match m.event with
  | .connected h => receiver = .peripheralLoop ∧ t.post.loop = .connDelay h m.origin
  | .blinkySubscribed h =>
      receiver = .peripheralLoop ∧ .spawn h ∈ t.outputs ∧ t.post.notifier = some h ∧
        t.post.panicked = false
  | .blinkyUnsubscribed _ => t.pre.notifier ≠ none → t.post.notifier = none
  | .disconnected h =>
      t.pre.notifier ≠ none → .initCharCfg h ∈ t.outputs ∧ t.post.notifier = none

/-- No event taken in the step was wasted. -/
def EventServed (t : Step G A) : Prop :=
  ∀ receiver m, .received receiver m ∈ t.outputs → ServedBy t receiver m

/-- The event at the head of the channel needs nothing of the notification task
but what the receiver scheduled by the action does. -/
def oneReceiverSuffices : Action → AppEvent → Bool
  | .loopReceive, .connected _ => true
  | .loopReceive, _ => false
  | .notifierReceive, .blinkyUnsubscribed _ => true
  | .notifierReceive, _ => false
  | _, _ => true

/-- The step takes no event while the notification task runs, unless it is a
connect event taken by the loop or an unsubscribe event taken by that task. -/
def SafeReceive (s : Peripheral G A) (a : Action) : Prop :=
  s.notifier = none ∨ ∀ m ∈ s.channel.items.head?, oneReceiverSuffices a m.event = true

instance (s : Peripheral G A) (a : Action) : Decidable (SafeReceive s a) :=
  inferInstanceAs (Decidable (_ ∨ _))

/-- A step that receives nothing wastes nothing. -/
theorem eventServed_of_quiet {t : Step G A} (hquiet : receivedMessages t.outputs = []) :
    EventServed t := by
  intro receiver m hmem
  have hreceived : m ∈ receivedMessages t.outputs :=
    List.mem_filterMap.mpr ⟨.received receiver m, hmem, rfl⟩
  rw [hquiet] at hreceived
  cases hreceived

/-- A step that receives one event serves exactly that one. -/
theorem eventServed_iff {t : Step G A} {receiver : Receiver} {m : Message} {rest : List Obs}
    (houtputs : t.outputs = .received receiver m :: rest)
    (hrest : ∀ r m', .received r m' ∉ rest) :
    EventServed t ↔ ServedBy t receiver m := by
  constructor
  · intro hserved
    apply hserved
    simp [houtputs]
  · intro hserved r m' hmem
    rw [houtputs, List.mem_cons] at hmem
    rcases hmem with hhead | htail
    · cases hhead
      exact hserved
    · exact absurd htail (hrest r m')

/-- With a known head, receiving is safe when the notification task is idle or has
no part in the event. -/
theorem safeReceive_iff {s : Peripheral G A} {a : Action} {m : Message}
    {channel : BoundedFifo Message appChannelCapacity}
    (hreceive : s.channel.receive? = some (m, channel)) :
    SafeReceive s a ↔ s.notifier = none ∨ oneReceiverSuffices a m.event = true := by
  have hitems := (BoundedFifo.receive?_eq_some_iff _ _ _).mp hreceive
  simp [SafeReceive, hitems]

/-- A step of the environment is safe. -/
theorem LinkChange.safeReceive {s : Peripheral G A} {a : Action} {n : Notification}
    {origin : Option Nat} {links : List Link} {nextLink : Nat}
    (h : LinkChange s a n origin links nextLink) : SafeReceive s a := by
  cases h with
  | established hvalid hfree => exact Or.inr fun _ _ => rfl
  | lost hlink hquiet => exact Or.inr fun _ _ => rfl
  | unchanged hquiet => exact Or.inr fun _ _ => rfl

/-- A step wastes no event exactly when its receive is safe. -/
theorem PeripheralStep.eventServed_iff_safeReceive {s s' : Peripheral G A} {a : Action}
    {out : List Obs} (h : PeripheralStep s a s' out) (hpanicked : s.panicked = false) :
    EventServed ⟨s, a, out, s'⟩ ↔ SafeReceive s a := by
  cases h with
  | @callback _ n origin links nextLink gap gapOut hlinks hgap =>
      exact iff_of_true (eventServed_of_quiet (receivedMessages_gap origin gapOut))
        hlinks.safeReceive
  | callbackPanic hlinks hpanic => exact iff_of_true (eventServed_of_quiet rfl) hlinks.safeReceive
  | ctsOther =>
      exact iff_of_true (eventServed_of_quiet (by simp [receivedMessages]))
        (Or.inr fun _ _ => rfl)
  | loopConnected hloop hreceive =>
      rw [eventServed_iff rfl (by simp), safeReceive_iff hreceive]
      exact iff_of_true ⟨rfl, rfl⟩ (Or.inr rfl)
  | loopDisconnected hloop hreceive =>
      rw [eventServed_iff rfl (by simp), safeReceive_iff hreceive]
      simp [ServedBy, oneReceiverSuffices]
  | loopSubscribed hloop hreceive hfree =>
      rw [eventServed_iff rfl (by simp), safeReceive_iff hreceive]
      exact iff_of_true ⟨rfl, by simp, rfl, hpanicked⟩ (Or.inl hfree)
  | loopSubscribedPanic hloop hreceive hrunning =>
      rw [eventServed_iff rfl (by simp), safeReceive_iff hreceive]
      simp [ServedBy, oneReceiverSuffices, hrunning]
  | loopUnsubscribed hloop hreceive =>
      rw [eventServed_iff rfl (by simp), safeReceive_iff hreceive]
      simp [ServedBy, oneReceiverSuffices]
  | tick hrunning =>
      exact iff_of_true (eventServed_of_quiet (by simp [receivedMessages]))
        (Or.inr fun _ _ => rfl)
  | @notifierStops c m channel hrunning hreceive hstops =>
      rw [eventServed_iff rfl (by simp), safeReceive_iff hreceive]
      rcases m with ⟨event, origin⟩
      cases event with
      | disconnected h => simp [ServedBy, oneReceiverSuffices, hrunning]
      | blinkyUnsubscribed h => exact iff_of_true (fun _ => rfl) (Or.inr rfl)
      | connected h => cases hstops
      | blinkySubscribed h => cases hstops
  | @notifierIgnores c m channel hrunning hreceive hignores =>
      rw [eventServed_iff rfl (by simp), safeReceive_iff hreceive]
      rcases m with ⟨event, origin⟩
      cases event with
      | connected h => simp [ServedBy, oneReceiverSuffices, hrunning]
      | blinkySubscribed h => simp [ServedBy, oneReceiverSuffices, hrunning]
      | disconnected h => cases hignores
      | blinkyUnsubscribed h => cases hignores
  | _ => exact iff_of_true (eventServed_of_quiet rfl) (Or.inr fun _ _ => rfl)

/-- A run wastes no event exactly when, while the notification task runs, only
connect events reach the loop and only unsubscribe events reach that task. -/
theorem every_event_served_iff {trace : List (Step G A)} {s : Peripheral G A}
    (hrun : (peripheralMachine G A).Run trace s) :
    (∀ t ∈ trace, EventServed t) ↔ ∀ t ∈ trace, SafeReceive t.pre t.action := by
  apply forall₂_congr
  intro t ht
  have hstep := Peripheral.step_sound (hrun.step_of_mem ht)
  exact hstep.2.eventServed_iff_safeReceive hstep.1

/-- A client that connects, subscribes and unsubscribes, with the unsubscribe event
taken by the notification task. -/
def unsubscribedInTime : List Action :=
  [.linkEstablished 0, .loopReceive, .loopTimer true, .blinkyWrite (cccRequest 0 1),
    .loopReceive, .blinkyWrite (cccRequest 0 0), .notifierReceive]

theorem every_event_served_unsubscribedInTime :
    ∃ trace s, badge.Run trace s ∧ trace.map Transition.action = unsubscribedInTime ∧
      ∀ t ∈ trace, EventServed t := by
  have hcheck : ∃ result ∈ badge.exec badgeBoot unsubscribedInTime,
      ∀ t ∈ result.1, SafeReceive t.pre t.action := by
    decide
  rcases hcheck with ⟨⟨trace, s⟩, hexec, hsafe⟩
  have hrun := exec_run badge_initial hexec
  exact ⟨trace, s, hrun, exec_actions hexec, (every_event_served_iff hrun).mpr hsafe⟩

/-- A subscribed client that leaves, with the disconnect event taken by the loop. -/
def leftToTheLoop : List Action :=
  [.linkEstablished 0, .loopReceive, .loopTimer true, .blinkyWrite (cccRequest 0 1),
    .loopReceive, .linkLost 0 ⟨.waiting, ⟨0x06, 0⟩⟩, .loopReceive]

/-- The notification task keeps running after its client has left. -/
theorem event_wasted_leftToTheLoop :
    ∃ trace s, badge.Run trace s ∧ trace.map Transition.action = leftToTheLoop ∧
      ¬∀ t ∈ trace, EventServed t := by
  have hcheck : ∃ result ∈ badge.exec badgeBoot leftToTheLoop,
      ∃ t ∈ result.1, .received .peripheralLoop ⟨.disconnected 0, some 0⟩ ∈ t.outputs ∧
        t.pre.notifier = some 0 ∧ t.post.notifier = some 0 := by
    decide
  rcases hcheck with ⟨⟨trace, s⟩, hexec, t, ht, hreceived, hpre, hpost⟩
  refine ⟨trace, s, exec_run badge_initial hexec, exec_actions hexec, fun hserved => ?_⟩
  have hstops := (hserved t ht _ _ hreceived (by simp [hpre])).2
  simp [hpost] at hstops

end PapajBadge
