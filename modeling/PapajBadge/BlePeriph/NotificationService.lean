import PapajBadge.BlePeriph.LinkReports
import PapajBadge.BlePeriph.Quiescence
import PapajBadge.BlePeriph.TaskProtocol

/-!
# The notification service

What the blinky notifications are for, as a machine of its own: at most one peer is
subscribed, and a tick notifies that peer.  With one link at a time, and as long as the
surroundings let the tasks drain the queue and no tick panics, the firmware is such a
service, whichever task takes which event.  To notify is to call `GATT_Notification`: the
stack may refuse it, and in the release profile the buffer may be null.

Main results:

- Theorem `PeripheralStep.serves`: a step does what the service does on the events it stands
  for.
- Theorem `notification_service_refined`: every orderly run is one of the service, and when
  the queue is empty the next tick notifies the subscriber.
-/

namespace PapajBadge

open TransitionSystem

variable {G : GapRole} {A : GattServApp}

/-! ## The service -/

/-- What happens to the service: a peer enables or disables notifications, a peer leaves, or
the ticker fires. -/
inductive ServiceEvent where
  | configured (peer : ConnHandle) (enabled : Bool)
  | left (peer : ConnHandle)
  | tick
deriving DecidableEq, Repr

/-- The subscriber without a peer. -/
def withoutPeer (peer : ConnHandle) (subscriber : Option ConnHandle) : Option ConnHandle :=
  subscriber.filter fun h => h ≠ peer

/-- The subscriber after an event, and the peers that are notified. -/
def serveEvent (subscriber : Option ConnHandle) : ServiceEvent →
    Option ConnHandle × List ConnHandle
  | .configured peer true => (some peer, [])
  | .configured peer false => (withoutPeer peer subscriber, [])
  | .left peer => (withoutPeer peer subscriber, [])
  | .tick => (subscriber, subscriber.toList)

/-- The service, from the state without a subscriber. -/
def notificationService : TransitionSystem (Option ConnHandle) ServiceEvent ConnHandle where
  initial subscriber := subscriber = none
  step subscriber event := some (serveEvent subscriber event)

/-! ## The firmware as a service -/

/-- The event an action of the surroundings stands for. -/
def surroundingEvent : Action → Option ServiceEvent
  | .linkLost h _ => some (.left h)
  | .notifierTick _ => some .tick
  | _ => none

/-- The event an accepted configuration write stands for. -/
def configuredEvent : Obs → Option ServiceEvent
  | .cccWritten .blinky link value => some (.configured link.handle (value = 1))
  | _ => none

/-- The events a step stands for. -/
def serviceEvents (t : Step G A) : List ServiceEvent :=
  (surroundingEvent t.action).toList ++ t.outputs.filterMap configuredEvent

/-- The peer for whom `GATT_Notification` is called, accepted or not. -/
def notifiedHandle? : Obs → Option ConnHandle
  | .tick (.gattNotification h _ _ _ _) => some h
  | _ => none

/-- The peer that the next tick notifies, unless it panics. -/
def Peripheral.notifiedPeer (s : Peripheral G A) : Option ConnHandle :=
  s.notifier.filter fun h => s.entry .blinky h = 1

/-- The surroundings act, and the ticker fires, only while no event is queued. -/
def Unhurried (s : Peripheral G A) (a : Action) : Prop :=
  handlesEvent a = true ∨ s.channel.items = []

instance (s : Peripheral G A) (a : Action) : Decidable (Unhurried s a) :=
  inferInstanceAs (Decidable (_ ∨ _))

/-- One honestly reported link at a time, subscriptions only while no task runs, time for
the tasks to drain the queue, and no tick that panics. -/
structure Orderly (s : Peripheral G A) (a : Action) : Prop where
  oneLink : OneHonestLink s a
  subscribesIdle : SubscribesIdle s a
  unhurried : Unhurried s a
  tickCopies : TickCopies s a

instance (s : Peripheral G A) (a : Action) : Decidable (Orderly s a) :=
  decidable_of_iff (OneHonestLink s a ∧ SubscribesIdle s a ∧ Unhurried s a ∧ TickCopies s a)
    ⟨fun h => ⟨h.1, h.2.1, h.2.2.1, h.2.2.2⟩, fun h => ⟨h.1, h.2, h.3, h.4⟩⟩

/-- The server accepts configurations of two bytes only. -/
def GattServApp.ChecksLength (A : GattServApp) : Prop :=
  ∀ {h : ConnHandle} {value : Nat → UInt8} {len offset cfg : UInt16} {t t' : A.Table},
    A.processCccWriteReq h value len offset cfg t = .ok t' → len = 2

/-- The four-slot server checks the length. -/
theorem slotTable_checksLength : slotTable.ChecksLength := by
  intro h value len offset cfg t t' hwrite
  change CharCfgSlots.write h value len offset cfg t = .ok t' at hwrite
  unfold CharCfgSlots.write at hwrite
  split_ifs at hwrite with hoffset hlen
  · exact not_not.mp hlen
  · exact not_not.mp hlen

/-! ## The next notification -/

theorem Peripheral.notifiedPeer_eq_some_iff {s : Peripheral G A} {h : ConnHandle} :
    s.notifiedPeer = some h ↔ s.notifier = some h ∧ s.entry .blinky h = 1 := by
  simp [Peripheral.notifiedPeer, Option.filter_eq_some_iff]

/-- Without the task, no peer is notified. -/
theorem Peripheral.notifiedPeer_idle {s : Peripheral G A} (hidle : s.notifier = none) :
    s.notifiedPeer = none := by
  simp [Peripheral.notifiedPeer, hidle]

/-- The next notification depends on the task and the configurations only. -/
theorem Peripheral.notifiedPeer_of_same {s s' : Peripheral G A} (hnotifier : s'.notifier = s.notifier)
    (hcfg : s'.blinky.charCfg = s.blinky.charCfg) : s'.notifiedPeer = s.notifiedPeer := by
  unfold Peripheral.notifiedPeer Peripheral.entry
  rw [hnotifier, hcfg]

/-- A tick of the task notifies that peer. -/
theorem Peripheral.notified_tick {s : Peripheral G A} {c : ConnHandle} (env : TickEnv)
    (hrunning : s.notifier = some c) :
    ((notificationTick c env s.blinky).map Obs.tick).filterMap notifiedHandle? =
      s.notifiedPeer.toList := by
  have hentry : s.entry .blinky c = A.readCharCfg c s.blinky.charCfg := rfl
  unfold notificationTick
  by_cases hset : A.readCharCfg c s.blinky.charCfg = 1
  · have hpeer : s.notifiedPeer = some c :=
      Peripheral.notifiedPeer_eq_some_iff.mpr ⟨hrunning, hentry.trans hset⟩
    rw [if_pos hset, hpeer]
    rfl
  · have hpeer : s.notifiedPeer = none := by
      simp [Peripheral.notifiedPeer, hrunning, hentry, hset]
    simp [hset, hpeer]

/-! ## What a queued event has been queued for -/

/-- What holds while an event is queued alone, until one of the tasks has taken it. -/
def Peripheral.Awaits (s : Peripheral G A) (subscriber : Option ConnHandle) : AppEvent → Prop
  | .connected _ => s.notifiedPeer = subscriber
  | .disconnected c => subscriber = none ∧ ∀ p, s.notifiedPeer = some p → p = c
  | .blinkySubscribed c => s.notifier = none ∧ s.entry .blinky c = 1 ∧ subscriber = some c
  | .blinkyUnsubscribed _ => s.notifiedPeer = none ∧ subscriber = none

/-- At most one event is queued; without one, the next tick notifies the subscriber. -/
inductive Peripheral.Settles (s : Peripheral G A) (subscriber : Option ConnHandle) : Prop
  | drained (hqueue : s.channel.items = []) (hpeer : s.notifiedPeer = subscriber)
  | awaiting {m : Message} (hqueue : s.channel.items = [m]) (hawaits : s.Awaits subscriber m.event)

/-- The firmware serves a subscriber: it is the peer on the link, and the queue is settled. -/
structure Peripheral.Serves (s : Peripheral G A) (subscriber : Option ConnHandle) : Prop where
  single : SingleLink s
  live : ∀ h, subscriber = some h → ∃ l ∈ s.links, l.handle = h
  settles : s.Settles subscriber

/-- With an empty queue, the next tick notifies the subscriber. -/
theorem Peripheral.Settles.peer {s : Peripheral G A} {subscriber : Option ConnHandle}
    (h : s.Settles subscriber) (hempty : s.channel.items = []) : s.notifiedPeer = subscriber := by
  cases h with
  | drained hqueue hpeer => exact hpeer
  | awaiting hqueue hawaits =>
      rw [hempty] at hqueue
      cases hqueue

/-- The event that is taken is the one that was awaited, and none is left. -/
theorem Peripheral.Settles.received {s : Peripheral G A} {subscriber : Option ConnHandle}
    (h : s.Settles subscriber) {m : Message} {channel : BoundedFifo Message appChannelCapacity}
    (hreceive : s.channel.receive? = some (m, channel)) :
    channel.items = [] ∧ s.Awaits subscriber m.event := by
  have hitems := (BoundedFifo.receive?_eq_some_iff _ _ _).mp hreceive
  cases h with
  | drained hqueue hpeer =>
      rw [hqueue] at hitems
      cases hitems
  | @awaiting m' hqueue hawaits =>
      rw [hqueue, List.cons.injEq] at hitems
      rcases hitems with ⟨rfl, hrest⟩
      exact ⟨hrest.symm, hawaits⟩

/-- An event offered to an empty queue is queued alone. -/
theorem offer_drained {channel : BoundedFifo Message appChannelCapacity}
    (hempty : channel.items = []) (m : Message) : (channel.offer m).items = [m] := by
  rw [BoundedFifo.offer_items, hempty]
  rfl

/-! ## What keeps the service going -/

/-- Two live links are the same. -/
theorem SingleLink.unique {s : Peripheral G A} (hI : SingleLink s) {l l' : Link}
    (hl : l ∈ s.links) (hl' : l' ∈ s.links) : l = l' := by
  cases hI with
  | unlinked hnone hlast =>
      rw [hnone] at hl
      cases hl
  | linked hlinks hlast hhandle =>
      rw [hlinks, List.mem_singleton] at hl hl'
      rw [hl, hl']

namespace Peripheral.Serves

variable {s s' : Peripheral G A} {subscriber : Option ConnHandle}

/-- The subscriber is the peer on the link. -/
theorem subscriber_eq (h : s.Serves subscriber) {link : Link} (hlink : link ∈ s.links)
    {p : ConnHandle} (hp : subscriber = some p) : p = link.handle := by
  rcases h.live p hp with ⟨l, hl, rfl⟩
  rw [h.single.unique hl hlink]

/-- Without the peer on the link there is no subscriber. -/
theorem withoutPeer_eq (h : s.Serves subscriber) {link : Link} (hlink : link ∈ s.links) :
    withoutPeer link.handle subscriber = none := by
  cases hsub : subscriber with
  | none => rfl
  | some p =>
      rw [h.subscriber_eq hlink hsub]
      simp [withoutPeer]

/-- A step that changes nothing the service is about. -/
theorem of_same (h : s.Serves subscriber) (hsingle : SingleLink s') (hlinks : s'.links = s.links)
    (hchannel : s'.channel = s.channel) (hnotifier : s'.notifier = s.notifier)
    (hcfg : s'.blinky.charCfg = s.blinky.charCfg) : s'.Serves subscriber := by
  have hpeer := Peripheral.notifiedPeer_of_same hnotifier hcfg
  refine ⟨hsingle, ?_, ?_⟩
  · rw [hlinks]
    exact h.live
  · cases h.settles with
    | drained hqueue hsettled =>
        refine .drained ?_ (hpeer.trans hsettled)
        rw [hchannel]
        exact hqueue
    | @awaiting m hqueue hawaits =>
        refine .awaiting (m := m) ?_ ?_
        · rw [hchannel]
          exact hqueue
        · unfold Peripheral.Awaits Peripheral.entry at hawaits ⊢
          rw [hpeer, hnotifier, hcfg]
          exact hawaits

/-- Taking an event settles the queue, if the task leaves the subscriber to be notified. -/
theorem received (h : s.Serves subscriber) (hsingle : SingleLink s') (hlinks : s'.links = s.links)
    {m : Message} {channel : BoundedFifo Message appChannelCapacity}
    (hreceive : s.channel.receive? = some (m, channel)) (hchannel : s'.channel = channel)
    (hpeer : s.Awaits subscriber m.event → s'.notifiedPeer = subscriber) :
    s'.Serves subscriber := by
  rcases h.settles.received hreceive with ⟨hempty, hawaits⟩
  refine ⟨hsingle, ?_, .drained ?_ (hpeer hawaits)⟩
  · rw [hlinks]
    exact h.live
  · rw [hchannel]
    exact hempty

/-- An event offered to the empty queue settles it, if what the event awaits holds. -/
theorem offered (hempty : s.channel.items = []) (hsingle : SingleLink s') {m : Message}
    (hchannel : s'.channel = s.channel.offer m)
    (hlive : ∀ h, subscriber = some h → ∃ l ∈ s'.links, l.handle = h)
    (hawaits : s'.Awaits subscriber m.event) : s'.Serves subscriber := by
  refine ⟨hsingle, hlive, .awaiting (m := m) ?_ hawaits⟩
  rw [hchannel]
  exact offer_drained hempty m

/-- A new link announces itself. -/
theorem established (h : s.Serves subscriber) (hempty : s.channel.items = [])
    (hsingle : SingleLink s') {link : Link} (hlinks : s'.links = s.links ++ [link])
    {c : ConnHandle} {origin : Option Nat}
    (hchannel : s'.channel = s.channel.offer ⟨.connected c, origin⟩)
    (hnotifier : s'.notifier = s.notifier) (hcfg : s'.blinky.charCfg = s.blinky.charCfg) :
    s'.Serves subscriber := by
  refine offered hempty hsingle hchannel ?_ ?_
  · intro p hp
    rcases h.live p hp with ⟨l, hl, hhandle⟩
    refine ⟨l, ?_, hhandle⟩
    rw [hlinks]
    exact List.mem_append_left _ hl
  · exact (Peripheral.notifiedPeer_of_same hnotifier hcfg).trans (h.settles.peer hempty)

/-- When the link is lost there is no subscriber, and only its peer may still be notified. -/
theorem lost (h : s.Serves subscriber) (hempty : s.channel.items = []) (hsingle : SingleLink s')
    {link : Link} (hlink : link ∈ s.links) {origin : Option Nat}
    (hchannel : s'.channel = s.channel.offer ⟨.disconnected link.handle, origin⟩)
    (hnotifier : s'.notifier = s.notifier) (hcfg : s'.blinky.charCfg = s.blinky.charCfg) :
    s'.Serves none := by
  refine offered hempty hsingle hchannel ?_ ⟨rfl, ?_⟩
  · rintro p ⟨⟩
  · intro p hp
    rw [Peripheral.notifiedPeer_of_same hnotifier hcfg, h.settles.peer hempty] at hp
    exact h.subscriber_eq hlink hp

/-- A peer that enables notifications while no task runs is the subscriber. -/
theorem subscribed (hempty : s.channel.items = []) (hsingle : SingleLink s')
    (hlinks : s'.links = s.links) {link : Link} (hlink : link ∈ s.links) {origin : Option Nat}
    (hchannel : s'.channel = s.channel.offer ⟨.blinkySubscribed link.handle, origin⟩)
    (hidle : s'.notifier = none) (hentry : s'.entry .blinky link.handle = 1) :
    s'.Serves (some link.handle) := by
  refine offered hempty hsingle hchannel ?_ ⟨hidle, hentry, rfl⟩
  intro p hp
  refine ⟨link, ?_, Option.some.inj hp⟩
  rw [hlinks]
  exact hlink

/-- When the peer disables notifications there is no subscriber and no next notification. -/
theorem unsubscribed (h : s.Serves subscriber) (hempty : s.channel.items = [])
    (hsingle : SingleLink s') {link : Link} (hlink : link ∈ s.links) {origin : Option Nat}
    (hchannel : s'.channel = s.channel.offer ⟨.blinkyUnsubscribed link.handle, origin⟩)
    (hnotifier : s'.notifier = s.notifier) (hentry : s'.entry .blinky link.handle ≠ 1)
    (hother : ∀ p, p ≠ link.handle → s'.entry .blinky p = s.entry .blinky p) :
    s'.Serves none := by
  refine offered hempty hsingle hchannel ?_ ⟨?_, rfl⟩
  · rintro p ⟨⟩
  · rw [Option.eq_none_iff_forall_ne_some]
    intro p hp
    rcases Peripheral.notifiedPeer_eq_some_iff.mp hp with ⟨hrunning, hset⟩
    by_cases hne : p = link.handle
    · rw [hne] at hset
      exact hentry hset
    · have hbefore : s.notifiedPeer = some p :=
        Peripheral.notifiedPeer_eq_some_iff.mpr
          ⟨hnotifier.symm.trans hrunning, (hother p hne).symm.trans hset⟩
      rw [h.settles.peer hempty] at hbefore
      exact hne (h.subscriber_eq hlink hbefore)

end Peripheral.Serves

/-! ## Steps -/

/-- The service answers the events of a step by what is seen of it. -/
def Answered (subscriber subscriber' : Option ConnHandle) (t : Step G A) : Prop :=
  ∃ answer, notificationService.exec subscriber (serviceEvents t) = some (answer, subscriber') ∧
    outputsOf answer = t.outputs.filterMap notifiedHandle?

/-- A step that stands for no event and notifies nobody. -/
theorem Answered.quiet {subscriber : Option ConnHandle} {t : Step G A}
    (hevents : serviceEvents t = []) (hseen : t.outputs.filterMap notifiedHandle? = []) :
    Answered subscriber subscriber t := by
  refine ⟨[], ?_, hseen.symm⟩
  rw [hevents]
  rfl

/-- A step that stands for one event. -/
theorem Answered.single {subscriber : Option ConnHandle} {t : Step G A} {event : ServiceEvent}
    (hevents : serviceEvents t = [event])
    (hseen : t.outputs.filterMap notifiedHandle? = (serveEvent subscriber event).2) :
    Answered subscriber (serveEvent subscriber event).1 t := by
  refine ⟨[⟨subscriber, event, (serveEvent subscriber event).2, (serveEvent subscriber event).1⟩],
    ?_, ?_⟩
  · rw [hevents]
    rfl
  · rw [hseen]
    simp

/-- The state callback stands for no configuration and notifies nobody. -/
theorem filterMap_gap (origin : Option Nat) (out : List GapOutput) :
    (out.map (Peripheral.obsOfGap origin)).filterMap configuredEvent = [] ∧
      (out.map (Peripheral.obsOfGap origin)).filterMap notifiedHandle? = [] := by
  constructor
  · apply List.filterMap_eq_nil_iff.mpr
    intro o ho
    rcases Peripheral.mem_obsOfGap ho with rfl | ⟨m, rfl⟩
    · rfl
    · rfl
  · apply List.filterMap_eq_nil_iff.mpr
    intro o ho
    rcases Peripheral.mem_obsOfGap ho with rfl | ⟨m, rfl⟩
    · rfl
    · rfl

/-- Two bytes other than those of a subscription are another value. -/
theorem cccValue_ne_one {req : WriteRequest} (hlen : req.len = 2)
    (hpayload : req.payload ≠ [0x01, 0x00]) : req.cccValue ≠ 1 := by
  intro hone
  apply hpayload
  have hlow := u16FromLeBytes_low (req.value 0) (req.value 1)
  have hhigh := u16FromLeBytes_high (req.value 0) (req.value 1)
  rw [WriteRequest.cccValue] at hone
  rw [hone] at hlow hhigh
  rw [WriteRequest.payload, hlen]
  change [req.value 0, req.value 1] = [0x01, 0x00]
  rw [← hlow, ← hhigh]
  rfl

/-- An action that handles no event finds an empty queue. -/
theorem Orderly.empty {s : Peripheral G A} {a : Action} (h : Orderly s a)
    (hhandles : handlesEvent a = false) : s.channel.items = [] := by
  rcases h.unhurried with ha | hempty
  · rw [hhandles] at ha
    cases ha
  · exact hempty

/-- A call of the state callback after a change of the links. -/
theorem Peripheral.Serves.callback {s : Peripheral G A} {subscriber : Option ConnHandle}
    (hI : s.Serves subscriber) {a : Action} (horderly : Orderly s a) {n : Notification}
    {origin : Option Nat} {links : List Link} {nextLink : Nat} {gap : GapState G}
    {out : List GapOutput} {s' : Peripheral G A}
    (hs' : s' = { s with
      links := links
      nextLink := nextLink
      gap := gap
      channel := Peripheral.sendAll origin (sentEvents out) s.channel })
    (hlinks : LinkChange s a n origin links nextLink) (hgap : GapStep s.gap n gap out)
    (hsingle : SingleLink s') :
    ∃ subscriber', Answered subscriber subscriber'
        ⟨s, a, out.map (Peripheral.obsOfGap origin), s'⟩ ∧ s'.Serves subscriber' := by
  rcases hI.single.callback horderly.oneLink hlinks hgap with ⟨hsent, -⟩
  rcases filterMap_gap origin out with ⟨hconfigured, hnotified⟩
  cases hlinks with
  | @established c hvalid hfree =>
      refine ⟨subscriber, .quiet ?_ hnotified, ?_⟩
      · simp [serviceEvents, surroundingEvent, hconfigured]
      · have hchannel : s'.channel = s.channel.offer ⟨.connected c, some s.nextLink⟩ := by
          rw [hs', hsent]
          rfl
        exact hI.established (horderly.empty rfl) hsingle (by rw [hs']) hchannel (by rw [hs'])
          (by rw [hs'])
  | @lost c n link hlink hquiet =>
      rcases Peripheral.linkOn_eq_some hlink with ⟨hlive, hhandle⟩
      have hanswered : Answered subscriber (serveEvent subscriber (.left c)).1
          ⟨s, .linkLost c n, out.map (Peripheral.obsOfGap (some link.id)), s'⟩ := by
        refine .single ?_ hnotified
        simp [serviceEvents, surroundingEvent, hconfigured]
      have hnone : (serveEvent subscriber (.left c)).1 = none := by
        rw [← hhandle]
        exact hI.withoutPeer_eq hlive
      rw [hnone] at hanswered
      refine ⟨none, hanswered, ?_⟩
      have hchannel : s'.channel = s.channel.offer ⟨.disconnected link.handle, some link.id⟩ := by
        rw [hs', hsent, hhandle]
        rfl
      exact hI.lost (horderly.empty rfl) hsingle hlive hchannel (by rw [hs']) (by rw [hs'])
  | @unchanged n hquiet =>
      refine ⟨subscriber, .quiet ?_ hnotified, ?_⟩
      · simp [serviceEvents, surroundingEvent, hconfigured]
      · have hchannel : s'.channel = s.channel := by
          rw [hs', hsent]
          rfl
        exact hI.of_same hsingle (by rw [hs']) hchannel (by rw [hs']) (by rw [hs'])

/-- An accepted configuration write. -/
theorem Peripheral.Serves.configured (hA : A.Lawful) (hlength : A.ChecksLength)
    {s : Peripheral G A} {subscriber : Option ConnHandle} (hI : s.Serves subscriber)
    {req : WriteRequest} (horderly : Orderly s (.blinkyWrite req)) {link : Link}
    (hlink : s.linkOn req.connHandle = some link) {charCfg : A.Table}
    (hwrite : A.processCccWriteReq req.connHandle req.value req.len req.offset
      gattClientCfgNotify s.blinky.charCfg = .ok charCfg)
    (hccc : blinkyCccWrite req s.blinky = some charCfg) {s' : Peripheral G A}
    (hs' : s' = { s with
      blinky := { s.blinky with charCfg := charCfg }
      channel := s.channel.offer ⟨subscriptionEvent req, some link.id⟩ })
    (hsingle : SingleLink s') :
    ∃ subscriber', Answered subscriber subscriber'
        ⟨s, .blinkyWrite req, [.cccWritten .blinky link req.cccValue,
          .attempted ⟨subscriptionEvent req, some link.id⟩], s'⟩ ∧ s'.Serves subscriber' := by
  rcases Peripheral.linkOn_eq_some hlink with ⟨hlive, hhandle⟩
  have hempty := horderly.empty rfl
  have hentry : s'.entry .blinky link.handle = req.cccValue := by
    rw [hs', hhandle]
    exact hA.write_self hwrite
  have hother : ∀ p, p ≠ link.handle → s'.entry .blinky p = s.entry .blinky p := by
    intro p hp
    rw [hhandle] at hp
    rw [hs']
    exact hA.write_other hwrite hp
  have hanswered : Answered subscriber
      (serveEvent subscriber (.configured link.handle (req.cccValue = 1))).1
      ⟨s, .blinkyWrite req, [.cccWritten .blinky link req.cccValue,
        .attempted ⟨subscriptionEvent req, some link.id⟩], s'⟩ := by
    refine .single rfl ?_
    cases decide (req.cccValue = 1) <;> rfl
  by_cases hpayload : req.payload = [0x01, 0x00]
  · have hvalue := cccValue_of_payload hpayload
    have hevent : subscriptionEvent req = .blinkySubscribed link.handle := by
      rw [subscriptionEvent, if_pos hpayload, hhandle]
    have hidle : s.notifier = none := by
      apply Peripheral.notifier_of_idle
      apply horderly.subscribesIdle
      refine ⟨by rw [hccc]; rfl, by rw [hevent]; rfl, ?_⟩
      rw [Peripheral.HasRoom, hempty]
      decide
    have hsome : (serveEvent subscriber (.configured link.handle (req.cccValue = 1))).1 =
        some link.handle := by
      rw [decide_eq_true hvalue]
      rfl
    rw [hsome] at hanswered
    rw [hvalue] at hentry
    refine ⟨some link.handle, hanswered, ?_⟩
    have hchannel : s'.channel = s.channel.offer ⟨.blinkySubscribed link.handle, some link.id⟩ := by
      rw [hs', hevent]
    exact Peripheral.Serves.subscribed hempty hsingle (by rw [hs']) hlive hchannel
      (by rw [hs', hidle]) hentry
  · have hvalue := cccValue_ne_one (hlength hwrite) hpayload
    have hevent : subscriptionEvent req = .blinkyUnsubscribed link.handle := by
      rw [subscriptionEvent, if_neg hpayload, hhandle]
    have hnone : (serveEvent subscriber (.configured link.handle (req.cccValue = 1))).1 = none := by
      rw [decide_eq_false hvalue]
      exact hI.withoutPeer_eq hlive
    rw [hnone] at hanswered
    refine ⟨none, hanswered, ?_⟩
    have hchannel : s'.channel = s.channel.offer ⟨.blinkyUnsubscribed link.handle, some link.id⟩ := by
      rw [hs', hevent]
    exact hI.unsubscribed hempty hsingle hlive hchannel (by rw [hs'])
      (by rw [hentry]; exact hvalue) hother

/-- An orderly step does what the service does on the events it stands for. -/
theorem PeripheralStep.serves (hA : A.Lawful) (hlength : A.ChecksLength) {s s' : Peripheral G A}
    {a : Action} {out : List Obs} (h : PeripheralStep s a s' out)
    {subscriber : Option ConnHandle} (hI : s.Serves subscriber) (horderly : Orderly s a) :
    ∃ subscriber', Answered subscriber subscriber' ⟨s, a, out, s'⟩ ∧ s'.Serves subscriber' := by
  have hsingle := (hI.single.reports horderly.oneLink h).2
  cases h with
  | callback hlinks hgap => exact hI.callback horderly rfl hlinks hgap hsingle
  | callbackPanic hlinks hpanic =>
      rcases hI.single.callbackPanic hlinks hpanic with ⟨hsame, hevents⟩
      refine ⟨subscriber, .quiet ?_ rfl, hI.of_same hsingle hsame rfl rfl rfl⟩
      cases hlinks with
      | established hvalid hfree => cases hevents
      | lost hlink hquiet => cases hevents
      | unchanged hquiet => rfl
  | blinkyCcc hlink hwrite hccc =>
      exact hI.configured hA hlength horderly hlink hwrite hccc rfl hsingle
  | blinkyOther hcfg hccc =>
      exact ⟨subscriber, .quiet rfl rfl, hI.of_same hsingle rfl rfl rfl hcfg⟩
  | @ctsOther req times =>
      refine ⟨subscriber, .quiet ?_ ?_, hI⟩
      · simp [serviceEvents, surroundingEvent, configuredEvent]
      · simp [notifiedHandle?]
  | loopConnected hloop hreceive =>
      refine ⟨subscriber, .quiet rfl rfl, hI.received hsingle rfl hreceive rfl ?_⟩
      intro hpeer
      exact hpeer
  | @loopDisconnected c origin channel hloop hreceive =>
      refine ⟨subscriber, .quiet rfl rfl, hI.received hsingle rfl hreceive rfl ?_⟩
      rintro ⟨hnone, honly⟩
      rw [hnone, Option.eq_none_iff_forall_ne_some]
      intro p hp
      rcases Peripheral.notifiedPeer_eq_some_iff.mp hp with ⟨hrunning, hset⟩
      change A.readCharCfg p (A.initCharCfg c s.blinky.charCfg) = 1 at hset
      rcases hA.read_init c p s.blinky.charCfg with hzero | hsame
      · rw [hzero] at hset
        cases hset
      · have hpc : p = c := by
          apply honly
          exact Peripheral.notifiedPeer_eq_some_iff.mpr ⟨hrunning, hsame.symm.trans hset⟩
        rw [hpc, hA.read_init_self] at hset
        cases hset
  | loopSubscribed hloop hreceive hfree =>
      refine ⟨subscriber, .quiet rfl rfl, hI.received hsingle rfl hreceive rfl ?_⟩
      rintro ⟨-, hset, hsome⟩
      rw [hsome]
      exact Peripheral.notifiedPeer_eq_some_iff.mpr ⟨rfl, hset⟩
  | loopSubscribedPanic hloop hreceive hrunning =>
      refine ⟨subscriber, .quiet rfl rfl, hI.received hsingle rfl hreceive rfl ?_⟩
      rintro ⟨hidle, -, -⟩
      rw [hidle] at hrunning
      cases hrunning
  | loopUnsubscribed hloop hreceive =>
      refine ⟨subscriber, .quiet rfl rfl, hI.received hsingle rfl hreceive rfl ?_⟩
      rintro ⟨hpeer, hnone⟩
      rw [hnone]
      exact hpeer
  | tick hrunning =>
      refine ⟨(serveEvent subscriber .tick).1, .single ?_ ?_, hI⟩
      · simp [serviceEvents, surroundingEvent, configuredEvent]
      · rw [Peripheral.notified_tick _ hrunning, hI.settles.peer (horderly.empty rfl)]
        rfl
  | tickPanic hrunning hpanics => exact absurd hpanics (horderly.tickCopies _ hrunning)
  | @notifierStops c m channel hrunning hreceive hstops =>
      refine ⟨subscriber, .quiet rfl rfl, hI.received hsingle rfl hreceive rfl ?_⟩
      intro hawaits
      have hnone : subscriber = none := by
        cases hevent : m.event with
        | disconnected p =>
            rw [hevent] at hawaits
            exact hawaits.1
        | blinkyUnsubscribed p =>
            rw [hevent] at hawaits
            exact hawaits.2
        | _ =>
            rw [hevent] at hstops
            cases hstops
      rw [hnone]
      exact Peripheral.notifiedPeer_idle rfl
  | @notifierIgnores c m channel hrunning hreceive hignores =>
      refine ⟨subscriber, .quiet rfl rfl, hI.received hsingle rfl hreceive rfl ?_⟩
      intro hawaits
      cases hevent : m.event with
      | connected p =>
          rw [hevent] at hawaits
          exact hawaits
      | blinkySubscribed p =>
          rw [hevent] at hawaits
          rw [hawaits.1] at hrunning
          cases hrunning
      | _ =>
          rw [hevent] at hignores
          cases hignores
  | _ => exact ⟨subscriber, .quiet rfl rfl, hI.of_same hsingle rfl rfl rfl rfl⟩

/-- The firmware refines the service. -/
theorem firmware_refines_service (G : GapRole) (hA : A.Lawful) (hlength : A.ChecksLength) :
    Refines (peripheralMachine G A) notificationService Orderly Peripheral.Serves serviceEvents
      notifiedHandle? where
  init := by
    rintro s ⟨profile, store, dataHandle, rfl⟩
    refine ⟨none, rfl, singleLink_boot profile store dataHandle, ?_, .drained rfl rfl⟩
    rintro p ⟨⟩
  step := by
    intro s subscriber a s' out hI horderly hs
    rcases (Peripheral.step_sound hs).2.serves hA hlength hI horderly with
      ⟨subscriber', ⟨answer, hexec, hseen⟩, hI'⟩
    exact ⟨answer, subscriber', hexec, hseen, hI'⟩

/-- With one link at a time, surroundings that let the tasks drain the queue and no tick that
panics, every run of the firmware is a run of the notification service: the peers that are
notified are the ones the service notifies, and when the queue is empty the next tick
notifies the subscriber. -/
theorem notification_service_refined (hA : A.Lawful) (hlength : A.ChecksLength)
    {trace : List (Step G A)} {s : Peripheral G A} (hrun : (peripheralMachine G A).Run trace s)
    (horderly : ∀ t ∈ trace, Orderly t.pre t.action) :
    ∃ trace' subscriber, notificationService.Run trace' subscriber ∧
      trace'.map Transition.action = trace.flatMap serviceEvents ∧
      outputsOf trace' = (outputsOf trace).filterMap notifiedHandle? ∧
      (s.channel.items = [] → s.notifiedPeer = subscriber) := by
  rcases hrun.refine (firmware_refines_service G hA hlength) horderly with
    ⟨trace', subscriber, hrun', hactions, houtputs, hI⟩
  exact ⟨trace', subscriber, hrun', hactions, houtputs, hI.settles.peer⟩

/-- A client that is notified, leaves, and subscribes again over a new link once the task has
stopped. -/
def servedTwice : List Action :=
  [.linkEstablished 0, .loopReceive, .loopTimer true, .blinkyWrite (cccRequest 0 1),
    .loopReceive, .notifierTick ⟨some 0, 0, true⟩, .linkLost 0 ⟨.waiting, ⟨0x06, 0⟩⟩,
    .notifierReceive, .linkEstablished 1, .loopReceive, .blinkyWrite (cccRequest 1 1),
    .loopTimer true, .loopReceive, .notifierTick ⟨some 1, 0, true⟩]

theorem notification_service_refined_servedTwice :
    ∃ trace s, badge.Run trace s ∧ trace.map Transition.action = servedTwice ∧
      ∃ trace' subscriber, notificationService.Run trace' subscriber ∧
        trace'.map Transition.action = trace.flatMap serviceEvents ∧
        outputsOf trace' = [0, 1] ∧ s.notifiedPeer = subscriber := by
  have hcheck : ∃ result ∈ badge.exec badgeBoot servedTwice,
      (∀ t ∈ result.1, Orderly t.pre t.action) ∧
        (outputsOf result.1).filterMap notifiedHandle? = [0, 1] ∧
        result.2.channel.items = [] := by
    decide
  rcases hcheck with ⟨⟨trace, s⟩, hexec, horderly, hnotified, hempty⟩
  have hrun := exec_run badge_initial hexec
  rcases notification_service_refined slotTable_lawful slotTable_checksLength hrun horderly with
    ⟨trace', subscriber, hrun', hactions, houtputs, hpeer⟩
  exact ⟨trace, s, hrun, exec_actions hexec, trace', subscriber, hrun', hactions,
    houtputs.trans hnotified, hpeer hempty⟩

end PapajBadge
