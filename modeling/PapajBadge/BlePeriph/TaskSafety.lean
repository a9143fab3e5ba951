import PapajBadge.BlePeriph.LiveLinks

/-!
# The two unwrapped calls of the event loop

`peripheral()` unwraps the parameter update request, which the library rejects
for the handle of a dead link, and the spawn of the notification task, which has
a single slot.  Each section says what a step does to the messages that lead to
the call, derives an invariant of the runs that stay out of the bad window, and
shows a run that enters it.

Main results:

- Theorem `update_requests_live`: if no link is lost before its connect event has
  been dealt with, every update request is made for a live link.
- Theorem `spawns_succeed`: if a subscription is queued only while none is queued
  and the notification task is idle, every spawn succeeds.
-/

namespace PapajBadge

open TransitionSystem

variable {G : GapRole} {A : GattServApp}

/-! ## Messages that are not dealt with yet -/

/-- The message the loop has taken and is still handling. -/
def LoopPhase.taken : LoopPhase → List Message
  | .selecting => []
  | .connDelay h origin => [⟨.connected h, origin⟩]

/-- The messages whose handling is still to come: the one the loop holds and the
queued ones. -/
def Peripheral.unhandled (s : Peripheral G A) : List Message :=
  s.loop.taken ++ s.channel.items

/-- The loop holds a message only after taking it from the channel. -/
theorem PeripheralStep.taken_step {s s' : Peripheral G A} {a : Action} {out : List Obs}
    (h : PeripheralStep s a s' out) {m : Message} (hm : m ∈ s'.loop.taken) :
    m ∈ s.unhandled := by
  cases h with
  | @loopConnected c origin channel hloop hreceive =>
      apply List.mem_append_right
      rw [List.mem_singleton.mp hm]
      exact BoundedFifo.mem_of_receive? hreceive
  | updateAccepted hloop hlive => cases hm
  | _ => exact List.mem_append_left _ hm

/-- A message that a step leaves unhandled was unhandled before or is new. -/
theorem PeripheralStep.unhandled_step {s s' : Peripheral G A} {a : Action} {out : List Obs}
    (h : PeripheralStep s a s' out) {m : Message} (hm : m ∈ s'.unhandled) :
    m ∈ s.unhandled ∨ m ∈ attemptedMessages out := by
  rcases List.mem_append.mp hm with htaken | hqueued
  · exact Or.inl (h.taken_step htaken)
  · rcases h.queued_step hqueued with hold | hnew
    · exact Or.inl (List.mem_append_right _ hold)
    · exact Or.inr hnew

/-! ## Parameter update requests -/

/-- Every parameter update request of the step is made while the link announced by
the connect event at hand is live. -/
def UpdateRequestLive (t : Step G A) : Prop :=
  ∀ c, .connParamUpdateReq c ∈ t.outputs →
    ∃ l ∈ t.pre.links, l.handle = c ∧ t.pre.loop = .connDelay c (some l.id)

/-- The action ends the link that the event announced. -/
def endsLinkOf : Action → AppEvent → Bool
  | .linkLost h _, .connected c => c = h
  | _, _ => false

/-- No link is lost before its connect event has been dealt with. -/
def NoEarlyLoss (s : Peripheral G A) (a : Action) : Prop :=
  ∀ m ∈ s.unhandled, endsLinkOf a m.event = false

instance (s : Peripheral G A) (a : Action) : Decidable (NoEarlyLoss s a) :=
  inferInstanceAs (Decidable (∀ m ∈ s.unhandled, _))

/-- Every connect event that is not dealt with yet was sent for a live link. -/
def ConnectsLive (s : Peripheral G A) : Prop :=
  ∀ c origin, ⟨.connected c, origin⟩ ∈ s.unhandled →
    ∃ l ∈ s.links, l.handle = c ∧ origin = some l.id

theorem connectsLive_boot (profile : Profile) (store : G.Store) (dataHandle : UInt16) :
    ConnectsLive (Peripheral.boot profile store dataHandle : Peripheral G A) := by
  intro c origin hm
  cases hm

/-- A step that ends no link too early keeps the pending connects live. -/
theorem PeripheralStep.connectsLive {s s' : Peripheral G A} {a : Action} {out : List Obs}
    (h : PeripheralStep s a s' out) (hlive : ConnectsLive s) (hloss : NoEarlyLoss s a) :
    ConnectsLive s' := by
  intro c origin hm
  rcases h.unhandled_step hm with hold | hnew
  · rcases hlive c origin hold with ⟨l, hl, hhandle, horigin⟩
    rcases h.links_step hl with hstays | ⟨n, rfl⟩
    · exact ⟨l, hstays, hhandle, horigin⟩
    · have hends := hloss _ hold
      simp [endsLinkOf, hhandle] at hends
  · exact h.connect_sent hnew

/-- The request is made at the end of the `Connected` arm. -/
theorem PeripheralStep.request_made {s s' : Peripheral G A} {a : Action} {out : List Obs}
    (h : PeripheralStep s a s' out) {c : ConnHandle} (hreq : .connParamUpdateReq c ∈ out) :
    ∃ origin, s.loop = .connDelay c origin := by
  cases h with
  | @callback _ n origin links nextLink gap gapOut hlinks hgap =>
      rcases Peripheral.mem_obsOfGap hreq with heq | ⟨m, heq⟩
      · cases heq
      · cases heq
  | @updateAccepted c' origin hloop hlive =>
      have hc : c = c' := by simpa using hreq
      exact ⟨origin, by rw [hc, hloop]⟩
  | @updatePanic c' origin hloop =>
      have hc : c = c' := by simpa using hreq
      exact ⟨origin, by rw [hc, hloop]⟩
  | _ => simp at hreq

/-- With live pending connects, a request is made for a live link. -/
theorem PeripheralStep.updateRequestLive {s s' : Peripheral G A} {a : Action}
    {out : List Obs} (h : PeripheralStep s a s' out) (hlive : ConnectsLive s) :
    UpdateRequestLive ⟨s, a, out, s'⟩ := by
  intro c hreq
  rcases h.request_made hreq with ⟨origin, hloop⟩
  have hheld : ⟨.connected c, origin⟩ ∈ s.unhandled := by
    apply List.mem_append_left
    simp [hloop, LoopPhase.taken]
  rcases hlive c origin hheld with ⟨l, hl, hhandle, rfl⟩
  exact ⟨l, hl, hhandle, hloop⟩

/-- In a run that loses no link before its connect event has been dealt with, the
link that a parameter update request is made for is still the one the event
announced. -/
theorem update_requests_live {trace : List (Step G A)} {s : Peripheral G A}
    (hrun : (peripheralMachine G A).Run trace s)
    (hloss : ∀ t ∈ trace, NoEarlyLoss t.pre t.action) :
    ∀ t ∈ trace, UpdateRequestLive t := by
  refine Run.always ?_ ?_ ?_ hrun hloss (I := ConnectsLive)
  · rintro s ⟨profile, store, dataHandle, rfl⟩
    exact connectsLive_boot profile store dataHandle
  · intro s a s' out hlive hloss hs
    exact (Peripheral.step_sound hs).2.connectsLive hlive hloss
  · intro s a s' out hlive _ hs
    exact (Peripheral.step_sound hs).2.updateRequestLive hlive

/-- A link that outlives its connect event. -/
def lostAfterRequest : List Action :=
  [.linkEstablished 0, .loopReceive, .loopTimer true, .linkLost 0 ⟨.waiting, ⟨0x06, 0⟩⟩]

theorem update_requests_live_lostAfterRequest :
    ∃ trace s, badge.Run trace s ∧ trace.map Transition.action = lostAfterRequest ∧
      ∀ t ∈ trace, UpdateRequestLive t := by
  have hcheck : ∃ result ∈ badge.exec badgeBoot lostAfterRequest,
      ∀ t ∈ result.1, NoEarlyLoss t.pre t.action := by
    decide
  rcases hcheck with ⟨⟨trace, s⟩, hexec, hloss⟩
  have hrun := exec_run badge_initial hexec
  exact ⟨trace, s, hrun, exec_actions hexec, update_requests_live hrun hloss⟩

/-- A link that is lost while the loop waits for the timer. -/
def lostDuringDelay : List Action :=
  [.linkEstablished 0, .loopReceive, .linkLost 0 ⟨.waiting, ⟨0x06, 0⟩⟩, .loopTimer false]

/-- The request is made for the dead link, and its error is unwrapped. -/
theorem update_request_dead_lostDuringDelay :
    ∃ trace s, badge.Run trace s ∧ trace.map Transition.action = lostDuringDelay ∧
      s.panicked = true ∧ ¬∀ t ∈ trace, UpdateRequestLive t := by
  have hcheck : ∃ result ∈ badge.exec badgeBoot lostDuringDelay,
      result.2.panicked = true ∧
        ∃ t ∈ result.1, .connParamUpdateReq 0 ∈ t.outputs ∧ t.pre.links = [] := by
    decide
  rcases hcheck with ⟨⟨trace, s⟩, hexec, hpanicked, t, ht, hreq, hlinks⟩
  refine ⟨trace, s, exec_run badge_initial hexec, exec_actions hexec, hpanicked, ?_⟩
  intro hlive
  rcases hlive t ht 0 hreq with ⟨l, hl, -⟩
  rw [hlinks] at hl
  cases hl

/-! ## The slot of the notification task -/

/-- The spawn of the step, if any, finds the slot free and fills it. -/
def SpawnSucceeds (t : Step G A) : Prop :=
  ∀ c, .spawn c ∈ t.outputs →
    t.pre.notifier = none ∧ t.post.notifier = some c ∧ t.post.panicked = false

/-- The event asks for a notification task. -/
def isSubscribe : AppEvent → Bool
  | .blinkySubscribed _ => true
  | _ => false

/-- The queued events that ask for a notification task. -/
def queuedSubscribes (channel : BoundedFifo Message appChannelCapacity) : Nat :=
  channel.items.countP fun m => isSubscribe m.event

/-- The notification tasks that run or are asked for by a queued event. -/
def Peripheral.subscribers (s : Peripheral G A) : Nat :=
  s.notifier.toList.length + queuedSubscribes s.channel

/-- The action is an accepted subscription whose event finds a free slot. -/
def QueuesSubscribe (s : Peripheral G A) : Action → Prop
  | .blinkyWrite req =>
      (blinkyCccWrite req s.blinky).isSome = true ∧
        isSubscribe (subscriptionEvent req) = true ∧ s.HasRoom
  | _ => False

/-- A subscription is queued only while none is queued and the task is idle. -/
def SubscribesIdle (s : Peripheral G A) (a : Action) : Prop :=
  QueuesSubscribe s a → s.subscribers = 0

instance (s : Peripheral G A) : DecidablePred (QueuesSubscribe s) := fun a =>
  match a with
  | .blinkyWrite _ => inferInstanceAs (Decidable (_ ∧ _ ∧ _))
  | .linkEstablished _ | .linkLost _ _ | .gapNotify _ | .ctsWrite _ | .loopReceive
  | .loopTimer _ | .notifierTick _ | .notifierReceive => isFalse not_false

instance (s : Peripheral G A) (a : Action) : Decidable (SubscribesIdle s a) :=
  inferInstanceAs (Decidable (_ → _))

/-- The state callback asks for no notification task. -/
theorem GapStep.no_subscribe {s s' : GapState G} {n : Notification} {out : List GapOutput}
    (h : GapStep s n s' out) : ∀ event ∈ sentEvents out, isSubscribe event = false := by
  intro event hevent
  cases h with
  | established hstate hop =>
      rw [List.mem_singleton.mp hevent]
      rfl
  | lost hstate hlast =>
      rw [List.mem_singleton.mp hevent]
      rfl
  | _ => cases hevent

/-- Offering a message adds it to the account when it asks for a task and finds a
free slot. -/
theorem queuedSubscribes_offer (channel : BoundedFifo Message appChannelCapacity) (m : Message) :
    queuedSubscribes (channel.offer m) =
      queuedSubscribes channel +
        if isSubscribe m.event = true ∧ channel.items.length < appChannelCapacity then 1
        else 0 := by
  unfold queuedSubscribes
  rw [BoundedFifo.offer_items, List.countP_append]
  by_cases hroom : channel.items.length < appChannelCapacity
  · by_cases hsub : isSubscribe m.event = true
    · simp [hroom, hsub]
    · simp [hroom, hsub]
  · simp [hroom]

/-- Offering messages that ask for no task leaves the account alone. -/
theorem queuedSubscribes_sendAll (origin : Option Nat) {events : List AppEvent}
    (hevents : ∀ event ∈ events, isSubscribe event = false)
    (channel : BoundedFifo Message appChannelCapacity) :
    queuedSubscribes (Peripheral.sendAll origin events channel) = queuedSubscribes channel := by
  induction events generalizing channel with
  | nil => rfl
  | cons event events ih =>
      rw [List.forall_mem_cons] at hevents
      have hoffer := queuedSubscribes_offer channel ⟨event, origin⟩
      rw [if_neg fun hboth => by simp [hevents.1] at hboth] at hoffer
      exact (ih hevents.2 _).trans hoffer

/-- Taking the head off the channel takes it off the account. -/
theorem queuedSubscribes_receive {channel channel' : BoundedFifo Message appChannelCapacity}
    {m : Message} (h : channel.receive? = some (m, channel')) :
    queuedSubscribes channel =
      queuedSubscribes channel' + if isSubscribe m.event = true then 1 else 0 := by
  rw [BoundedFifo.receive?_eq_some_iff] at h
  rw [queuedSubscribes, h, List.countP_cons]
  rfl

theorem queuedSubscribes_receive_subscribed
    {channel channel' : BoundedFifo Message appChannelCapacity} {c : ConnHandle}
    {origin : Option Nat} (h : channel.receive? = some (⟨.blinkySubscribed c, origin⟩, channel')) :
    queuedSubscribes channel = queuedSubscribes channel' + 1 := by
  simpa [isSubscribe] using queuedSubscribes_receive h

theorem queuedSubscribes_receive_le {channel channel' : BoundedFifo Message appChannelCapacity}
    {m : Message} (h : channel.receive? = some (m, channel')) :
    queuedSubscribes channel' ≤ queuedSubscribes channel := by
  have htaken := queuedSubscribes_receive h
  omega

/-- A step adds a subscriber only by queueing a subscription, and then one. -/
theorem PeripheralStep.subscribers_step {s s' : Peripheral G A} {a : Action} {out : List Obs}
    (h : PeripheralStep s a s' out) :
    s'.subscribers ≤ s.subscribers ∨
      QueuesSubscribe s a ∧ s'.subscribers = s.subscribers + 1 := by
  unfold Peripheral.subscribers
  cases h with
  | @callback _ n origin links nextLink gap gapOut hlinks hgap =>
      left
      rw [queuedSubscribes_sendAll origin hgap.no_subscribe]
  | @blinkyCcc req link charCfg hlink hwrite hccc =>
      have hoffer := queuedSubscribes_offer s.channel ⟨subscriptionEvent req, some link.id⟩
      dsimp only
      split_ifs at hoffer with hqueues
      · refine Or.inr ⟨⟨by simp [hccc], hqueues⟩, ?_⟩
        omega
      · left
        omega
  | loopConnected hloop hreceive =>
      exact Or.inl (Nat.add_le_add_left (queuedSubscribes_receive_le hreceive) _)
  | loopDisconnected hloop hreceive =>
      exact Or.inl (Nat.add_le_add_left (queuedSubscribes_receive_le hreceive) _)
  | loopSubscribed hloop hreceive hfree =>
      left
      have htaken := queuedSubscribes_receive_subscribed hreceive
      rw [hfree, htaken, Option.toList_some, Option.toList_none, List.length_singleton,
        List.length_nil, Nat.zero_add, Nat.add_comm]
  | loopSubscribedPanic hloop hreceive hrunning =>
      exact Or.inl (Nat.add_le_add_left (queuedSubscribes_receive_le hreceive) _)
  | loopUnsubscribed hloop hreceive =>
      exact Or.inl (Nat.add_le_add_left (queuedSubscribes_receive_le hreceive) _)
  | notifierStops hrunning hreceive hstops =>
      left
      rw [Option.toList_none]
      exact Nat.add_le_add (Nat.zero_le _) (queuedSubscribes_receive_le hreceive)
  | notifierIgnores hrunning hreceive hignores =>
      exact Or.inl (Nat.add_le_add_left (queuedSubscribes_receive_le hreceive) _)
  | _ => exact Or.inl (Nat.le_refl _)

/-- The spawn is made for the subscription at the head of the channel. -/
theorem PeripheralStep.spawn_made {s s' : Peripheral G A} {a : Action} {out : List Obs}
    (h : PeripheralStep s a s' out) {c : ConnHandle} (hspawn : .spawn c ∈ out) :
    0 < queuedSubscribes s.channel ∧
      (s.notifier = none → s'.notifier = some c ∧ s'.panicked = s.panicked) := by
  cases h with
  | @callback _ n origin links nextLink gap gapOut hlinks hgap =>
      rcases Peripheral.mem_obsOfGap hspawn with heq | ⟨m, heq⟩
      · cases heq
      · cases heq
  | @loopSubscribed c' origin channel hloop hreceive hfree =>
      have htaken := queuedSubscribes_receive_subscribed hreceive
      have hc : c = c' := by simpa using hspawn
      exact ⟨by omega, fun _ => ⟨by rw [hc], rfl⟩⟩
  | loopSubscribedPanic hloop hreceive hrunning =>
      have htaken := queuedSubscribes_receive_subscribed hreceive
      exact ⟨by omega, fun hfree => by simp [hfree] at hrunning⟩
  | _ => simp at hspawn

/-- With at most one subscriber, the spawn finds the slot free. -/
theorem PeripheralStep.spawnSucceeds {s s' : Peripheral G A} {a : Action} {out : List Obs}
    (h : PeripheralStep s a s' out) (hpanicked : s.panicked = false)
    (hone : s.subscribers ≤ 1) : SpawnSucceeds ⟨s, a, out, s'⟩ := by
  intro c hspawn
  rcases h.spawn_made hspawn with ⟨hqueued, hfills⟩
  have hfree : s.notifier = none := by
    apply Option.eq_none_iff_forall_ne_some.mpr
    intro running hrunning
    rw [Peripheral.subscribers, hrunning, Option.toList_some, List.length_singleton] at hone
    omega
  rcases hfills hfree with ⟨hstarted, hkept⟩
  exact ⟨hfree, hstarted, hkept.trans hpanicked⟩

/-- In a run that queues subscriptions only while none is queued and no task runs,
every spawn finds the slot free. -/
theorem spawns_succeed {trace : List (Step G A)} {s : Peripheral G A}
    (hrun : (peripheralMachine G A).Run trace s)
    (hidle : ∀ t ∈ trace, SubscribesIdle t.pre t.action) :
    ∀ t ∈ trace, SpawnSucceeds t := by
  refine Run.always ?_ ?_ ?_ hrun hidle (I := fun s => s.subscribers ≤ 1)
  · rintro s ⟨profile, store, dataHandle, rfl⟩
    exact Nat.zero_le 1
  · intro s a s' out hone hidle hs
    rcases (Peripheral.step_sound hs).2.subscribers_step with hfewer | ⟨hqueues, hmore⟩
    · exact hfewer.trans hone
    · have hzero := hidle hqueues
      omega
  · intro s a s' out hone _ hs
    have hstep := Peripheral.step_sound hs
    exact hstep.2.spawnSucceeds hstep.1 hone

/-- A client that subscribes, and subscribes again after the task has stopped. -/
def resubscribed : List Action :=
  [.linkEstablished 0, .loopReceive, .loopTimer true, .blinkyWrite (cccRequest 0 1),
    .loopReceive, .blinkyWrite (cccRequest 0 0), .notifierReceive,
    .blinkyWrite (cccRequest 0 1), .loopReceive]

theorem spawns_succeed_resubscribed :
    ∃ trace s, badge.Run trace s ∧ trace.map Transition.action = resubscribed ∧
      ∀ t ∈ trace, SpawnSucceeds t := by
  have hcheck : ∃ result ∈ badge.exec badgeBoot resubscribed,
      ∀ t ∈ result.1, SubscribesIdle t.pre t.action := by
    decide
  rcases hcheck with ⟨⟨trace, s⟩, hexec, hidle⟩
  have hrun := exec_run badge_initial hexec
  exact ⟨trace, s, hrun, exec_actions hexec, spawns_succeed hrun hidle⟩

/-- A client that subscribes twice in a row. -/
def subscribedTwice : List Action :=
  [.linkEstablished 0, .loopReceive, .loopTimer true, .blinkyWrite (cccRequest 0 1),
    .loopReceive, .blinkyWrite (cccRequest 0 1), .loopReceive]

/-- The second spawn fails while the first task runs, and its error is unwrapped. -/
theorem spawn_fails_subscribedTwice :
    ∃ trace s, badge.Run trace s ∧ trace.map Transition.action = subscribedTwice ∧
      s.panicked = true ∧ ¬∀ t ∈ trace, SpawnSucceeds t := by
  have hcheck : ∃ result ∈ badge.exec badgeBoot subscribedTwice,
      result.2.panicked = true ∧
        ∃ t ∈ result.1, .spawn 0 ∈ t.outputs ∧ t.pre.notifier = some 0 := by
    decide
  rcases hcheck with ⟨⟨trace, s⟩, hexec, hpanicked, t, ht, hspawn, hrunning⟩
  refine ⟨trace, s, exec_run badge_initial hexec, exec_actions hexec, hpanicked, ?_⟩
  intro hsucceed
  have hfree := (hsucceed t ht 0 hspawn).1
  rw [hrunning] at hfree
  cases hfree

end PapajBadge
