import PapajBadge.BlePeriph.Subscriptions
import PapajBadge.Foundation.RunRefinement

/-!
# Quiescence

What happens when the callbacks fall silent and only the two tasks are scheduled.  Every
step of a task but a tick handles an event or finishes the one at hand, so the tasks come
to rest, apart from the ticks, after a bounded number of such steps, in whatever order they
are scheduled and however often the ticker fires in between.

Main results:

- Theorem `tasks_quiesce`: besides ticks at most seven steps are left, they deliver the
  queued events in order, and no event is left to handle exactly when all are handled or
  the device has panicked.
- Theorem `drained_entries_clear`: without subscribers, a drained queue leaves no
  configuration of a handle whose disconnect was queued.
-/

namespace PapajBadge

open TransitionSystem

variable {G : GapRole} {A : GattServApp}

/-- An action of one of the tasks. -/
def isTaskAction : Action → Bool
  | .loopReceive => true
  | .loopTimer _ => true
  | .notifierTick _ => true
  | .notifierReceive => true
  | _ => false

/-- An action by which a task takes an event or finishes the one at hand: any but a tick. -/
def handlesEvent : Action → Bool
  | .loopReceive => true
  | .loopTimer _ => true
  | .notifierReceive => true
  | _ => false

/-! ## The work that is left -/

/-- The work that is left to the tasks: two units for each queued event, and one for the
event the loop has taken and not yet dealt with. -/
def Peripheral.pendingWork (s : Peripheral G A) : Nat :=
  if s.panicked then 0 else 2 * s.channel.items.length + s.loop.taken.length

theorem Peripheral.pendingWork_running {s : Peripheral G A} (hpanicked : s.panicked = false) :
    s.pendingWork = 2 * s.channel.items.length + s.loop.taken.length := by
  simp [Peripheral.pendingWork, hpanicked]

theorem Peripheral.pendingWork_panicked {s : Peripheral G A} (hpanicked : s.panicked = true) :
    s.pendingWork = 0 := by
  simp [Peripheral.pendingWork, hpanicked]

/-- The loop holds at most one event. -/
theorem LoopPhase.taken_length_le (phase : LoopPhase) : phase.taken.length ≤ 1 := by
  cases phase with
  | selecting => exact Nat.zero_le 1
  | connDelay h origin => exact Nat.le_refl 1

/-- With three slots, no more than seven units are ever left. -/
theorem Peripheral.pendingWork_le (s : Peripheral G A) : s.pendingWork ≤ 7 := by
  have hqueued := s.channel.bounded
  have htaken := s.loop.taken_length_le
  have hcapacity : appChannelCapacity = 3 := rfl
  unfold Peripheral.pendingWork
  split_ifs
  · omega
  · omega

/-- Taking an event off the channel and holding on to at most that one is progress. -/
theorem pendingWork_receive {s s' : Peripheral G A} (hpanicked : s.panicked = false)
    {m : Message} {channel : BoundedFifo Message appChannelCapacity}
    (hreceive : s.channel.receive? = some (m, channel)) (hchannel : s'.channel = channel)
    (htaken : s'.loop.taken.length ≤ s.loop.taken.length + 1) :
    s'.pendingWork < s.pendingWork := by
  have hitems := (BoundedFifo.receive?_eq_some_iff _ _ _).mp hreceive
  rw [Peripheral.pendingWork_running hpanicked, hitems, List.length_cons]
  unfold Peripheral.pendingWork
  rw [hchannel]
  split_ifs
  · omega
  · omega

/-- Every step that handles an event makes progress. -/
theorem PeripheralStep.pendingWork_lt {s s' : Peripheral G A} {a : Action} {out : List Obs}
    (h : PeripheralStep s a s' out) (hpanicked : s.panicked = false)
    (htask : handlesEvent a = true) : s'.pendingWork < s.pendingWork := by
  cases h with
  | callback hlinks hgap =>
      cases hlinks <;> cases htask
  | callbackPanic hlinks hpanic =>
      cases hlinks <;> cases htask
  | blinkyCcc hlink hwrite hccc => cases htask
  | blinkyOther hcfg hccc => cases htask
  | ctsCcc hlink hwrite => cases htask
  | ctsOther => cases htask
  | tick hrunning => cases htask
  | tickPanic hrunning hpanics => cases htask
  | loopConnected hloop hreceive =>
      exact pendingWork_receive hpanicked hreceive rfl (by simp [LoopPhase.taken, hloop])
  | loopDisconnected hloop hreceive =>
      exact pendingWork_receive hpanicked hreceive rfl (Nat.le_succ _)
  | loopSubscribed hloop hreceive hfree =>
      exact pendingWork_receive hpanicked hreceive rfl (Nat.le_succ _)
  | loopSubscribedPanic hloop hreceive hrunning =>
      exact pendingWork_receive hpanicked hreceive rfl (Nat.le_succ _)
  | loopUnsubscribed hloop hreceive =>
      exact pendingWork_receive hpanicked hreceive rfl (Nat.le_succ _)
  | notifierStops hrunning hreceive hstops =>
      exact pendingWork_receive hpanicked hreceive rfl (Nat.le_succ _)
  | notifierIgnores hrunning hreceive hignores =>
      exact pendingWork_receive hpanicked hreceive rfl (Nat.le_succ _)
  | updateAccepted hloop hlive =>
      rw [Peripheral.pendingWork_running hpanicked, hloop]
      rw [Peripheral.pendingWork_running (by exact hpanicked)]
      simp [LoopPhase.taken]
  | updatePanic hloop =>
      rw [Peripheral.pendingWork_running hpanicked, hloop, Peripheral.pendingWork_panicked rfl]
      simp [LoopPhase.taken]

/-- A tick leaves the work as it is, or ends it with a panic. -/
theorem PeripheralStep.pendingWork_tick {s s' : Peripheral G A} {a : Action} {out : List Obs}
    (h : PeripheralStep s a s' out) (htask : isTaskAction a = true)
    (htick : handlesEvent a = false) : s'.pendingWork ≤ s.pendingWork := by
  cases h with
  | callback hlinks hgap =>
      cases hlinks <;> cases htask
  | callbackPanic hlinks hpanic =>
      cases hlinks <;> cases htask
  | blinkyCcc hlink hwrite hccc => cases htask
  | blinkyOther hcfg hccc => cases htask
  | ctsCcc hlink hwrite => cases htask
  | ctsOther => cases htask
  | tick hrunning => exact Nat.le_refl _
  | tickPanic hrunning hpanics =>
      rw [Peripheral.pendingWork_panicked rfl]
      exact Nat.zero_le _
  | _ => cases htick

/-! ## Coming to rest -/

/-- No task has an event to handle; only the ticker may still fire. -/
def Peripheral.AtRest (s : Peripheral G A) : Prop :=
  ∀ a, handlesEvent a = true → s.step a = none

/-- The tasks are at rest exactly after a panic or when every event is dealt with. -/
theorem Peripheral.atRest_iff (s : Peripheral G A) :
    s.AtRest ↔ s.panicked = true ∨ (s.channel.items = [] ∧ s.loop = .selecting) := by
  constructor
  · intro hrest
    by_cases hpanicked : s.panicked = true
    · exact Or.inl hpanicked
    · right
      cases hloop : s.loop with
      | connDelay c origin =>
          have htimer := hrest (.loopTimer false) rfl
          simp [Peripheral.step, hpanicked, hloop] at htimer
      | selecting =>
          refine ⟨?_, rfl⟩
          have hloopRest := hrest .loopReceive rfl
          rw [← BoundedFifo.receive?_eq_none_iff]
          cases hreceive : s.channel.receive? with
          | none => rfl
          | some next => simp [Peripheral.step, hpanicked, hloop, hreceive] at hloopRest
  · rintro (hpanicked | ⟨hempty, hloop⟩) a htask
    · simp [Peripheral.step, hpanicked]
    · have hreceive := (BoundedFifo.receive?_eq_none_iff s.channel).mpr hempty
      cases a with
      | loopReceive => simp [Peripheral.step, hloop, hreceive]
      | loopTimer updateOk => simp [Peripheral.step, hloop]
      | notifierReceive =>
          cases hrunning : s.notifier with
          | none => simp [Peripheral.step, hrunning]
          | some c => simp [Peripheral.step, hrunning, hreceive]
      | _ => cases htask

/-- The tasks offer no event. -/
theorem PeripheralStep.attempted_task {s s' : Peripheral G A} {a : Action} {out : List Obs}
    (h : PeripheralStep s a s' out) (htask : isTaskAction a = true) :
    attemptedMessages out = [] := by
  cases h with
  | callback hlinks hgap =>
      cases hlinks <;> cases htask
  | blinkyCcc hlink hwrite hccc => cases htask
  | ctsOther => cases htask
  | tick hrunning => simp [attemptedMessages]
  | _ => rfl

/-- The tasks receive the queued events in order. -/
theorem received_by_tasks {s last : Peripheral G A} {as : List Action}
    {trace : List (Step G A)}
    (hexec : (peripheralMachine G A).exec s as = some (trace, last))
    (htask : ∀ a ∈ as, isTaskAction a = true) :
    receivedMessages (outputsOf trace) ++ last.channel.items = s.channel.items := by
  induction as generalizing s trace with
  | nil =>
      simp only [exec_nil, Option.some.injEq, Prod.mk.injEq] at hexec
      rcases hexec with ⟨rfl, rfl⟩
      rfl
  | cons a as ih =>
      rcases exec_cons hexec with ⟨s', out, rest, hs, hrest, rfl⟩
      rw [List.forall_mem_cons] at htask
      have hstep := (Peripheral.step_sound hs).2
      have hquiet := hstep.attempted_task htask.1
      rw [outputsOf_cons, receivedMessages_append, List.append_assoc, ih hrest htask.2]
      cases hstep.channel_step with
      | offered m hattempted hreceived hafter =>
          rw [hquiet] at hattempted
          cases hattempted
      | taken m hattempted hreceived hafter =>
          rw [hreceived, (BoundedFifo.receive?_eq_some_iff _ _ _).mp hafter, List.singleton_append]
      | untouched hattempted hreceived hafter => rw [hreceived, hafter, List.nil_append]

/-- A client that subscribes before the loop has looked at its connect event. -/
def subscribedEarly : List Action :=
  [.linkEstablished 0, .blinkyWrite (cccRequest 0 1)]

/-- The tasks deal with both events, and the ticker fires. -/
def dealtWith : List Action :=
  [.loopReceive, .loopTimer true, .loopReceive, .notifierTick tickAccepted]

/-- No task action queues a subscription. -/
theorem not_queuesSubscribe_task (s : Peripheral G A) {a : Action}
    (htask : isTaskAction a = true) : ¬QueuesSubscribe s a := by
  intro hqueues
  cases a with
  | blinkyWrite req => cases htask
  | _ => exact hqueues

/-- Without subscribers, none of the tasks' actions adds one. -/
theorem PeripheralStep.subscribers_task {s s' : Peripheral G A} {a : Action} {out : List Obs}
    (h : PeripheralStep s a s' out) (htask : isTaskAction a = true)
    (hidle : s.subscribers = 0) : s'.subscribers = 0 := by
  rcases h.subscribers_step with hfewer | ⟨hqueues, -⟩
  · omega
  · exact absurd hqueues (not_queuesSubscribe_task s htask)

/-- Without subscribers the notification task does not run. -/
theorem Peripheral.notifier_of_idle {s : Peripheral G A} (hidle : s.subscribers = 0) :
    s.notifier = none := by
  unfold Peripheral.subscribers at hidle
  cases hrunning : s.notifier with
  | none => rfl
  | some c => simp [hrunning] at hidle

/-- The blinky entry of the handle is clear, or the loop will clear it. -/
def Peripheral.WillClear (c : ConnHandle) (s : Peripheral G A) : Prop :=
  s.entry .blinky c = 0 ∨ ∃ origin, ⟨.disconnected c, origin⟩ ∈ s.channel.items

/-- A receive of another event keeps the disconnect queued. -/
theorem Peripheral.WillClear.receive {c : ConnHandle} {s s' : Peripheral G A}
    (h : s.WillClear c) {m : Message} {channel : BoundedFifo Message appChannelCapacity}
    (hreceive : s.channel.receive? = some (m, channel)) (hne : m.event ≠ .disconnected c)
    (hchannel : s'.channel = channel) (hcfg : s'.blinky.charCfg = s.blinky.charCfg) :
    s'.WillClear c := by
  rcases h with hclear | ⟨origin, hqueued⟩
  · left
    rw [Peripheral.entry, hcfg]
    exact hclear
  · right
    refine ⟨origin, ?_⟩
    rw [hchannel]
    apply BoundedFifo.mem_receive?_of_ne hreceive hqueued
    intro heq
    exact hne (by rw [← heq])

/-- Resetting a handle clears its entry. -/
theorem GattServApp.Lawful.read_init_self (hA : A.Lawful) (c : ConnHandle) (t : A.Table) :
    A.readCharCfg c (A.initCharCfg c t) = 0 := by
  by_cases hc : c = invalidConnHandle
  · rw [hc]
    exact hA.init_all _ t
  · exact hA.init_self t hc

/-- Without subscribers, every step of the tasks clears the entry or leaves the
disconnect queued. -/
theorem PeripheralStep.willClear_task (hA : A.Lawful) {s s' : Peripheral G A} {a : Action}
    {out : List Obs} (h : PeripheralStep s a s' out) (htask : isTaskAction a = true)
    (hidle : s.subscribers = 0) {c : ConnHandle} (hclear : s.WillClear c) : s'.WillClear c := by
  have hstopped := Peripheral.notifier_of_idle hidle
  cases h with
  | callback hlinks hgap =>
      cases hlinks <;> cases htask
  | callbackPanic hlinks hpanic =>
      cases hlinks <;> cases htask
  | blinkyCcc hlink hwrite hccc => cases htask
  | blinkyOther hcfg hccc => cases htask
  | loopConnected hloop hreceive => exact hclear.receive hreceive (by simp) rfl rfl
  | loopSubscribed hloop hreceive hfree => exact hclear.receive hreceive (by simp) rfl rfl
  | loopSubscribedPanic hloop hreceive hrunning =>
      exact hclear.receive hreceive (by simp) rfl rfl
  | loopUnsubscribed hloop hreceive => exact hclear.receive hreceive (by simp) rfl rfl
  | @loopDisconnected c' origin channel hloop hreceive =>
      by_cases hc : c' = c
      · left
        rw [← hc]
        exact hA.read_init_self c' s.blinky.charCfg
      · rcases hclear with hzero | ⟨origin', hqueued⟩
        · left
          rcases hA.read_init c' c s.blinky.charCfg with hinit | hsame
          · exact hinit
          · exact hsame.trans hzero
        · right
          refine ⟨origin', BoundedFifo.mem_receive?_of_ne hreceive hqueued ?_⟩
          intro heq
          cases heq
          exact hc rfl
  | notifierStops hrunning hreceive hstops => simp [hstopped] at hrunning
  | notifierIgnores hrunning hreceive hignores => simp [hstopped] at hrunning
  | _ => exact hclear

/-- When no notification task runs and none is asked for, draining the queue leaves the
notification task idle and no configuration of a handle whose disconnect was queued. -/
theorem drained_entries_clear (hA : A.Lawful) {s last : Peripheral G A} {as : List Action}
    {trace : List (Step G A)}
    (hexec : (peripheralMachine G A).exec s as = some (trace, last))
    (htask : ∀ a ∈ as, isTaskAction a = true) (hidle : s.subscribers = 0)
    (hdrained : last.channel.items = []) :
    last.notifier = none ∧
      ∀ c origin, ⟨.disconnected c, origin⟩ ∈ s.channel.items → last.entry .blinky c = 0 := by
  have hlast : last.subscribers = 0 := by
    refine exec_preserves (I := fun s => s.subscribers = 0) ?_ hexec htask hidle
    intro s a s' out hidle htask hs
    exact (Peripheral.step_sound hs).2.subscribers_task htask hidle
  refine ⟨Peripheral.notifier_of_idle hlast, ?_⟩
  intro c origin hqueued
  have hkept : last.subscribers = 0 ∧ last.WillClear c := by
    refine exec_preserves (I := fun s => s.subscribers = 0 ∧ s.WillClear c) ?_ hexec htask
      ⟨hidle, Or.inr ⟨origin, hqueued⟩⟩
    rintro s a s' out ⟨hidle, hclear⟩ htask hs
    have hstep := (Peripheral.step_sound hs).2
    exact ⟨hstep.subscribers_task htask hidle, hstep.willClear_task hA htask hidle hclear⟩
  rcases hkept.2 with hzero | ⟨origin', hleft⟩
  · exact hzero
  · rw [hdrained] at hleft
    cases hleft

/-- A subscriber whose disconnect went to the notification task, and a client on the same
handle that leaves too. -/
def leftTwice : List Action :=
  [.linkEstablished 0, .loopReceive, .loopTimer true, .blinkyWrite (cccRequest 0 1),
    .loopReceive, .linkLost 0 ⟨.waiting, ⟨0x06, 0⟩⟩, .notifierReceive, .linkEstablished 0,
    .loopReceive, .loopTimer true, .linkLost 0 ⟨.waiting, ⟨0x06, 0⟩⟩]

theorem drained_entries_clear_leftTwice :
    ∃ before s trace last, badge.Run before s ∧ before.map Transition.action = leftTwice ∧
      badge.exec s [.loopReceive] = some (trace, last) ∧ s.entry .blinky 0 = 1 ∧
      last.notifier = none ∧ last.entry .blinky 0 = 0 := by
  have hcheck : ∃ result ∈ badge.exec badgeBoot leftTwice,
      ∃ tasks ∈ badge.exec result.2 [.loopReceive],
        result.2.entry .blinky 0 = 1 ∧ result.2.subscribers = 0 ∧
          ⟨.disconnected 0, some 1⟩ ∈ result.2.channel.items ∧ tasks.2.channel.items = [] := by
    decide
  rcases hcheck with
    ⟨⟨before, s⟩, hexec, ⟨trace, last⟩, htasks, hentry, hidle, hqueued, hdrained⟩
  rcases drained_entries_clear slotTable_lawful htasks (by decide) hidle hdrained with
    ⟨hstopped, hclear⟩
  exact ⟨before, s, trace, last, exec_run badge_initial hexec, exec_actions hexec, htasks, hentry,
    hstopped, hclear 0 (some 1) hqueued⟩

end PapajBadge
