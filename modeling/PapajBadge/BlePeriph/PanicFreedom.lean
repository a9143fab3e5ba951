import PapajBadge.BlePeriph.TaskSafety

/-!
# Panics of the peripheral

The program unwraps three results: the address lookup of the state callback, the
parameter update request, and the spawn of the notification task.  In the development
profile the notification task also panics when it copies to the null buffer.  This module
finds the steps at which one of the four happens, and the runs in which none does.

Main results:

- Theorem `panics_iff`: a run has panicked exactly when one of its steps, which is then
  its last, met a failing call.
- Theorem `never_panics`: no run panics in which links outlive their connect events,
  subscriptions come one at a time, and the library does what it is asked to and, in the
  development profile, finds a buffer for every notification.
-/

namespace PapajBadge

open TransitionSystem

variable {G : GapRole} {A : GattServApp}

/-! ## The calls that fail -/

/-- The state callback publishes the system id and the library has no address. -/
def AddressMissing (n : Notification) (s : GapState G) : Prop :=
  n.newState = .started ∧ s.lastState ≠ .connected ∧ G.getBdAddr s.store = none

/-- The state callback panics exactly when it needs an address the library lacks. -/
theorem onGapStateChange_eq_none_iff (n : Notification) (s : GapState G) :
    onGapStateChange n s = none ↔ AddressMissing n s := by
  have harm : onGapStateChange n s = none ↔ gapStateArm n s = none := by
    unfold onGapStateChange
    cases gapStateArm n s <;> simp
  rw [harm]
  unfold gapStateArm AddressMissing
  by_cases hstarted : n.newState = .started
  · rw [hstarted]
    by_cases hlast : s.lastState = .connected
    · simp [hlast]
    · cases haddr : G.getBdAddr s.store <;> simp [hlast, startedArm, haddr]
  · simp only [hstarted, if_false, false_and, iff_false]
    split_ifs <;> simp

/-- The step makes a call that panics: the address lookup, the parameter update request,
or the spawn while the task is running, whose failure is unwrapped, or the copy to the
null buffer where pointers are checked. -/
def PanicCause (s : Peripheral G A) : Action → Prop
  | .linkLost _ n => AddressMissing n s.gap
  | .gapNotify n => AddressMissing n s.gap
  | .loopTimer updateOk => updateOk = false
  | .loopReceive =>
      s.notifier ≠ none ∧ ∃ m ∈ s.channel.items.head?, isSubscribe m.event = true
  | .notifierTick env => ∃ c ∈ s.notifier, CopyPanics s.profile c env s.blinky
  | _ => False

/-- The state callback leaves a panic behind exactly when it panics. -/
theorem Peripheral.gapCallback_panicked {n : Notification} {origin : Option Nat}
    {s : Peripheral G A} (hpanicked : s.panicked = false) :
    (gapCallback n origin s).1.panicked = true ↔ AddressMissing n s.gap := by
  rw [← onGapStateChange_eq_none_iff]
  unfold gapCallback
  cases hgap : onGapStateChange n s.gap with
  | none => simp
  | some result => simp [hpanicked]

/-- A call of the state callback panics exactly when it needs an address the library
lacks. -/
theorem Peripheral.callback_panicked_iff {s s' : Peripheral G A} {n : Notification}
    {origin : Option Nat} {links : List Link} {nextLink : Nat} {out : List Obs}
    (hpanicked : s.panicked = false)
    (h : gapCallback n origin { s with links := links, nextLink := nextLink } = (s', out)) :
    s'.panicked = true ↔ AddressMissing n s.gap := by
  have hs' : s' = _ := (congrArg Prod.fst h).symm
  rw [hs']
  exact gapCallback_panicked hpanicked

/-- A step in which the environment calls the state callback. -/
theorem Peripheral.step_callback {s s' : Peripheral G A} {a : Action} {out : List Obs}
    (h : s.step a = some (s', out)) :
    (∃ c, a = .linkEstablished c ∧
      gapCallback ⟨.connected, ⟨gapLinkEstablishedEvent, c⟩⟩ (some s.nextLink)
        { s with links := s.links ++ [⟨c, s.nextLink⟩], nextLink := s.nextLink + 1 } =
          (s', out)) ∨
    (∃ (c : ConnHandle) (n : Notification) (link : Link), a = .linkLost c n ∧
      gapCallback n (some link.id)
        { s with links := s.links.filter fun l => l.handle ≠ c } = (s', out)) ∨
    (∃ n, a = .gapNotify n ∧ gapCallback n none s = (s', out)) ∨
    ∀ n origin links nextLink, ¬LinkChange s a n origin links nextLink := by
  unfold step at h
  split_ifs at h with hpanicked
  cases a with
  | linkEstablished c =>
      simp only at h
      split_ifs at h with hnew
      exact Or.inl ⟨c, rfl, Option.some.inj h⟩
  | linkLost c n =>
      simp only at h
      cases hlink : s.linkOn c with
      | none => simp [hlink] at h
      | some link =>
          simp only [hlink] at h
          split_ifs at h with hquiet
          exact Or.inr (Or.inl ⟨c, n, link, rfl, Option.some.inj h⟩)
  | gapNotify n =>
      simp only at h
      split_ifs at h with hquiet
      exact Or.inr (Or.inr (Or.inl ⟨n, rfl, Option.some.inj h⟩))
  | _ =>
      refine Or.inr (Or.inr (Or.inr ?_))
      intro n origin links nextLink hlinks
      cases hlinks

/-- A step panics exactly when one of these calls fails. -/
theorem Peripheral.step_panicked_iff {s s' : Peripheral G A} {a : Action} {out : List Obs}
    (h : s.step a = some (s', out)) : s'.panicked = true ↔ PanicCause s a := by
  rcases step_sound h with ⟨hpanicked, hstep⟩
  rcases step_callback h with ⟨c, rfl, hcall⟩ | ⟨c, n, link, rfl, hcall⟩ | ⟨n, rfl, hcall⟩ | hother
  · rw [callback_panicked_iff hpanicked hcall]
    simp [AddressMissing, PanicCause]
  · exact callback_panicked_iff hpanicked hcall
  · exact callback_panicked_iff hpanicked hcall
  · cases hstep with
    | callback hlinks hgap => exact absurd hlinks (hother _ _ _ _)
    | callbackPanic hlinks hpanic => exact absurd hlinks (hother _ _ _ _)
    | loopConnected hloop hreceive =>
        have hitems := (BoundedFifo.receive?_eq_some_iff _ _ _).mp hreceive
        simp [PanicCause, hitems, isSubscribe, hpanicked]
    | loopDisconnected hloop hreceive =>
        have hitems := (BoundedFifo.receive?_eq_some_iff _ _ _).mp hreceive
        simp [PanicCause, hitems, isSubscribe, hpanicked]
    | loopSubscribed hloop hreceive hfree =>
        have hitems := (BoundedFifo.receive?_eq_some_iff _ _ _).mp hreceive
        simp [PanicCause, hfree, hpanicked]
    | loopSubscribedPanic hloop hreceive hrunning =>
        have hitems := (BoundedFifo.receive?_eq_some_iff _ _ _).mp hreceive
        simp [PanicCause, hitems, isSubscribe, hrunning]
    | loopUnsubscribed hloop hreceive =>
        have hitems := (BoundedFifo.receive?_eq_some_iff _ _ _).mp hreceive
        simp [PanicCause, hitems, isSubscribe, hpanicked]
    | updatePanic hloop => simp [PanicCause]
    | tick hrunning hcopies => simp [PanicCause, hrunning, hcopies, hpanicked]
    | tickPanic hrunning hpanics => simp [PanicCause, hrunning, hpanics]
    | _ => simp [PanicCause, hpanicked]

/-! ## Runs that panic -/

/-- A run has panicked exactly when one of its steps met a failing call. -/
theorem panicked_iff_exists {trace : List (Step G A)} {s : Peripheral G A}
    (hrun : (peripheralMachine G A).Run trace s) :
    s.panicked = true ↔ ∃ t ∈ trace, PanicCause t.pre t.action := by
  induction hrun with
  | start hinit =>
      rcases hinit with ⟨profile, store, dataHandle, rfl⟩
      simp [Peripheral.boot]
  | @extend trace s a s' out _ hs ih =>
      have hearlier : ¬∃ t ∈ trace, PanicCause t.pre t.action := by
        rw [← ih, (Peripheral.step_sound hs).1]
        exact Bool.false_ne_true
      rw [Peripheral.step_panicked_iff hs]
      constructor
      · intro hcause
        exact ⟨⟨s, a, out, s'⟩, by simp, hcause⟩
      · rintro ⟨t, ht, hcause⟩
        rcases List.mem_append.mp ht with hold | hnew
        · exact absurd ⟨t, hold, hcause⟩ hearlier
        · rw [List.mem_singleton] at hnew
          rw [hnew] at hcause
          exact hcause

/-- In the development profile, a tick without a buffer panics. -/
example : ∃ result ∈ badge.exec (Peripheral.boot .dev (fun _ => 0) 0x2A)
    [.linkEstablished 0, .loopReceive, .loopTimer true, .blinkyWrite (cccRequest 0 1),
      .loopReceive, .notifierTick ⟨none, 0, false⟩], result.2.panicked = true := by
  decide

/-! ## Runs that do not panic -/

/-- The library refuses an update request only for a handle without a live link. -/
def RefusesOnlyDead (s : Peripheral G A) : Action → Prop
  | .loopTimer false =>
      match s.loop with
      | .selecting => True
      | .connDelay c _ => s.linkOn c = none
  | _ => True

instance (s : Peripheral G A) : DecidablePred (RefusesOnlyDead s) := fun a =>
  match a with
  | .loopTimer false =>
      match h : s.loop with
      | .selecting => .isTrue (by simp [RefusesOnlyDead, h])
      | .connDelay c _ => decidable_of_iff (s.linkOn c = none) (by simp [RefusesOnlyDead, h])
  | .loopTimer true | .linkEstablished _ | .linkLost _ _ | .gapNotify _ | .blinkyWrite _
  | .ctsWrite _ | .loopReceive | .notifierTick _ | .notifierReceive => .isTrue trivial

/-- What the surroundings must not do: end a link before its connect event has been
dealt with, queue a subscription on top of another one, refuse the request for a live
link, or leave a tick without a buffer where pointers are checked. -/
structure Considerate (s : Peripheral G A) (a : Action) : Prop where
  noEarlyLoss : NoEarlyLoss s a
  subscribesIdle : SubscribesIdle s a
  refusesOnlyDead : RefusesOnlyDead s a
  tickCopies : TickCopies s a

instance (s : Peripheral G A) (a : Action) : Decidable (Considerate s a) :=
  decidable_of_iff
    (NoEarlyLoss s a ∧ SubscribesIdle s a ∧ RefusesOnlyDead s a ∧ TickCopies s a)
    ⟨fun h => ⟨h.1, h.2.1, h.2.2.1, h.2.2.2⟩, fun h => ⟨h.1, h.2, h.3, h.4⟩⟩

/-- Pending connects are live, and at most one notification task runs or is asked for. -/
structure Unpanicked (s : Peripheral G A) : Prop where
  running : s.panicked = false
  connects : ConnectsLive s
  subscribers : s.subscribers ≤ 1

/-- A live link is found by its handle. -/
theorem Peripheral.linkOn_ne_none {s : Peripheral G A} {l : Link} (hl : l ∈ s.links) :
    s.linkOn l.handle ≠ none := by
  intro hnone
  have hmiss := List.find?_eq_none.mp hnone l hl
  simp at hmiss

/-- In a considerate step with the invariant, no call panics. -/
theorem Unpanicked.no_cause (hG : G.KnowsAddress) {s s' : Peripheral G A} {a : Action}
    {out : List Obs} (hI : Unpanicked s) (h : PeripheralStep s a s' out)
    (hconsiderate : Considerate s a) : ¬PanicCause s a := by
  have hrefuses := hconsiderate.refusesOnlyDead
  have haddress : ∀ n, ¬AddressMissing n s.gap := by
    rintro n ⟨-, -, hnone⟩
    have hsome := hG s.gap.store
    rw [hnone] at hsome
    cases hsome
  intro hcause
  cases a with
  | linkLost c n => exact haddress n hcause
  | gapNotify n => exact haddress n hcause
  | loopReceive =>
      rcases hcause with ⟨hrunning, m, hhead, hsub⟩
      have hqueued : 0 < queuedSubscribes s.channel := by
        apply List.countP_pos_iff.mpr
        exact ⟨m, List.mem_of_mem_head? hhead, hsub⟩
      have htask : s.notifier.toList.length = 1 := by
        rcases Option.ne_none_iff_exists'.mp hrunning with ⟨c, hc⟩
        rw [hc]
        rfl
      have hone := hI.subscribers
      unfold Peripheral.subscribers at hone
      omega
  | loopTimer updateOk =>
      cases h with
      | callback hlinks hgap => cases hlinks
      | callbackPanic hlinks hpanic => cases hlinks
      | updateAccepted hloop hlive => cases hcause
      | @updatePanic c origin hloop =>
          have hdead : s.linkOn c = none := by simpa [RefusesOnlyDead, hloop] using hrefuses
          have hpending : ⟨.connected c, origin⟩ ∈ s.unhandled := by
            apply List.mem_append_left
            simp [hloop, LoopPhase.taken]
          rcases hI.connects c origin hpending with ⟨l, hl, rfl, -⟩
          exact Peripheral.linkOn_ne_none hl hdead
  | notifierTick env =>
      rcases hcause with ⟨c, hrunning, hpanics⟩
      exact hconsiderate.tickCopies c hrunning hpanics
  | _ => exact hcause

/-- The invariant survives every considerate step. -/
theorem Unpanicked.step (hG : G.KnowsAddress) {s s' : Peripheral G A} {a : Action}
    {out : List Obs} (hI : Unpanicked s) (hconsiderate : Considerate s a)
    (hs : s.step a = some (s', out)) : Unpanicked s' := by
  have hstep := (Peripheral.step_sound hs).2
  refine ⟨?_, hstep.connectsLive hI.connects hconsiderate.noEarlyLoss, ?_⟩
  · have hnone := hI.no_cause hG hstep hconsiderate
    rw [← Peripheral.step_panicked_iff hs] at hnone
    simpa using hnone
  · rcases hstep.subscribers_step with hfewer | ⟨hqueues, hmore⟩
    · exact hfewer.trans hI.subscribers
    · have hzero := hconsiderate.subscribesIdle hqueues
      omega

end PapajBadge
