import PapajBadge.BlePeriph.EventDelivery
import PapajBadge.Foundation.RunRefinement

/-!
# Isolation of the Current Time service

The two services share the links, the server library and the executor.  What the peers
of the Current Time service write, and when the notification task ticks, has no influence
on anything else, unless a tick panics for want of a buffer: a run from which these actions
are erased is a run that ends in the same state and shows the same, apart from the Current
Time service itself and the notifications.

Main results:

- Theorem `Peripheral.step_withCts`: no step but a write to the Current Time service looks
  at its state.
- Theorem `currentTime_isolated`: such writes, and ticks, can be erased from every run in
  which no tick panics.
-/

namespace PapajBadge

open TransitionSystem

variable {G : GapRole} {A : GattServApp}

/-- The same state with other statics of the Current Time service. -/
def Peripheral.withCts (s : Peripheral G A) (cts : CtsState A) : Peripheral G A :=
  { s with cts := cts }

/-- The actions to erase: writes to the Current Time service and ticks. -/
def isIsolated : Action → Bool
  | .ctsWrite _ => true
  | .notifierTick _ => true
  | _ => false

/-- The observations that remain: neither of the Current Time service nor of a tick. -/
def isShown : Obs → Bool
  | .cccWritten service _ _ => service = .blinky
  | .rtcSet _ => false
  | .tick _ => false
  | _ => true

/-- All of the state but the statics of the Current Time service. -/
def Peripheral.withoutCts (s : Peripheral G A) : Peripheral G A :=
  s.withCts (CtsState.boot A)

/-! ## The state is not looked at -/

section withCts

variable (s : Peripheral G A) (cts : CtsState A)

@[simp]
theorem Peripheral.withCts_panicked : (s.withCts cts).panicked = s.panicked :=
  rfl

@[simp]
theorem Peripheral.withCts_linkOn (h : ConnHandle) : (s.withCts cts).linkOn h = s.linkOn h :=
  rfl

@[simp]
theorem Peripheral.withCts_channel : (s.withCts cts).channel = s.channel :=
  rfl

@[simp]
theorem Peripheral.withCts_loop : (s.withCts cts).loop = s.loop :=
  rfl

@[simp]
theorem Peripheral.withCts_notifier : (s.withCts cts).notifier = s.notifier :=
  rfl

theorem Peripheral.gapCallback_withCts (n : Notification) (origin : Option Nat) :
    gapCallback n origin (s.withCts cts) =
      ((gapCallback n origin s).1.withCts cts, (gapCallback n origin s).2) := by
  have hgap : (s.withCts cts).gap = s.gap := rfl
  unfold gapCallback
  rw [hgap]
  cases onGapStateChange n s.gap with
  | none => rfl
  | some result => rfl

theorem Peripheral.loopArm_withCts (m : Message) :
    loopArm m (s.withCts cts) = ((loopArm m s).1.withCts cts, (loopArm m s).2) := by
  rcases m with ⟨event, origin⟩
  cases event with
  | blinkySubscribed h =>
      cases hrunning : s.notifier with
      | none => simp [loopArm, hrunning, withCts]
      | some running => simp [loopArm, hrunning, withCts]
  | _ => rfl

theorem Peripheral.requestUpdate_withCts (h : ConnHandle) (updateOk : Bool) :
    requestUpdate h updateOk (s.withCts cts) =
      ((requestUpdate h updateOk s).1.withCts cts, (requestUpdate h updateOk s).2) := by
  cases updateOk <;> rfl

theorem Peripheral.tick_withCts (h : ConnHandle) (env : TickEnv) :
    tick h env (s.withCts cts) = ((tick h env s).1.withCts cts, (tick h env s).2) := by
  by_cases hpanics : CopyPanics s.profile h env s.blinky
  · have hpanics' : CopyPanics (s.withCts cts).profile h env (s.withCts cts).blinky := hpanics
    rw [tick, tick, if_pos hpanics, if_pos hpanics']
    rfl
  · have hpanics' : ¬CopyPanics (s.withCts cts).profile h env (s.withCts cts).blinky := hpanics
    rw [tick, tick, if_neg hpanics, if_neg hpanics']
    rfl

theorem Peripheral.notifierArm_withCts (m : Message) :
    notifierArm m (s.withCts cts) = (notifierArm m s).withCts cts := by
  unfold notifierArm
  split_ifs <;> rfl

/-- No step but a write to the Current Time service looks at its statics or changes
them. -/
theorem Peripheral.step_withCts {a : Action} (ha : ∀ req, a ≠ .ctsWrite req) :
    (s.withCts cts).step a = (s.step a).map fun next => (next.1.withCts cts, next.2) := by
  unfold step
  rw [withCts_panicked]
  split_ifs with hpanicked
  · rfl
  · cases a with
    | ctsWrite req => exact absurd rfl (ha req)
    | linkEstablished c =>
        dsimp only
        by_cases hnew : c ≠ invalidConnHandle ∧ s.linkOn c = none
        · have hnew' : c ≠ invalidConnHandle ∧ (s.withCts cts).linkOn c = none := hnew
          rw [if_pos hnew, if_pos hnew']
          exact congrArg some (gapCallback_withCts
            { s with links := s.links ++ [⟨c, s.nextLink⟩], nextLink := s.nextLink + 1 } cts _ _)
        · have hnew' : ¬(c ≠ invalidConnHandle ∧ (s.withCts cts).linkOn c = none) := hnew
          rw [if_neg hnew, if_neg hnew']
          rfl
    | linkLost c n =>
        dsimp only
        rw [withCts_linkOn]
        cases s.linkOn c with
        | none => rfl
        | some link =>
            dsimp only
            by_cases hquiet : quietNotification n (s.links.filter fun l => l.handle ≠ c) = true
            · have hquiet' : quietNotification n
                  ((s.withCts cts).links.filter fun l => l.handle ≠ c) = true := hquiet
              rw [if_pos hquiet, if_pos hquiet']
              exact congrArg some (gapCallback_withCts
                { s with links := s.links.filter fun l => l.handle ≠ c } cts _ _)
            · have hquiet' : ¬quietNotification n
                  ((s.withCts cts).links.filter fun l => l.handle ≠ c) = true := hquiet
              rw [if_neg hquiet, if_neg hquiet']
              rfl
    | gapNotify n =>
        dsimp only
        by_cases hquiet : quietNotification n s.links = true
        · have hquiet' : quietNotification n (s.withCts cts).links = true := hquiet
          rw [if_pos hquiet, if_pos hquiet']
          exact congrArg some (gapCallback_withCts s cts n none)
        · have hquiet' : ¬quietNotification n (s.withCts cts).links = true := hquiet
          rw [if_neg hquiet, if_neg hquiet']
          rfl
    | blinkyWrite req =>
        simp only [withCts_linkOn]
        cases s.linkOn req.connHandle with
        | none => rfl
        | some link => rfl
    | loopReceive =>
        simp only [withCts_loop, withCts_channel]
        cases s.loop with
        | connDelay c origin => rfl
        | selecting =>
            cases s.channel.receive? with
            | none => rfl
            | some next =>
                have harm := loopArm_withCts
                  { s with channel := next.2, loop := .selecting } cts next.1
                exact congrArg
                  (fun r => some (r.1, Obs.received .peripheralLoop next.1 :: r.2)) harm
    | loopTimer updateOk =>
        dsimp only
        rw [withCts_loop]
        cases s.loop with
        | selecting => rfl
        | connDelay c origin =>
            dsimp only
            by_cases hdead : updateOk = true ∧ s.linkOn c = none
            · have hdead' : updateOk = true ∧ (s.withCts cts).linkOn c = none := hdead
              rw [if_pos hdead, if_pos hdead']
              rfl
            · have hdead' : ¬(updateOk = true ∧ (s.withCts cts).linkOn c = none) := hdead
              rw [if_neg hdead, if_neg hdead']
              exact congrArg some (requestUpdate_withCts s cts c updateOk)
    | notifierTick env =>
        simp only [withCts_notifier]
        cases s.notifier with
        | none => rfl
        | some c => exact congrArg some (tick_withCts s cts c env)
    | notifierReceive =>
        simp only [withCts_notifier, withCts_channel]
        cases s.notifier with
        | none => rfl
        | some c =>
            cases s.channel.receive? with
            | none => rfl
            | some next =>
                have harm := notifierArm_withCts
                  { s with channel := next.2, notifier := some c } cts next.1
                exact congrArg
                  (fun r => some (r, [Obs.received .blinkyNotification next.1])) harm

end withCts

/-! ## Erasing -/

/-- States that agree but for the Current Time service differ in its statics only. -/
theorem Peripheral.eq_withCts {s t : Peripheral G A} (h : s.withoutCts = t.withoutCts) :
    t = s.withCts t.cts := by
  have hback : ∀ u : Peripheral G A, u = u.withoutCts.withCts u.cts := fun u => rfl
  calc
    t = t.withoutCts.withCts t.cts := hback t
    _ = s.withoutCts.withCts t.cts := by rw [h]
    _ = s.withCts t.cts := rfl

/-- A write to the Current Time service, or a tick that does not panic, changes nothing
else and shows nothing else. -/
theorem PeripheralStep.isolated_step {s s' : Peripheral G A} {a : Action} {out : List Obs}
    (h : PeripheralStep s a s' out) (hcopies : TickCopies s a) (ha : isIsolated a = true) :
    s'.withoutCts = s.withoutCts ∧ out.filter isShown = [] := by
  cases h with
  | callback hlinks hgap =>
      cases hlinks <;> cases ha
  | callbackPanic hlinks hpanic =>
      cases hlinks <;> cases ha
  | ctsCcc hlink hwrite => exact ⟨rfl, rfl⟩
  | ctsOther => exact ⟨rfl, by simp [isShown]⟩
  | tick hrunning => exact ⟨rfl, by simp [isShown]⟩
  | tickPanic hrunning hpanics => exact absurd hpanics (hcopies _ hrunning)
  | _ => cases ha

/-- Writes to the Current Time service and ticks that do not panic can be erased. -/
theorem currentTime_erasable (G : GapRole) (A : GattServApp) :
    Erasable (peripheralMachine G A) TickCopies isIsolated Peripheral.withoutCts isShown where
  hidden_step := by
    intro s a s' out hcopies ha hs
    exact (Peripheral.step_sound hs).2.isolated_step hcopies ha
  shown_step := by
    intro s t a s' out ha hview hs
    have hother : ∀ req, a ≠ .ctsWrite req := by
      rintro req rfl
      cases ha
    have ht := Peripheral.eq_withCts hview
    refine ⟨s'.withCts t.cts, out, ?_, rfl, rfl⟩
    change t.step a = some (s'.withCts t.cts, out)
    have hstep : s.step a = some (s', out) := hs
    rw [ht, Peripheral.step_withCts s t.cts hother, hstep]
    rfl

/-- Erasing all writes to the Current Time service and all ticks of the notification task
from a run in which no tick panics leaves a run of the system.  It ends in the same state,
up to the statics of the Current Time service, and makes the same observations, up to those
of that service and of the ticks. -/
theorem currentTime_isolated {trace : List (Step G A)} {s : Peripheral G A}
    (hrun : (peripheralMachine G A).Run trace s)
    (hcopies : ∀ t ∈ trace, TickCopies t.pre t.action) :
    ∃ trace' s', (peripheralMachine G A).Run trace' s' ∧
      trace'.map Transition.action =
        (trace.map Transition.action).filter (fun a => !isIsolated a) ∧
      s.withoutCts = s'.withoutCts ∧
      (outputsOf trace).filter isShown = (outputsOf trace').filter isShown :=
  hrun.erase (currentTime_erasable G A) hcopies

/-- A client that subscribes to both services, sets the time and is notified. -/
def bothServicesUsed : List Action :=
  [.linkEstablished 0, .ctsWrite (cccRequest 0 1), .loopReceive, .loopTimer true,
    .blinkyWrite (cccRequest 0 1), .ctsWrite (currentTimeWrite 0 monthThirteen 10 0), .loopReceive,
    .notifierTick ⟨some 0, 0, true⟩]

theorem currentTime_isolated_bothServicesUsed :
    ∃ trace s trace' s', badge.Run trace s ∧ trace.map Transition.action = bothServicesUsed ∧
      badge.Run trace' s' ∧ trace'.length = 5 ∧ s.withoutCts = s'.withoutCts ∧
      (outputsOf trace).filter isShown = (outputsOf trace').filter isShown := by
  have hcheck : ∃ result ∈ badge.exec badgeBoot bothServicesUsed,
      ∀ t ∈ result.1, TickCopies t.pre t.action := by
    decide
  rcases hcheck with ⟨⟨trace, s⟩, hexec, hcopies⟩
  have hrun := exec_run badge_initial hexec
  rcases currentTime_isolated hrun hcopies with ⟨trace', s', hrun', hactions, hview, hshown⟩
  refine ⟨trace, s, trace', s', hrun, exec_actions hexec, hrun', ?_, hview, hshown⟩
  have hlength := congrArg List.length hactions
  rw [List.length_map, exec_actions hexec] at hlength
  exact hlength

end PapajBadge
