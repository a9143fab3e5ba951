import PapajBadge.BlePeriph.PanicFreedom
import PapajBadge.BlePeriph.TaskProtocol

/-!
# Reports about the links

The state callback keeps one handle and one last state.  With several links, a disconnect is
reported with the handle of the link established last, whichever was lost.  With one link at
a time, and a library that reports `GAPROLE_CONNECTED` for as long as that link is live, one
handle is enough: the events it sends are the history of the links.

Main results:

- Theorem `disconnects_name_last_link`: in every run, a disconnect event carries the handle of
  the link established last.
- Theorem `SingleLink.reports`: a step sends the event of the link change it makes, with
  the right handle, and no other link event.
- Theorem `link_history_reported`: in every such run, the link events that are sent are
  the link changes, in order, and the ones received are among them.
-/

namespace PapajBadge

open TransitionSystem

variable {G : GapRole} {A : GattServApp}

/-! ## Any number of links -/

/-- A step stores the handle of the link it establishes, and keeps the handle otherwise. -/
theorem PeripheralStep.connHandle_step {s s' : Peripheral G A} {a : Action} {out : List Obs}
    (h : PeripheralStep s a s' out) :
    s'.gap.connHandle = (establishedHandle? a).getD s.gap.connHandle := by
  cases h with
  | @callback _ n origin links nextLink gap gapOut hlinks hgap =>
      cases hlinks with
      | established hvalid hfree => exact hgap.established_sends.2
      | lost hlink hquiet => exact (hgap.quiet_sends hquiet).2
      | unchanged hquiet => exact (hgap.quiet_sends hquiet).2
  | @callbackPanic _ n origin links nextLink hlinks hpanic =>
      cases hlinks with
      | @established c hvalid hfree =>
          exact absurd hpanic (onGapStateChange_established_ne_none s.gap c)
      | lost hlink hquiet => rfl
      | unchanged hquiet => rfl
  | _ => rfl

/-- `CONN_HANDLE`. -/
def Peripheral.connHandle (s : Peripheral G A) : ConnHandle :=
  s.gap.connHandle

/-- In every run, `CONN_HANDLE` is the handle of the link established last. -/
theorem connHandle_last {trace : List (Step G A)} {s : Peripheral G A}
    (hrun : (peripheralMachine G A).Run trace s) :
    s.connHandle =
      lastWrite (fun t => establishedHandle? t.action) invalidConnHandle trace := by
  refine Run.last_write ?_ ?_ hrun
  · rintro s ⟨profile, store, dataHandle, rfl⟩
    rfl
  · intro s a s' out hs
    exact (Peripheral.step_sound hs).2.connHandle_step

/-- In every run, with any number of links, a disconnect event carries the handle of the link
that was established last before it, whichever link was lost. -/
theorem disconnects_name_last_link {before after : List (Step G A)} {t : Step G A}
    {s : Peripheral G A} (hrun : (peripheralMachine G A).Run (before ++ t :: after) s)
    {c : ConnHandle} {origin : Option Nat}
    (hsent : ⟨.disconnected c, origin⟩ ∈ attemptedMessages t.outputs) :
    (before.filterMap fun u => establishedHandle? u.action).getLast? = some c := by
  rcases hrun.split with ⟨hbefore, hs⟩
  rcases (Peripheral.step_sound hs).2.disconnect_sent hsent with ⟨hstate, hc⟩
  have hvalid := (disconnects_valid hbefore).current (Or.inr hstate)
  have hlast := connHandle_last hbefore
  rw [Peripheral.connHandle, ← hc, lastWrite] at hlast
  rw [← hc] at hvalid
  cases hestablished : (before.filterMap fun u => establishedHandle? u.action).getLast? with
  | none =>
      rw [hestablished] at hlast
      exact absurd hlast hvalid
  | some h =>
      rw [hestablished] at hlast
      rw [hlast]
      rfl

/-- Two links at a time. -/
def twoLinks : List Action :=
  [.linkEstablished 0, .linkEstablished 1]

/-- The first of them is lost, and the second is reported. -/
theorem disconnects_name_last_link_twoLinks :
    ∃ before s s' out, badge.Run before s ∧ before.map Transition.action = twoLinks ∧
      badge.step s (.linkLost 0 ⟨.other 5, ⟨0x06, 0⟩⟩) = some (s', out) ∧
      ⟨.disconnected 1, some 0⟩ ∈ attemptedMessages out ∧
      (before.filterMap fun u => establishedHandle? u.action).getLast? = some 1 := by
  have hcheck : ∃ result ∈ badge.exec badgeBoot twoLinks,
      ∃ next ∈ badge.step result.2 (.linkLost 0 ⟨.other 5, ⟨0x06, 0⟩⟩),
        ⟨.disconnected 1, some 0⟩ ∈ attemptedMessages next.2 := by
    decide
  rcases hcheck with ⟨⟨before, s⟩, hexec, ⟨s', out⟩, hstep, hsent⟩
  have hrun := exec_run badge_initial hexec
  exact ⟨before, s, s', out, hrun, exec_actions hexec, hstep, hsent,
    disconnects_name_last_link (hrun.extend hstep) hsent⟩

/-! ## One link at a time -/

/-- A link is established only while none is live, and a notification that comes while a
link is live reports it. -/
def OneHonestLink (s : Peripheral G A) : Action → Prop
  | .linkEstablished _ => s.links = []
  | .gapNotify n => s.links = [] ∨ n.newState = .connected
  | _ => True

instance (s : Peripheral G A) : DecidablePred (OneHonestLink s) := fun a =>
  match a with
  | .linkEstablished _ => inferInstanceAs (Decidable (s.links = []))
  | .gapNotify n => inferInstanceAs (Decidable (s.links = [] ∨ n.newState = .connected))
  | .linkLost _ _ | .blinkyWrite _ | .ctsWrite _ | .loopReceive | .loopTimer _
  | .notifierTick _ | .notifierReceive => .isTrue trivial

/-- The event that reports the link change of an action. -/
def linkChangeEvents : Action → List AppEvent
  | .linkEstablished h => [.connected h]
  | .linkLost h _ => [.disconnected h]
  | _ => []

/-- The statics of the callback agree with the links: none is live and none is reported,
or the live one is reported by its handle. -/
inductive SingleLink (s : Peripheral G A) : Prop
  | unlinked (hlinks : s.links = []) (hlast : s.gap.lastState ≠ .connected)
  | linked {l : Link} (hlinks : s.links = [l]) (hlast : s.gap.lastState = .connected)
      (hhandle : s.gap.connHandle = l.handle)

theorem singleLink_boot (profile : Profile) (store : G.Store) (dataHandle : UInt16) :
    SingleLink (Peripheral.boot profile store dataHandle : Peripheral G A) :=
  .unlinked rfl (by simp [Peripheral.boot, GapState.boot])

/-- The only link is the one found by its handle, and none is left without it. -/
theorem links_of_linkOn {s : Peripheral G A} {c : ConnHandle} {l link : Link}
    (hlinks : s.links = [l]) (hlink : s.linkOn c = some link) :
    link = l ∧ l.handle = c ∧ (s.links.filter fun l' => l'.handle ≠ c) = [] := by
  rcases Peripheral.linkOn_eq_some hlink with ⟨hmem, hhandle⟩
  rw [hlinks, List.mem_singleton] at hmem
  rw [hmem] at hhandle
  refine ⟨hmem, hhandle, ?_⟩
  rw [hlinks]
  simp [hhandle]

/-- Leaving `GAPROLE_CONNECTED`, the callback reports `CONN_HANDLE` and starts
advertising. -/
theorem GapStep.lost_of_connected {s s' : GapState G} {n : Notification} {out : List GapOutput}
    (h : GapStep s n s' out) (hlast : s.lastState = .connected)
    (hstate : n.newState ≠ .connected) :
    out = [.trySend (.disconnected s.connHandle), .enableAdvertising] := by
  cases h with
  | lost hstate' hlast' => rfl
  | established hstate' hop => exact absurd hstate' hstate
  | stillConnected hstate' hop => exact absurd hstate' hstate
  | slowedDown hstate' hlast' hfast => cases hlast.symm.trans hlast'
  | keptWaiting hstate' hlast' hslow => cases hlast.symm.trans hlast'
  | started hstate' hlast' haddr => exact absurd hlast hlast'
  | unhandled hstate' hlast' htimeout => exact absurd hlast hlast'

/-- While no link is reported and none becomes so, the callback sends nothing. -/
theorem GapStep.silent_of_unlinked {s s' : GapState G} {n : Notification}
    {out : List GapOutput} (h : GapStep s n s' out) (hlast : s.lastState ≠ .connected)
    (hstate : n.newState ≠ .connected) : sentEvents out = [] := by
  cases h with
  | lost hstate' hlast' => exact absurd hlast' hlast
  | established hstate' hop => exact absurd hstate' hstate
  | _ => rfl

/-- While the reported link stays, the callback sends nothing and keeps the handle. -/
theorem GapStep.silent_of_linked {s s' : GapState G} {n : Notification} {out : List GapOutput}
    {links : List Link} (h : GapStep s n s' out) (hstate : n.newState = .connected)
    (hquiet : Peripheral.quietNotification n links = true) :
    sentEvents out = [] ∧ s'.connHandle = s.connHandle := by
  refine ⟨?_, (h.quiet_sends hquiet).2⟩
  cases h with
  | established hstate' hop =>
      rw [Peripheral.quietNotification, hstate, hop] at hquiet
      simp at hquiet
  | lost hstate' hlast => exact absurd hstate hstate'
  | _ => rfl

/-- A call of the callback reports the link change, and the statics agree with the links
afterwards. -/
theorem SingleLink.callback {s : Peripheral G A} {a : Action} {n : Notification}
    {origin : Option Nat} {links : List Link} {nextLink : Nat} {gap : GapState G}
    {out : List GapOutput} (hI : SingleLink s) (hone : OneHonestLink s a)
    (hlinks : LinkChange s a n origin links nextLink) (hgap : GapStep s.gap n gap out) :
    sentEvents out = linkChangeEvents a ∧
      ((links = [] ∧ gap.lastState ≠ .connected) ∨
        ∃ l, links = [l] ∧ gap.lastState = .connected ∧ gap.connHandle = l.handle) := by
  have hstate := hgap.lastState_eq
  cases hlinks with
  | @established c hvalid hfree =>
      have hempty : s.links = [] := hone
      rcases hgap.established_sends with ⟨hsent, hhandle⟩
      refine ⟨hsent, Or.inr ⟨⟨c, s.nextLink⟩, ?_, hstate, hhandle⟩⟩
      rw [hempty]
      rfl
  | @lost c n link hlink hquiet =>
      cases hI with
      | unlinked hnone hlast =>
          have hmem := (Peripheral.linkOn_eq_some hlink).1
          rw [hnone] at hmem
          cases hmem
      | @linked l hl hlast hhandle =>
          rcases links_of_linkOn hl hlink with ⟨-, hc, hempty⟩
          have hleft : n.newState ≠ .connected := by
            intro hconnected
            exact quietNotification_connected hquiet hconnected hempty
          rw [hgap.lost_of_connected hlast hleft, hhandle, hc]
          refine ⟨rfl, Or.inl ⟨hempty, ?_⟩⟩
          rw [hstate]
          exact hleft
  | @unchanged n hquiet =>
      cases hI with
      | unlinked hnone hlast =>
          have hleft : n.newState ≠ .connected := by
            intro hconnected
            exact quietNotification_connected hquiet hconnected hnone
          refine ⟨hgap.silent_of_unlinked hlast hleft, Or.inl ⟨hnone, ?_⟩⟩
          rw [hstate]
          exact hleft
      | @linked l hl hlast hhandle =>
          have hconnected : n.newState = .connected := by
            rcases hone with hnone | hconnected
            · rw [hnone] at hl
              cases hl
            · exact hconnected
          rcases hgap.silent_of_linked hconnected hquiet with ⟨hsent, hkept⟩
          refine ⟨hsent, Or.inr ⟨l, hl, ?_, hkept.trans hhandle⟩⟩
          rw [hstate]
          exact hconnected

/-- Where the address lookup panics, no link is live, and the links do not change. -/
theorem SingleLink.callbackPanic {s : Peripheral G A} {a : Action} {n : Notification}
    {origin : Option Nat} {links : List Link} {nextLink : Nat} (hI : SingleLink s)
    (hlinks : LinkChange s a n origin links nextLink) (hpanic : onGapStateChange n s.gap = none) :
    links = s.links ∧ linkChangeEvents a = [] := by
  rcases (onGapStateChange_eq_none_iff n s.gap).mp hpanic with ⟨hstarted, hlast, -⟩
  cases hlinks with
  | established hvalid hfree => cases hstarted
  | lost hlink hquiet =>
      have hmem := (Peripheral.linkOn_eq_some hlink).1
      cases hI with
      | unlinked hnone hlast' =>
          rw [hnone] at hmem
          cases hmem
      | linked hl hlast' hhandle => exact absurd hlast' hlast
  | unchanged hquiet => exact ⟨rfl, rfl⟩

/-- The statics agree with the links in a state with the same links and statics. -/
theorem SingleLink.of_same {s s' : Peripheral G A} (hI : SingleLink s) (hlinks : s'.links = s.links)
    (hgap : s'.gap = s.gap) : SingleLink s' := by
  cases hI with
  | unlinked hnone hlast => exact .unlinked (hlinks.trans hnone) (by rwa [hgap])
  | linked hl hlast hhandle => exact .linked (hlinks.trans hl) (by rwa [hgap]) (by rwa [hgap])

/-! ## Reports over runs -/

/-- The link events among some messages. -/
def linkEvents (messages : List Message) : List AppEvent :=
  (messages.map Message.event).filter isLinkEvent

@[simp]
theorem linkEvents_append (left right : List Message) :
    linkEvents (left ++ right) = linkEvents left ++ linkEvents right := by
  simp [linkEvents]

/-- The state callback offers nothing but link events. -/
theorem GapStep.linkEvents_eq {s s' : GapState G} {n : Notification} {out : List GapOutput}
    (h : GapStep s n s' out) (origin : Option Nat) :
    linkEvents (attemptedMessages (out.map (Peripheral.obsOfGap origin))) = sentEvents out := by
  rw [linkEvents, attemptedMessages_gap, List.map_map]
  change ((sentEvents out).map id).filter isLinkEvent = sentEvents out
  rw [List.map_id, List.filter_eq_self]
  exact h.sends_linkEvents

/-- A subscription is no link event. -/
theorem isLinkEvent_subscriptionEvent (req : WriteRequest) :
    isLinkEvent (subscriptionEvent req) = false := by
  rcases subscriptionEvent_cases req with hsub | hsub
  · rw [hsub]
    rfl
  · rw [hsub]
    rfl

/-- A step sends the event of its link change and no other link event, and the statics
agree with the links again. -/
theorem SingleLink.reports {s s' : Peripheral G A} {a : Action} {out : List Obs}
    (hI : SingleLink s) (hone : OneHonestLink s a) (h : PeripheralStep s a s' out) :
    linkEvents (attemptedMessages out) = linkChangeEvents a ∧ SingleLink s' := by
  cases h with
  | @callback _ n origin links nextLink gap gapOut hlinks hgap =>
      rcases hI.callback hone hlinks hgap with ⟨hsent, hafter⟩
      refine ⟨(hgap.linkEvents_eq origin).trans hsent, ?_⟩
      rcases hafter with ⟨hnone, hlast⟩ | ⟨l, hl, hlast, hhandle⟩
      · exact .unlinked hnone hlast
      · exact .linked hl hlast hhandle
  | @callbackPanic _ n origin links nextLink hlinks hpanic =>
      rcases hI.callbackPanic hlinks hpanic with ⟨hsame, hevents⟩
      exact ⟨hevents.symm, hI.of_same hsame rfl⟩
  | @blinkyCcc req link charCfg hlink hwrite hccc =>
      refine ⟨?_, hI.of_same rfl rfl⟩
      change [subscriptionEvent req].filter isLinkEvent = []
      simp [isLinkEvent_subscriptionEvent]
  | ctsOther => exact ⟨by simp [linkEvents, attemptedMessages, linkChangeEvents], hI⟩
  | tick hrunning => exact ⟨by simp [linkEvents, attemptedMessages, linkChangeEvents], hI⟩
  | _ => exact ⟨rfl, hI.of_same rfl rfl⟩

/-- With one link at a time that the library reports honestly, the link events that are
sent are the links that come and go, in order; those that the tasks receive are among
them. -/
theorem link_history_reported {trace : List (Step G A)} {s : Peripheral G A}
    (hrun : (peripheralMachine G A).Run trace s)
    (hone : ∀ t ∈ trace, OneHonestLink t.pre t.action) :
    linkEvents (attemptedMessages (outputsOf trace)) =
        (trace.map Transition.action).flatMap linkChangeEvents ∧
      (linkEvents (receivedMessages (outputsOf trace))).Sublist
        ((trace.map Transition.action).flatMap linkChangeEvents) := by
  have hsent : linkEvents (attemptedMessages (outputsOf trace)) =
      (trace.map Transition.action).flatMap linkChangeEvents ∧ SingleLink s := by
    refine Run.history_invariant (J := fun trace s =>
      linkEvents (attemptedMessages (outputsOf trace)) =
        (trace.map Transition.action).flatMap linkChangeEvents ∧ SingleLink s) ?_ ?_ hrun hone
    · rintro s ⟨profile, store, dataHandle, rfl⟩
      exact ⟨rfl, singleLink_boot profile store dataHandle⟩
    · intro trace s a s' out hJ hone hs
      rcases hJ.2.reports hone (Peripheral.step_sound hs).2 with ⟨hevents, hI⟩
      refine ⟨?_, hI⟩
      simp [hJ.1, hevents]
  refine ⟨hsent.1, ?_⟩
  rw [← hsent.1]
  have hreceived : (receivedMessages (outputsOf trace)).Sublist
      (attemptedMessages (outputsOf trace)) := by
    refine List.Sublist.trans ?_ (acceptedMessages_sublist trace)
    rw [← messages_conserved hrun]
    exact List.sublist_append_left _ _
  exact (hreceived.map Message.event).filter isLinkEvent

/-- A link that is lost, and another one after advertising. -/
def reconnectedOnce : List Action :=
  [.linkEstablished 3, .gapNotify ⟨.connected, ⟨0x07, 3⟩⟩, .loopReceive,
    .linkLost 3 ⟨.waiting, ⟨0x06, 3⟩⟩, .gapNotify ⟨.advertising, ⟨0, 0⟩⟩, .linkEstablished 5]

theorem link_history_reported_reconnectedOnce :
    ∃ trace s, badge.Run trace s ∧ trace.map Transition.action = reconnectedOnce ∧
      linkEvents (attemptedMessages (outputsOf trace)) =
        [.connected 3, .disconnected 3, .connected 5] := by
  have hcheck : ∃ result ∈ badge.exec badgeBoot reconnectedOnce,
      ∀ t ∈ result.1, OneHonestLink t.pre t.action := by
    decide
  rcases hcheck with ⟨⟨trace, s⟩, hexec, hone⟩
  have hrun := exec_run badge_initial hexec
  have hactions := exec_actions hexec
  refine ⟨trace, s, hrun, hactions, ?_⟩
  rw [(link_history_reported hrun hone).1, hactions]
  rfl

end PapajBadge
