import PapajBadge.BlePeriph.GapStateChange

/-!
# Link events form sessions

The events the state callback offers to the channel, seen as a sequence of link
sessions: a session opens with `Connected(h)` and closes with `Disconnected(h)`.
The specification is an automaton whose state is the handle of the open session;
`LAST_STATE` and `CONN_HANDLE` together represent that state, and each call
drives the automaton from what they represented before to what they represent
after.

Main results:

- Theorem `GapStep.drives_session`: one call is one step of the automaton.
- Theorem `linkSession_shape`: an accepted sequence is a list of closed sessions
  followed by at most one open one.
- Theorem `linkEvents_alternate`: the link events of every sequence of well-formed
  notifications.
-/

namespace PapajBadge

open TransitionSystem

variable {G : GapRole}

/-! ## The session automaton -/

/-- Read one output with the handle of the open session, if any. -/
def linkSession : Option ConnHandle → GapOutput → Option (Option ConnHandle)
  | none, .trySend (.connected h) => if h ≠ invalidConnHandle then some (some h) else none
  | some h, .trySend (.disconnected h') => if h' = h then some none else none
  | session, .enableAdvertising => some session
  | _, .trySend _ => none

/-- The events of a closed session. -/
def closedSession (h : ConnHandle) : List AppEvent :=
  [.connected h, .disconnected h]

/-- The events of the session still open at the end, if any. -/
def openSession (session : Option ConnHandle) : List AppEvent :=
  (session.map AppEvent.connected).toList

/-- Accepted outputs spell closed sessions and then what is still open. -/
theorem linkSession_shape {outputs : List GapOutput} {first last : Option ConnHandle}
    (h : monitor linkSession first outputs = some last)
    (hfirst : ∀ c ∈ first, c ≠ invalidConnHandle) :
    ∃ closed : List ConnHandle,
      openSession first ++ sentEvents outputs = closed.flatMap closedSession ++ openSession last ∧
        (∀ c ∈ closed, c ≠ invalidConnHandle) ∧ ∀ c ∈ last, c ≠ invalidConnHandle := by
  induction outputs generalizing first with
  | nil =>
      simp only [monitor_nil, Option.some.injEq] at h
      subst h
      exact ⟨[], by simp, by simp, hfirst⟩
  | cons output outputs ih =>
      cases output with
      | enableAdvertising =>
          have hrest : monitor linkSession first outputs = some last := by
            cases first <;> simpa [monitor, linkSession] using h
          simpa using ih hrest hfirst
      | trySend event =>
          cases first with
          | none =>
              cases event with
              | connected c =>
                  by_cases hc : c = invalidConnHandle
                  · simp [monitor, linkSession, hc] at h
                  · simp only [monitor, linkSession, ne_eq, hc, not_false_eq_true, if_true] at h
                    rcases ih h (by simpa using hc) with ⟨closed, heq, hclosed, hlast⟩
                    exact ⟨closed, by simpa [openSession] using heq, hclosed, hlast⟩
              | disconnected c => simp [monitor, linkSession] at h
              | blinkySubscribed c => simp [monitor, linkSession] at h
              | blinkyUnsubscribed c => simp [monitor, linkSession] at h
          | some c =>
              cases event with
              | disconnected c' =>
                  by_cases hc : c' = c
                  · simp only [monitor, linkSession, hc, if_true] at h
                    rcases ih h (by simp) with ⟨closed, heq, hclosed, hlast⟩
                    refine ⟨c :: closed, ?_, ?_, hlast⟩
                    · simpa [openSession, closedSession, hc] using heq
                    · intro d hd
                      rcases List.mem_cons.mp hd with rfl | hd
                      · exact hfirst d rfl
                      · exact hclosed d hd
                  · simp [monitor, linkSession, hc] at h
              | connected c' => simp [monitor, linkSession] at h
              | blinkySubscribed c' => simp [monitor, linkSession] at h
              | blinkyUnsubscribed c' => simp [monitor, linkSession] at h

/-! ## The callback refines the automaton -/

/-- The session the statics represent. -/
def GapState.session (s : GapState G) : Option ConnHandle :=
  if s.lastState = .connected then some s.connHandle else none

/-- How the library reports links: entering `GAPROLE_CONNECTED` is announced by
the link-established event with a valid handle, and a notification that stays in
`GAPROLE_CONNECTED` carries some other opcode. -/
def ReportsLink (last : GapRoleState) (n : Notification) : Prop :=
  n.newState = .connected →
    if last = .connected then n.event.opcode ≠ gapLinkEstablishedEvent
    else n.event.opcode = gapLinkEstablishedEvent ∧ n.event.connectionHandle ≠ invalidConnHandle

instance (last : GapRoleState) (n : Notification) : Decidable (ReportsLink last n) := by
  unfold ReportsLink
  infer_instance

/-- A sequence of notifications each of which reports links that way. -/
def LinkReportsValid : GapRoleState → List Notification → Prop
  | _, [] => True
  | last, n :: ns => ReportsLink last n ∧ LinkReportsValid n.newState ns

/-- One call drives the automaton from the session the statics represented to
the one they represent afterwards. -/
theorem GapStep.drives_session {n : Notification} {s s' : GapState G} {out : List GapOutput}
    (h : GapStep s n s' out) (hreport : ReportsLink s.lastState n) :
    monitor linkSession s.session out = some s'.session := by
  cases h with
  | established hstate hop =>
      have hlast : s.lastState ≠ .connected := by
        intro hlast
        simpa [hlast, hop] using hreport hstate
      have hvalid : n.event.connectionHandle ≠ invalidConnHandle := by
        have := hreport hstate
        rw [if_neg hlast] at this
        exact this.2
      simp [GapState.session, hlast, hstate, monitor, linkSession, hvalid]
  | stillConnected hstate hop =>
      have hlast : s.lastState = .connected := by
        by_contra hlast
        have := hreport hstate
        rw [if_neg hlast] at this
        exact hop this.1
      simp [GapState.session, hlast, hstate]
  | lost hstate hlast =>
      simp [GapState.session, hlast, hstate, monitor, linkSession]
  | slowedDown hstate hlast _ =>
      simp [GapState.session, hlast, hstate, monitor, linkSession]
  | keptWaiting hstate hlast _ =>
      simp [GapState.session, hlast, hstate]
  | started hstate hlast _ =>
      simp [GapState.session, hlast, hstate]
  | unhandled hstate hlast _ =>
      simp [GapState.session, hlast, hstate]

/-- Along an execution, well-formed notifications meet `LAST_STATE` as the
report before them left it. -/
theorem LinkReportsValid.forall_mem {s last : GapState G} {ns : List Notification}
    {trace : List (Transition (GapState G) Notification GapOutput)}
    (hns : LinkReportsValid s.lastState ns)
    (h : (gapMachine G).exec s ns = some (trace, last)) :
    ∀ t ∈ trace, ReportsLink t.pre.lastState t.action := by
  induction ns generalizing s trace with
  | nil =>
      simp only [exec_nil, Option.some.injEq, Prod.mk.injEq] at h
      simp [← h.1]
  | cons n ns ih =>
      rcases exec_cons h with ⟨s', out, rest, hs, hrest, rfl⟩
      rcases hns with ⟨hhead, htail⟩
      rw [← (onGapStateChange_step hs).lastState_eq] at htail
      intro t ht
      rcases List.mem_cons.mp ht with rfl | ht
      · exact hhead
      · exact ih htail hrest t ht

/-- One call offers a disconnect event exactly when it leaves
`GAPROLE_CONNECTED`, and then nothing else. -/
theorem GapStep.sent_on_exit {n : Notification} {s s' : GapState G} {out : List GapOutput}
    (h : GapStep s n s' out) (hlast : s.lastState = .connected)
    (hstate : n.newState ≠ .connected) : sentEvents out = [.disconnected s.connHandle] := by
  cases h with
  | lost _ _ => rfl
  | established h _ => exact absurd h hstate
  | stillConnected h _ => exact absurd h hstate
  | slowedDown _ h _ => simp [hlast] at h
  | keptWaiting _ h _ => simp [hlast] at h
  | started _ h _ => exact absurd hlast h
  | unhandled _ h _ => exact absurd hlast h

/-- Whether an event closes a session. -/
def isDisconnected : AppEvent → Bool
  | .disconnected _ => true
  | _ => false

/-- One call closes as many sessions as it leaves `GAPROLE_CONNECTED`. -/
theorem GapStep.count_disconnected {n : Notification} {s s' : GapState G}
    {out : List GapOutput} (h : GapStep s n s' out) :
    (sentEvents out).countP isDisconnected =
      if isLinkLoss (s.lastState, n.newState) then 1 else 0 := by
  cases h <;> simp_all [isLinkLoss, isDisconnected]

/-- An execution closes as many sessions as its notifications leave
`GAPROLE_CONNECTED`. -/
theorem exec_count_disconnected {s last : GapState G} {ns : List Notification}
    {trace : List (Transition (GapState G) Notification GapOutput)}
    (h : (gapMachine G).exec s ns = some (trace, last)) :
    (sentEvents (outputsOf trace)).countP isDisconnected =
      (stateChanges s.lastState ns).countP isLinkLoss := by
  induction ns generalizing s trace with
  | nil =>
      simp only [exec_nil, Option.some.injEq, Prod.mk.injEq] at h
      simp [← h.1, stateChanges]
  | cons n ns ih =>
      rcases exec_cons h with ⟨s', out, rest, hs, hrest, rfl⟩
      have hstep := onGapStateChange_step hs
      rw [outputsOf_cons, sentEvents_append, List.countP_append, hstep.count_disconnected,
        ih hrest, hstep.lastState_eq, stateChanges, List.countP_cons]
      exact Nat.add_comm _ _

/-- Closed sessions contribute one disconnect event each. -/
theorem count_closedSessions (closed : List ConnHandle) (session : Option ConnHandle) :
    (closed.flatMap closedSession ++ openSession session).countP isDisconnected =
      closed.length := by
  induction closed with
  | nil => cases session <;> simp [openSession, isDisconnected]
  | cons c closed ih =>
      have hsplit : (c :: closed).flatMap closedSession ++ openSession session =
          closedSession c ++ (closed.flatMap closedSession ++ openSession session) := by
        simp
      rw [hsplit, List.countP_append, ih]
      simp [closedSession, isDisconnected, Nat.add_comm]

/-! ## Main theorem -/

/-- Whatever well-formed notifications arrive, the link events the callback
offers are closed sessions `Connected(h), Disconnected(h)` in a row, one per
exit from `GAPROLE_CONNECTED`, followed by an unmatched `Connected(h)` exactly
when `GAPROLE_CONNECTED` was notified last.  No event carries the invalid
handle, and the call that leaves `GAPROLE_CONNECTED` offers the one disconnect
event itself, whatever state comes next. -/
theorem linkEvents_alternate (haddr : G.KnowsAddress) (store : G.Store)
    (ns : List Notification) (hns : LinkReportsValid .init ns) :
    ∃ trace last, (gapMachine G).exec (GapState.boot store) ns = some (trace, last) ∧
      (∃ (closed : List ConnHandle) (session : Option ConnHandle),
        sentEvents (outputsOf trace) = closed.flatMap closedSession ++ openSession session ∧
          (∀ c ∈ closed, c ≠ invalidConnHandle) ∧ (∀ c ∈ session, c ≠ invalidConnHandle) ∧
          closed.length = (stateChanges .init ns).countP isLinkLoss ∧
          (session.isSome ↔ lastNotified .init ns = .connected)) ∧
      ∀ t ∈ trace, t.pre.lastState = .connected → t.action.newState ≠ .connected →
        sentEvents t.outputs = [.disconnected t.pre.connHandle] := by
  rcases exec_total (M := gapMachine G) (fun s n => onGapStateChange_total haddr n s)
    (GapState.boot store) ns with ⟨trace, last, hexec⟩
  have hok := hns.forall_mem (s := GapState.boot store) hexec
  have hmonitor := exec_monitor
    (fun s n s' out (hreport : ReportsLink s.lastState n) hs =>
      (onGapStateChange_step hs).drives_session hreport) hexec hok
  have hboot : (GapState.boot store).session = none := rfl
  rw [hboot] at hmonitor
  rcases linkSession_shape hmonitor (by simp) with ⟨closed, hshape, hclosed, hlast⟩
  refine ⟨trace, last, hexec, ⟨closed, last.session, by simpa [openSession] using hshape,
    hclosed, hlast, ?_, ?_⟩, ?_⟩
  · have hcount := exec_count_disconnected hexec
    have hsent : sentEvents (outputsOf trace) =
        closed.flatMap closedSession ++ openSession last.session := by
      simpa [openSession] using hshape
    rw [hsent, count_closedSessions] at hcount
    exact hcount
  · rw [GapState.session, exec_lastState hexec]
    by_cases hc : lastNotified .init ns = .connected <;> simp [GapState.boot, hc]
  · intro t ht hpre hpost
    have hrun := exec_run (M := gapMachine G) ⟨store, rfl⟩ hexec
    exact (onGapStateChange_step (hrun.step_of_mem ht)).sent_on_exit hpre hpost

/-- Two links with the same handle, the second still up: established from
advertising, lost to waiting, established again and renotified. -/
def reconnecting : List Notification :=
  [⟨.started, ⟨0, 0⟩⟩, ⟨.advertising, ⟨0, 0⟩⟩,
    ⟨.connected, ⟨gapLinkEstablishedEvent, 0⟩⟩, ⟨.waiting, ⟨0x06, 0⟩⟩,
    ⟨.advertising, ⟨0, 0⟩⟩, ⟨.connected, ⟨gapLinkEstablishedEvent, 0⟩⟩,
    ⟨.connected, ⟨0x07, 0⟩⟩]

theorem linkEvents_alternate_reconnecting :
    LinkReportsValid .init reconnecting ∧
      ∃ trace last,
        (gapMachine (paramStore (Vector.replicate 6 0))).exec (GapState.boot fun _ => 0)
          reconnecting = some (trace, last) ∧
        ∃ (closed : List ConnHandle) (session : Option ConnHandle),
          sentEvents (outputsOf trace) = closed.flatMap closedSession ++ openSession session ∧
            closed.length = 1 ∧ session.isSome := by
  have hvalid : LinkReportsValid .init reconnecting := by
    simp [LinkReportsValid, ReportsLink, reconnecting, gapLinkEstablishedEvent,
      invalidConnHandle]
  refine ⟨hvalid, ?_⟩
  rcases linkEvents_alternate (paramStore_knowsAddress (Vector.replicate 6 0)) (fun _ => 0)
    reconnecting hvalid with
    ⟨trace, last, hexec, ⟨closed, session, hsent, -, -, hcount, hopen⟩, -⟩
  exact ⟨trace, last, hexec, closed, session, hsent, hcount, hopen.mpr rfl⟩

end PapajBadge
