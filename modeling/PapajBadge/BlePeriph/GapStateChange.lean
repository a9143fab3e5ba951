import PapajBadge.BleLibrary.GapRole
import PapajBadge.Foundation.TransitionSystem

/-!
# The GAP state-change callback

This module embeds `on_gap_state_change`: a state machine over the statics
`LAST_STATE` and `CONN_HANDLE` whose guarded arms are tried in order, so that the
disconnect arm shadows every later one.  Each call returns the new statics, the
library's parameter store and what the callback asked for, in order.

Main results:

- Theorem `onGapStateChange_step`: every completed call takes one of the seven
  branches listed in `GapStep`.
- Theorem `onGapStateChange_total`: a call completes whenever the library knows
  its own address.
-/

namespace PapajBadge

open TransitionSystem

/-- The events the callbacks report to the tasks. -/
inductive AppEvent where
  | connected (connHandle : ConnHandle)
  | disconnected (connHandle : ConnHandle)
  | blinkySubscribed (connHandle : ConnHandle)
  | blinkyUnsubscribed (connHandle : ConnHandle)
deriving DecidableEq, Repr

/-- What a call of the state callback asks of its surroundings: an event offered
to the application channel, or `GAPROLE_ADVERT_ENABLED` set to true. -/
inductive GapOutput where
  | trySend (event : AppEvent)
  | enableAdvertising
deriving DecidableEq, Repr

/-- Fast advertising interval, in units of 625 us. -/
def defaultFastAdvInterval : UInt16 := 32

/-- Fast advertising duration, in units of 625 us. -/
def defaultFastAdvDuration : UInt16 := 30000

/-- Slow advertising interval, in units of 625 us. -/
def defaultSlowAdvInterval : UInt16 := 1600

/-- Slow advertising duration; zero is continuous. -/
def defaultSlowAdvDuration : UInt16 := 0

/-- One call of the callback: the new state and the event behind the pointer. -/
structure Notification where
  newState : GapRoleState
  event : GapRoleEvent
deriving DecidableEq, Repr

/-- The statics the callback keeps between calls, the published system id, and
the library's own store. -/
structure GapState (G : GapRole) where
  lastState : GapRoleState
  connHandle : ConnHandle
  systemId : Vector UInt8 8
  store : G.Store

variable {G : GapRole}

/-- The statics before the first call. -/
def GapState.boot (store : G.Store) : GapState G where
  lastState := .init
  connHandle := invalidConnHandle
  systemId := Vector.replicate 8 0
  store := store

/-- Set the two discoverable advertising intervals and the duration. -/
def setDiscAdv (interval duration : UInt16) (store : G.Store) : G.Store :=
  let store := G.setParamValue .discAdvIntMin interval store
  let store := G.setParamValue .discAdvIntMax interval store
  G.setParamValue .genDiscAdvMin duration store

/-- The system id: the address with its upper three bytes shifted up and zeroes
in the middle. -/
def systemIdOf (addr : BdAddr) : Vector UInt8 8 :=
  let systemId : Vector UInt8 8 := addr ++ (#v[0, 0] : Vector UInt8 2)
  let systemId := systemId.set 7 systemId[5]
  let systemId := systemId.set 6 systemId[4]
  let systemId := systemId.set 5 systemId[3]
  let systemId := systemId.set 4 0
  systemId.set 3 0

/-- The `GAPROLE_CONNECTED` arm: only the link-established event is news. -/
def connectedArm (event : GapRoleEvent) (s : GapState G) : GapState G × List GapOutput :=
  if event.opcode = gapLinkEstablishedEvent then
    ({ s with connHandle := event.connectionHandle },
      [.trySend (.connected event.connectionHandle)])
  else (s, [])

/-- The disconnect arm: fast advertising, the event, and advertising enabled. -/
def disconnectedArm (s : GapState G) : GapState G × List GapOutput :=
  ({ s with store := setDiscAdv defaultFastAdvInterval defaultFastAdvDuration s.store },
    [.trySend (.disconnected s.connHandle), .enableAdvertising])

/-- The advertising-stopped arm: from fast to slow advertising, once. -/
def advertisingStoppedArm (s : GapState G) : GapState G × List GapOutput :=
  if G.getParamValue .discAdvIntMin s.store = defaultFastAdvInterval then
    ({ s with store := setDiscAdv defaultSlowAdvInterval defaultSlowAdvDuration s.store },
      [.enableAdvertising])
  else (s, [])

/-- The `GAPROLE_STARTED` arm: publish the system id.  The address lookup is
unwrapped, so the call panics when it fails. -/
def startedArm (s : GapState G) : Option (GapState G × List GapOutput) :=
  match G.getBdAddr s.store with
  | none => none
  | some addr => some ({ s with systemId := systemIdOf addr }, [])

/-- The match of the callback, arms in source order. -/
def gapStateArm (n : Notification) (s : GapState G) : Option (GapState G × List GapOutput) :=
  if n.newState = .connected then some (connectedArm n.event s)
  else if s.lastState = .connected ∧ n.newState ≠ .connected then some (disconnectedArm s)
  else if n.newState = .waiting ∧ s.lastState = .advertising then some (advertisingStoppedArm s)
  else if n.newState = .started then startedArm s
  else some (s, [])

/-- `on_gap_state_change`; `none` is a panic. -/
def onGapStateChange (n : Notification) (s : GapState G) :
    Option (GapState G × List GapOutput) :=
  match gapStateArm n s with
  | none => none
  | some (s', out) => some ({ s' with lastState := n.newState }, out)

/-- The callback as a system driven by the library's notifications. -/
def gapMachine (G : GapRole) : TransitionSystem (GapState G) Notification GapOutput where
  initial s := ∃ store, s = GapState.boot store
  step s n := onGapStateChange n s

/-! ## What one call can do -/

/-- The branches a completed call can take, each with its guard, the statics it
leaves behind and its outputs. -/
inductive GapStep (s : GapState G) (n : Notification) :
    GapState G → List GapOutput → Prop
  | established (hstate : n.newState = .connected)
      (hop : n.event.opcode = gapLinkEstablishedEvent) :
      GapStep s n { s with connHandle := n.event.connectionHandle, lastState := n.newState }
        [.trySend (.connected n.event.connectionHandle)]
  | stillConnected (hstate : n.newState = .connected)
      (hop : n.event.opcode ≠ gapLinkEstablishedEvent) :
      GapStep s n { s with lastState := n.newState } []
  | lost (hstate : n.newState ≠ .connected) (hlast : s.lastState = .connected) :
      GapStep s n
        { s with
          store := setDiscAdv defaultFastAdvInterval defaultFastAdvDuration s.store
          lastState := n.newState }
        [.trySend (.disconnected s.connHandle), .enableAdvertising]
  | slowedDown (hstate : n.newState = .waiting) (hlast : s.lastState = .advertising)
      (hfast : G.getParamValue .discAdvIntMin s.store = defaultFastAdvInterval) :
      GapStep s n
        { s with
          store := setDiscAdv defaultSlowAdvInterval defaultSlowAdvDuration s.store
          lastState := n.newState }
        [.enableAdvertising]
  | keptWaiting (hstate : n.newState = .waiting) (hlast : s.lastState = .advertising)
      (hslow : G.getParamValue .discAdvIntMin s.store ≠ defaultFastAdvInterval) :
      GapStep s n { s with lastState := n.newState } []
  | started (hstate : n.newState = .started) (hlast : s.lastState ≠ .connected)
      {addr : BdAddr} (haddr : G.getBdAddr s.store = some addr) :
      GapStep s n { s with systemId := systemIdOf addr, lastState := n.newState } []
  | unhandled (hstate : n.newState ≠ .connected) (hlast : s.lastState ≠ .connected)
      (htimeout : ¬(n.newState = .waiting ∧ s.lastState = .advertising)) :
      GapStep s n { s with lastState := n.newState } []

/-- A completed call takes one of the branches of `GapStep`. -/
theorem onGapStateChange_step {n : Notification} {s s' : GapState G} {out : List GapOutput}
    (h : onGapStateChange n s = some (s', out)) : GapStep s n s' out := by
  unfold onGapStateChange gapStateArm at h
  by_cases hconn : n.newState = .connected
  · rw [if_pos hconn] at h
    unfold connectedArm at h
    split_ifs at h with hop
    · cases h
      exact GapStep.established hconn hop
    · cases h
      exact GapStep.stillConnected hconn hop
  · rw [if_neg hconn] at h
    by_cases hlast : s.lastState = .connected
    · rw [if_pos ⟨hlast, hconn⟩] at h
      cases h
      exact GapStep.lost hconn hlast
    · rw [if_neg fun hboth => hlast hboth.1] at h
      by_cases htimeout : n.newState = .waiting ∧ s.lastState = .advertising
      · rw [if_pos htimeout] at h
        unfold advertisingStoppedArm at h
        split_ifs at h with hfast
        · cases h
          exact GapStep.slowedDown htimeout.1 htimeout.2 hfast
        · cases h
          exact GapStep.keptWaiting htimeout.1 htimeout.2 hfast
      · rw [if_neg htimeout] at h
        split_ifs at h with hstarted
        · unfold startedArm at h
          cases haddr : G.getBdAddr s.store with
          | none => simp [haddr] at h
          | some addr =>
              rw [haddr] at h
              cases h
              exact GapStep.started hstarted hlast haddr
        · cases h
          exact GapStep.unhandled hconn hlast htimeout

/-- A call always leaves its state behind as `LAST_STATE`. -/
theorem GapStep.lastState_eq {n : Notification} {s s' : GapState G} {out : List GapOutput}
    (h : GapStep s n s' out) : s'.lastState = n.newState := by
  cases h <;> rfl

/-- No call panics when the library knows its own address. -/
theorem onGapStateChange_total (haddr : G.KnowsAddress) (n : Notification) (s : GapState G) :
    (onGapStateChange n s).isSome := by
  have harm : (gapStateArm n s).isSome := by
    unfold gapStateArm startedArm
    rcases Option.isSome_iff_exists.mp (haddr s.store) with ⟨addr, hsome⟩
    rw [hsome]
    split_ifs <;> rfl
  rcases Option.isSome_iff_exists.mp harm with ⟨result, hresult⟩
  simp [onGapStateChange, hresult]

/-! ## Events among the outputs -/

/-- The events among the outputs of the callback. -/
def sentEvents (outputs : List GapOutput) : List AppEvent :=
  outputs.filterMap fun
    | .trySend event => some event
    | .enableAdvertising => none

@[simp]
theorem sentEvents_nil : sentEvents [] = [] :=
  rfl

@[simp]
theorem sentEvents_trySend (event : AppEvent) (outputs : List GapOutput) :
    sentEvents (.trySend event :: outputs) = event :: sentEvents outputs :=
  rfl

@[simp]
theorem sentEvents_enableAdvertising (outputs : List GapOutput) :
    sentEvents (.enableAdvertising :: outputs) = sentEvents outputs :=
  rfl

@[simp]
theorem sentEvents_append (left right : List GapOutput) :
    sentEvents (left ++ right) = sentEvents left ++ sentEvents right := by
  simp [sentEvents]

/-- A call offers at most one event. -/
theorem GapStep.sent_cases {n : Notification} {s s' : GapState G} {out : List GapOutput}
    (h : GapStep s n s' out) : sentEvents out = [] ∨ ∃ event, sentEvents out = [event] := by
  cases h with
  | established _ _ => exact Or.inr ⟨_, rfl⟩
  | lost _ _ => exact Or.inr ⟨_, rfl⟩
  | stillConnected _ _ => exact Or.inl rfl
  | slowedDown _ _ _ => exact Or.inl rfl
  | keptWaiting _ _ _ => exact Or.inl rfl
  | started _ _ _ => exact Or.inl rfl
  | unhandled _ _ _ => exact Or.inl rfl

/-! ## Notification sequences -/

/-- The state changes a sequence of notifications reports, starting from a last
known state. -/
def stateChanges : GapRoleState → List Notification → List (GapRoleState × GapRoleState)
  | _, [] => []
  | last, n :: ns => (last, n.newState) :: stateChanges n.newState ns

/-- The state reported last. -/
def lastNotified : GapRoleState → List Notification → GapRoleState
  | last, [] => last
  | _, n :: ns => lastNotified n.newState ns

/-- A state change that leaves `GAPROLE_CONNECTED`. -/
def isLinkLoss (change : GapRoleState × GapRoleState) : Bool :=
  change.1 = .connected && change.2 ≠ .connected

/-- A state change from advertising to waiting: advertising timed out. -/
def isAdvTimeout (change : GapRoleState × GapRoleState) : Bool :=
  change.1 = .advertising && change.2 = .waiting

/-- Executing notifications leaves the last one reported in `LAST_STATE`. -/
theorem exec_lastState {s last : GapState G} {ns : List Notification}
    {trace : List (Transition (GapState G) Notification GapOutput)}
    (h : (gapMachine G).exec s ns = some (trace, last)) :
    last.lastState = lastNotified s.lastState ns := by
  induction ns generalizing s trace with
  | nil =>
      simp only [exec_nil, Option.some.injEq, Prod.mk.injEq] at h
      simp [lastNotified, ← h.2]
  | cons n ns ih =>
      rcases exec_cons h with ⟨s', out, rest, hs, hrest, -⟩
      have hlast : s'.lastState = n.newState := (onGapStateChange_step hs).lastState_eq
      rw [ih hrest, hlast, lastNotified]

end PapajBadge
