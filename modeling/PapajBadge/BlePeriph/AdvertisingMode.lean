import Mathlib.Data.List.Induction
import PapajBadge.BlePeriph.GapStateChange

/-!
# Fast and slow advertising

The callback keeps no advertising mode.  It sets three stack parameters on a link
loss, and on an advertising timeout reads one of them back to find out which
values it set last.  The specification is a three-valued mode driven by losses
and timeouts; this module proves that the parameters always are the ones of the
mode and that advertising is requested as often as the mode says.

Main results:

- Theorem `GapStep.follows_mode`: one call moves the parameters as the mode moves
  and requests advertising when the mode does.
- Theorems `modeAfter_eq_fast_iff`, `modeAfter_eq_slow`, `modeAfter_eq_untouched`
  and `requestsFrom_eq`: the mode and the number of requests, read off the
  sequence of losses and timeouts.
- Theorem `advertising_follows_losses`: the two combined, for every sequence of
  notifications.
-/

namespace PapajBadge

open TransitionSystem

variable {G : GapRole}

/-! ## The advertising mode -/

/-- The state changes the advertising mode depends on. -/
inductive AdvPhase where
  | loss
  | timeout
deriving DecidableEq, Repr

/-- What a state change means for advertising, if anything. -/
def advPhase (change : GapRoleState × GapRoleState) : Option AdvPhase :=
  if isLinkLoss change then some .loss
  else if isAdvTimeout change then some .timeout
  else none

/-- The losses and timeouts among the state changes of a sequence. -/
def advPhases (last : GapRoleState) (ns : List Notification) : List AdvPhase :=
  (stateChanges last ns).filterMap advPhase

/-- The advertising parameters the program last chose. -/
inductive AdvMode where
  | untouched
  | fast
  | slow
deriving DecidableEq, Repr

/-- A loss selects fast advertising; a timeout of fast advertising selects slow
advertising. -/
def AdvMode.next : AdvMode → AdvPhase → AdvMode
  | _, .loss => .fast
  | .fast, .timeout => .slow
  | mode, .timeout => mode

/-- No timeout leads to fast advertising. -/
theorem AdvMode.next_timeout_ne_fast (mode : AdvMode) : mode.next .timeout ≠ .fast := by
  cases mode <;> simp [AdvMode.next]

/-- The mode after a sequence of losses and timeouts. -/
def modeAfter (mode : AdvMode) (phases : List AdvPhase) : AdvMode :=
  phases.foldl AdvMode.next mode

/-- Whether a loss or timeout makes the program request advertising. -/
def AdvMode.requests : AdvMode → AdvPhase → Nat
  | _, .loss => 1
  | .fast, .timeout => 1
  | _, .timeout => 0

/-- The number of advertising requests along a sequence. -/
def requestsFrom : AdvMode → List AdvPhase → Nat
  | _, [] => 0
  | mode, phase :: phases => mode.requests phase + requestsFrom (mode.next phase) phases

/-- The parameters of a mode, given the ones found at start. -/
def AdvMode.params (found : UInt16 × UInt16 × UInt16) : AdvMode → UInt16 × UInt16 × UInt16
  | .untouched => found
  | .fast => (defaultFastAdvInterval, defaultFastAdvInterval, defaultFastAdvDuration)
  | .slow => (defaultSlowAdvInterval, defaultSlowAdvInterval, defaultSlowAdvDuration)

/-- The minimum interval tells fast advertising from every other mode. -/
theorem AdvMode.params_fst_eq_fast_iff {found : UInt16 × UInt16 × UInt16}
    (hfound : found.1 ≠ defaultFastAdvInterval) (mode : AdvMode) :
    (mode.params found).1 = defaultFastAdvInterval ↔ mode = .fast := by
  cases mode with
  | untouched => simpa [AdvMode.params] using hfound
  | fast => simp [AdvMode.params]
  | slow => simp [AdvMode.params, defaultSlowAdvInterval, defaultFastAdvInterval]

/-! ## One call of the callback -/

/-- The triple of `TGAP_DISC_ADV_INT_MIN`, `TGAP_DISC_ADV_INT_MAX` and
`TGAP_GEN_DISC_ADV_MIN`. -/
def advParams (G : GapRole) (store : G.Store) : UInt16 × UInt16 × UInt16 :=
  (G.getParamValue .discAdvIntMin store, G.getParamValue .discAdvIntMax store,
    G.getParamValue .genDiscAdvMin store)

theorem advParams_setDiscAdv (hG : G.Lawful) (interval duration : UInt16) (store : G.Store) :
    advParams G (setDiscAdv interval duration store) = (interval, interval, duration) := by
  simp [advParams, setDiscAdv, hG.get_set_self, hG.get_set_other]

/-- The number of advertising requests among the outputs of the callback. -/
def advertRequests (outputs : List GapOutput) : Nat :=
  outputs.count .enableAdvertising

/-- One call takes the parameters from those of a mode to those of the next
mode, and requests advertising as that step of the mode does. -/
theorem GapStep.follows_mode (hG : G.Lawful) {n : Notification} {s s' : GapState G}
    {out : List GapOutput} (h : GapStep s n s' out) {found : UInt16 × UInt16 × UInt16}
    (hfound : found.1 ≠ defaultFastAdvInterval) {mode : AdvMode}
    (hmode : advParams G s.store = mode.params found) :
    match advPhase (s.lastState, n.newState) with
    | none => advParams G s'.store = mode.params found ∧ advertRequests out = 0
    | some phase =>
        advParams G s'.store = (mode.next phase).params found ∧
          advertRequests out = mode.requests phase := by
  have hfast : G.getParamValue .discAdvIntMin s.store = defaultFastAdvInterval ↔
      mode = .fast := by
    rw [← mode.params_fst_eq_fast_iff hfound, ← hmode, advParams]
  cases h with
  | established hstate _ =>
      simp [advPhase, isLinkLoss, isAdvTimeout, hstate, hmode, advertRequests]
  | stillConnected hstate _ =>
      simp [advPhase, isLinkLoss, isAdvTimeout, hstate, hmode, advertRequests]
  | lost hstate hlast =>
      simp [advPhase, isLinkLoss, hstate, hlast, advParams_setDiscAdv hG, AdvMode.next,
        AdvMode.params, AdvMode.requests, advertRequests]
  | slowedDown hstate hlast hparam =>
      have hm : mode = .fast := hfast.mp hparam
      simp [advPhase, isLinkLoss, isAdvTimeout, hstate, hlast, hm, advParams_setDiscAdv hG,
        AdvMode.next, AdvMode.params, AdvMode.requests, advertRequests]
  | keptWaiting hstate hlast hparam =>
      have hm : mode ≠ .fast := fun hm => hparam (hfast.mpr hm)
      cases mode with
      | fast => exact absurd rfl hm
      | untouched =>
          simp [advPhase, isLinkLoss, isAdvTimeout, hstate, hlast, AdvMode.next, hmode,
            AdvMode.requests, advertRequests]
      | slow =>
          simp [advPhase, isLinkLoss, isAdvTimeout, hstate, hlast, AdvMode.next, hmode,
            AdvMode.requests, advertRequests]
  | started hstate hlast _ =>
      simp [advPhase, isLinkLoss, isAdvTimeout, hstate, hlast, hmode, advertRequests]
  | unhandled hstate hlast htimeout =>
      have hphase : advPhase (s.lastState, n.newState) = none := by
        have hcomm : ¬(s.lastState = .advertising ∧ n.newState = .waiting) :=
          fun hboth => htimeout ⟨hboth.2, hboth.1⟩
        simp [advPhase, isLinkLoss, isAdvTimeout, hlast, hcomm]
      rw [hphase]
      exact ⟨hmode, rfl⟩

/-- Along an execution the parameters follow the mode, and advertising is
requested as often as the mode says. -/
theorem exec_follows_mode (hG : G.Lawful) {found : UInt16 × UInt16 × UInt16}
    (hfound : found.1 ≠ defaultFastAdvInterval) {s last : GapState G}
    {ns : List Notification} {trace : List (Transition (GapState G) Notification GapOutput)}
    (h : (gapMachine G).exec s ns = some (trace, last)) {mode : AdvMode}
    (hmode : advParams G s.store = mode.params found) :
    advParams G last.store = (modeAfter mode (advPhases s.lastState ns)).params found ∧
      advertRequests (outputsOf trace) = requestsFrom mode (advPhases s.lastState ns) := by
  induction ns generalizing s trace mode with
  | nil =>
      simp only [exec_nil, Option.some.injEq, Prod.mk.injEq] at h
      rcases h with ⟨rfl, rfl⟩
      exact ⟨hmode, rfl⟩
  | cons n ns ih =>
      rcases exec_cons h with ⟨s', out, rest, hs, hrest, rfl⟩
      have hstep := onGapStateChange_step hs
      have hone := hstep.follows_mode hG hfound hmode
      have hlast := hstep.lastState_eq
      cases hphase : advPhase (s.lastState, n.newState) with
      | none =>
          rw [hphase] at hone
          rcases ih hrest hone.1 with ⟨hparams, hcount⟩
          rw [hlast] at hparams hcount
          simp only [advPhases, stateChanges, List.filterMap_cons, hphase]
          refine ⟨hparams, ?_⟩
          rw [outputsOf_cons, advertRequests, List.count_append]
          rw [advertRequests] at hcount hone
          rw [hone.2, hcount, Nat.zero_add]
          rfl
      | some phase =>
          rw [hphase] at hone
          rcases ih hrest hone.1 with ⟨hparams, hcount⟩
          rw [hlast] at hparams hcount
          simp only [advPhases, stateChanges, List.filterMap_cons, hphase]
          refine ⟨hparams, ?_⟩
          rw [outputsOf_cons, advertRequests, List.count_append]
          rw [advertRequests] at hcount hone
          rw [hone.2, hcount]
          rfl

/-! ## The mode in terms of losses and timeouts -/

/-- The number of losses that are followed by a timeout before the next loss. -/
def timedOutLosses : List AdvPhase → Nat
  | [] => 0
  | .loss :: phases =>
      (if .timeout ∈ phases.takeWhile (· ≠ .loss) then 1 else 0) + timedOutLosses phases
  | .timeout :: phases => timedOutLosses phases

theorem modeAfter_append (mode : AdvMode) (left right : List AdvPhase) :
    modeAfter mode (left ++ right) = modeAfter (modeAfter mode left) right := by
  simp [modeAfter]

theorem modeAfter_cons (mode : AdvMode) (phase : AdvPhase) (phases : List AdvPhase) :
    modeAfter mode (phase :: phases) = modeAfter (mode.next phase) phases :=
  rfl

/-- Without a timeout, fast advertising stays fast. -/
theorem modeAfter_fast_of_no_timeout {phases : List AdvPhase} (h : .timeout ∉ phases) :
    modeAfter .fast phases = .fast := by
  induction phases with
  | nil => rfl
  | cons phase phases ih =>
      cases phase with
      | loss => exact ih fun hmem => h (List.mem_cons_of_mem _ hmem)
      | timeout => exact absurd List.mem_cons_self h

/-- Without a loss, a mode other than fast stays what it is. -/
theorem modeAfter_of_no_loss {mode : AdvMode} (hmode : mode ≠ .fast)
    {phases : List AdvPhase} (h : .loss ∉ phases) : modeAfter mode phases = mode := by
  induction phases with
  | nil => rfl
  | cons phase phases ih =>
      have hrest : .loss ∉ phases := fun hmem => h (List.mem_cons_of_mem _ hmem)
      cases phase with
      | loss => exact absurd List.mem_cons_self h
      | timeout =>
          rw [modeAfter_cons]
          cases mode with
          | fast => exact absurd rfl hmode
          | untouched => exact ih hrest
          | slow => exact ih hrest

/-- Advertising is in fast mode exactly when some loss has no timeout after it. -/
theorem modeAfter_eq_fast_iff (phases : List AdvPhase) :
    modeAfter .untouched phases = .fast ↔
      ∃ before after, phases = before ++ .loss :: after ∧ .timeout ∉ after := by
  constructor
  · intro h
    induction phases using List.reverseRecOn with
    | nil => simp [modeAfter] at h
    | append_singleton phases phase ih =>
        rw [modeAfter_append] at h
        cases phase with
        | loss => exact ⟨phases, [], rfl, by simp⟩
        | timeout => exact absurd h (AdvMode.next_timeout_ne_fast _)
  · rintro ⟨before, after, rfl, hafter⟩
    rw [modeAfter_append, modeAfter_cons]
    exact modeAfter_fast_of_no_timeout hafter

/-- A timeout after the last loss leaves advertising in slow mode. -/
theorem modeAfter_eq_slow {before after : List AdvPhase} (hloss : .loss ∉ after)
    (htimeout : .timeout ∈ after) (mode : AdvMode) :
    modeAfter mode (before ++ .loss :: after) = .slow := by
  rw [modeAfter_append, modeAfter_cons]
  cases after with
  | nil => simp at htimeout
  | cons phase after =>
      cases phase with
      | loss => exact absurd List.mem_cons_self hloss
      | timeout =>
          exact modeAfter_of_no_loss (by simp [AdvMode.next])
            fun hmem => hloss (List.mem_cons_of_mem _ hmem)

/-- Without a loss the parameters are the ones found at start. -/
theorem modeAfter_eq_untouched {phases : List AdvPhase} (h : .loss ∉ phases) :
    modeAfter .untouched phases = .untouched :=
  modeAfter_of_no_loss (by simp) h

/-- The requests along a sequence: one for a pending fast period that times out
before the next loss, one per loss, and one per loss that times out in turn. -/
theorem requestsFrom_eq (mode : AdvMode) (phases : List AdvPhase) :
    requestsFrom mode phases =
      (if mode = .fast ∧ .timeout ∈ phases.takeWhile (· ≠ .loss) then 1 else 0) +
        (phases.count .loss + timedOutLosses phases) := by
  induction phases generalizing mode with
  | nil => simp [requestsFrom, timedOutLosses]
  | cons phase phases ih =>
      rw [requestsFrom, ih]
      cases phase with
      | loss =>
          simp [AdvMode.next, AdvMode.requests, timedOutLosses]
          omega
      | timeout =>
          cases mode <;> simp [AdvMode.next, AdvMode.requests, timedOutLosses]

/-! ## Main theorem -/

/-- Whatever notifications arrive, the three parameters are the fast ones exactly
when some link loss has no advertising timeout after it, the slow ones when a
timeout came after the last loss, and still the ones found at start when there
was no loss; advertising is requested once per loss and once more for each loss
that is followed by a timeout before the next loss. -/
theorem advertising_follows_losses (hG : G.Lawful) (haddr : G.KnowsAddress)
    (store : G.Store) (hfound : G.getParamValue .discAdvIntMin store ≠ 32)
    (ns : List Notification) :
    ∃ trace last, (gapMachine G).exec (GapState.boot store) ns = some (trace, last) ∧
      (advParams G last.store = (32, 32, 30000) ↔
        ∃ before after, advPhases .init ns = before ++ .loss :: after ∧ .timeout ∉ after) ∧
      ((∃ before after, advPhases .init ns = before ++ .loss :: after ∧
          .loss ∉ after ∧ .timeout ∈ after) →
        advParams G last.store = (1600, 1600, 0)) ∧
      (.loss ∉ advPhases .init ns → advParams G last.store = advParams G store) ∧
      advertRequests (outputsOf trace) =
        (advPhases .init ns).count .loss + timedOutLosses (advPhases .init ns) := by
  rcases exec_total (M := gapMachine G) (fun s n => onGapStateChange_total haddr n s)
    (GapState.boot store) ns with ⟨trace, last, hexec⟩
  have hstart : advParams G (GapState.boot store).store =
      AdvMode.untouched.params (advParams G store) := rfl
  have hmain := exec_follows_mode hG hfound hexec hstart
  rcases hmain with ⟨hparams, hcount⟩
  have hboot : (GapState.boot store).lastState = .init := rfl
  rw [hboot] at hparams hcount
  refine ⟨trace, last, hexec, ?_, ?_, ?_, ?_⟩
  · rw [← modeAfter_eq_fast_iff, hparams]
    constructor
    · intro heq
      have hinterval : ((modeAfter .untouched (advPhases .init ns)).params
          (advParams G store)).1 = defaultFastAdvInterval := by
        rw [heq]
        rfl
      exact (AdvMode.params_fst_eq_fast_iff hfound _).mp hinterval
    · intro heq
      rw [heq]
      rfl
  · rintro ⟨before, after, hphases, hloss, htimeout⟩
    rw [hparams, hphases, modeAfter_eq_slow hloss htimeout]
    rfl
  · intro hloss
    rw [hparams, modeAfter_eq_untouched hloss]
    rfl
  · rw [hcount, requestsFrom_eq]
    simp

/-- A lost link, an advertising timeout, and a second timeout while already in
slow advertising. -/
def fadingOut : List Notification :=
  [⟨.connected, ⟨gapLinkEstablishedEvent, 0⟩⟩, ⟨.waiting, ⟨0x06, 0⟩⟩,
    ⟨.advertising, ⟨0, 0⟩⟩, ⟨.waiting, ⟨0, 0⟩⟩, ⟨.advertising, ⟨0, 0⟩⟩, ⟨.waiting, ⟨0, 0⟩⟩]

theorem advertising_follows_losses_fadingOut :
    advPhases .init fadingOut = [.loss, .timeout, .timeout] ∧
      ∃ trace last,
        (gapMachine (paramStore (Vector.replicate 6 0))).exec (GapState.boot fun _ => 0)
          fadingOut = some (trace, last) ∧
        advParams _ last.store = (1600, 1600, 0) ∧ advertRequests (outputsOf trace) = 2 := by
  have hphases : advPhases .init fadingOut = [.loss, .timeout, .timeout] := by decide
  refine ⟨hphases, ?_⟩
  rcases advertising_follows_losses (paramStore_lawful (Vector.replicate 6 0))
    (paramStore_knowsAddress _) (fun _ => 0) (by decide) fadingOut with
    ⟨trace, last, hexec, -, hslow, -, hcount⟩
  rw [hphases] at hslow hcount
  exact ⟨trace, last, hexec, hslow ⟨[], [.timeout, .timeout], rfl, by decide, by decide⟩, hcount⟩

end PapajBadge
