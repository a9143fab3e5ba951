import PapajBadge.BlePeriph.TaskSafety

/-!
# Client configurations over link changes

The configuration tables are keyed by connection handle and outlive the links
that wrote them.  The module states once what a step can do to the entries of
both tables, and follows the entries through runs in which handles are reused.

Main results:

- Theorem `PeripheralStep.config_step`: a step writes one entry for a live link,
  clears the blinky entry of a disconnected handle, or keeps every entry.
- Theorem `notifications_reach_subscribers`: if no link takes over a handle that is
  still being notified, every notification goes to a link that enabled it.
- Theorem `disconnect_clears_both_iff`: handling a disconnect leaves both entries
  of the handle cleared exactly when the last Current Time configuration written
  on it was zero.
-/

namespace PapajBadge

open TransitionSystem

variable {G : GapRole} {A : GattServApp}

/-! ## Entries and accepted configurations -/

/-- The entry of a handle in the table of a service. -/
def Peripheral.entry (s : Peripheral G A) : Service → ConnHandle → UInt16
  | .blinky, c => A.readCharCfg c s.blinky.charCfg
  | .currentTime, c => A.readCharCfg c s.cts.charCfg

/-- The configuration writes that were accepted, with the service, the link and
the value. -/
def configurations (obs : List Obs) : List (Service × Link × UInt16) :=
  obs.filterMap fun
    | .cccWritten service link value => some (service, link, value)
    | _ => none

/-- The value accepted last by a service from a link that satisfies `p`. -/
def lastConfiguration (service : Service) (p : Link → Bool) (obs : List Obs) : Option UInt16 :=
  (((configurations obs).filter fun w => w.1 = service && p w.2.1).map fun w => w.2.2).getLast?

@[simp]
theorem configurations_append (left right : List Obs) :
    configurations (left ++ right) = configurations left ++ configurations right := by
  simp [configurations]

theorem configurations_gap (origin : Option Nat) (out : List GapOutput) :
    configurations (out.map (Peripheral.obsOfGap origin)) = [] := by
  apply List.filterMap_eq_nil_iff.mpr
  intro o ho
  rcases Peripheral.mem_obsOfGap ho with rfl | ⟨m, rfl⟩
  · rfl
  · rfl

/-- Steps without an accepted write change no last configuration. -/
theorem lastConfiguration_append_quiet {obs out : List Obs} (hout : configurations out = [])
    (service : Service) (p : Link → Bool) :
    lastConfiguration service p (obs ++ out) = lastConfiguration service p obs := by
  simp [lastConfiguration, hout]

/-- An accepted write is the last one of its service and link. -/
theorem lastConfiguration_append_hit {obs out : List Obs} {service : Service} {link : Link}
    {value : UInt16} (hout : configurations out = [(service, link, value)])
    {p : Link → Bool} (hp : p link = true) :
    lastConfiguration service p (obs ++ out) = some value := by
  simp [lastConfiguration, hout, hp]

/-- An accepted write of another service or link changes nothing. -/
theorem lastConfiguration_append_miss {obs out : List Obs} {service' : Service} {link : Link}
    {value : UInt16} (hout : configurations out = [(service', link, value)])
    {service : Service} {p : Link → Bool} (hmiss : service' = service → p link = false) :
    lastConfiguration service p (obs ++ out) = lastConfiguration service p obs := by
  by_cases hservice : service' = service
  · simp [lastConfiguration, hout, hmiss hservice]
  · simp [lastConfiguration, hout, hservice]

/-! ## What a step does to the entries -/

/-- The effect of a step on the configuration tables. -/
inductive ConfigStep (s s' : Peripheral G A) (out : List Obs) : Prop
  | written {service : Service} {link : Link} {value : UInt16} (hlive : link ∈ s.links)
      (hout : configurations out = [(service, link, value)])
      (hself : s'.entry service link.handle = value)
      (hother : ∀ service' c, (service', c) ≠ (service, link.handle) →
        s'.entry service' c = s.entry service' c)
  | cleared {c : ConnHandle} {origin : Option Nat} (hout : configurations out = [])
      (hqueued : ⟨.disconnected c, origin⟩ ∈ s.channel.items)
      (hblinky : s'.blinky.charCfg = A.initCharCfg c s.blinky.charCfg)
      (hcts : s'.cts.charCfg = s.cts.charCfg)
  | kept (hout : configurations out = [])
      (hkept : ∀ service c, s'.entry service c = s.entry service c)

/-- Every step writes one entry, clears one handle, or keeps all entries. -/
theorem PeripheralStep.config_step (hA : A.Lawful) {s s' : Peripheral G A} {a : Action}
    {out : List Obs} (h : PeripheralStep s a s' out) : ConfigStep s s' out := by
  cases h with
  | @callback _ n origin links nextLink gap gapOut hlinks hgap =>
      exact .kept (configurations_gap origin gapOut) fun service c => by cases service <;> rfl
  | @blinkyCcc req link charCfg hlink hwrite hccc =>
      rcases Peripheral.linkOn_eq_some hlink with ⟨hlive, hhandle⟩
      refine .written hlive rfl ?_ ?_
      · rw [hhandle]
        exact hA.write_self hwrite
      · intro service c hne
        cases service with
        | blinky =>
            have hc : c ≠ req.connHandle := by
              rintro rfl
              exact hne (by rw [hhandle])
            exact hA.write_other hwrite hc
        | currentTime => rfl
  | @ctsCcc req link charCfg hlink hwrite =>
      rcases Peripheral.linkOn_eq_some hlink with ⟨hlive, hhandle⟩
      refine .written hlive rfl ?_ ?_
      · rw [hhandle]
        exact hA.write_self hwrite
      · intro service c hne
        cases service with
        | blinky => rfl
        | currentTime =>
            have hc : c ≠ req.connHandle := by
              rintro rfl
              exact hne (by rw [hhandle])
            exact hA.write_other hwrite hc
  | @blinkyOther req blinky hcfg hccc =>
      refine .kept rfl fun service c => ?_
      cases service with
      | blinky => simp [Peripheral.entry, hcfg]
      | currentTime => rfl
  | @loopDisconnected c origin channel hloop hreceive =>
      exact .cleared rfl (BoundedFifo.mem_of_receive? hreceive) rfl rfl
  | ctsOther =>
      exact .kept (by simp [configurations]) fun service c => by cases service <;> rfl
  | tick hrunning hcopies =>
      exact .kept (by simp [configurations]) fun service c => by cases service <;> rfl
  | _ => exact .kept rfl fun service c => by cases service <;> rfl

/-! ## Handling a disconnect -/

/-- Clearing a handle leaves every entry as it was or zero. -/
theorem GattServApp.Lawful.read_init (hA : A.Lawful) (c c' : ConnHandle) (t : A.Table) :
    A.readCharCfg c' (A.initCharCfg c t) = 0 ∨
      A.readCharCfg c' (A.initCharCfg c t) = A.readCharCfg c' t := by
  by_cases hc : c = invalidConnHandle
  · left
    rw [hc]
    exact hA.init_all c' t
  · by_cases hc' : c' = c
    · left
      rw [hc']
      exact hA.init_self t hc
    · right
      exact hA.init_other t hc hc'

/-- The Current Time entry of a handle is the value written last on it. -/
def CtsEntriesWritten (trace : List (Step G A)) (s : Peripheral G A) : Prop :=
  ∀ c, s.entry .currentTime c =
    (lastConfiguration .currentTime (fun l => l.handle = c) (outputsOf trace)).getD 0

/-- In every run, the Current Time entries are the values written last: no step
clears them. -/
theorem ctsEntries_written (hA : A.Lawful) {trace : List (Step G A)} {s : Peripheral G A}
    (hrun : (peripheralMachine G A).Run trace s) : CtsEntriesWritten trace s := by
  induction hrun with
  | start hinit =>
      rcases hinit with ⟨profile, store, dataHandle, rfl⟩
      intro c
      exact hA.init_all c A.zeroed
  | @extend trace s a s' out _ hs ih =>
      intro c
      have hprev := ih c
      rw [outputsOf_append, outputsOf_cons, outputsOf_nil, List.append_nil]
      cases (Peripheral.step_sound hs).2.config_step hA with
      | @written service link value hlive hout hself hother =>
          by_cases hhit : service = .currentTime ∧ link.handle = c
          · rcases hhit with ⟨rfl, rfl⟩
            rw [lastConfiguration_append_hit hout (by simp), hself, Option.getD_some]
          · have hne : (Service.currentTime, c) ≠ (service, link.handle) := by
              intro heq
              cases heq
              exact hhit ⟨rfl, rfl⟩
            rw [hother .currentTime c hne, hprev]
            rw [lastConfiguration_append_miss hout]
            intro hservice
            have hc : link.handle ≠ c := fun hc => hhit ⟨hservice, hc⟩
            simpa using hc
      | cleared hout hqueued hblinky hcts =>
          rw [lastConfiguration_append_quiet hout, ← hprev, Peripheral.entry, hcts]
          rfl
      | kept hout hkept =>
          rw [lastConfiguration_append_quiet hout, ← hprev, hkept]

/-- No configuration of a handle is left, and those of other handles are as they
were. -/
structure SubscriptionsCleared (s s' : Peripheral G A) (c : ConnHandle) : Prop where
  cts : s'.entry .currentTime c = 0
  blinky : s'.entry .blinky c = 0
  others : ∀ service c', c' ≠ c → s'.entry service c' = s.entry service c'

/-- The loop's `Disconnected` arm clears the handle in the blinky table. -/
theorem PeripheralStep.disconnect_handled {s s' : Peripheral G A} {a : Action} {out : List Obs}
    (h : PeripheralStep s a s' out) {c : ConnHandle} {origin : Option Nat}
    (hhandled : .received .peripheralLoop ⟨.disconnected c, origin⟩ ∈ out) :
    ⟨.disconnected c, origin⟩ ∈ s.channel.items ∧
      s'.blinky.charCfg = A.initCharCfg c s.blinky.charCfg ∧ s'.cts = s.cts := by
  cases h with
  | @callback _ n origin' links nextLink gap gapOut hlinks hgap =>
      rcases Peripheral.mem_obsOfGap hhandled with heq | ⟨m, heq⟩
      · cases heq
      · cases heq
  | @loopDisconnected c' origin' channel hloop hreceive =>
      have hevent : c = c' ∧ origin = origin' := by simpa using hhandled
      rcases hevent with ⟨rfl, rfl⟩
      exact ⟨BoundedFifo.mem_of_receive? hreceive, rfl, rfl⟩
  | _ => simp at hhandled

/-- In every run, once the loop has handled the disconnect of a handle, no
configuration is left for it in either service and all others are unchanged,
exactly when the Current Time configuration written on that handle last, if any,
was zero. -/
theorem disconnect_clears_both_iff (hA : A.Lawful) {before : List (Step G A)}
    {s s' : Peripheral G A} {a : Action} {out : List Obs}
    (hrun : (peripheralMachine G A).Run before s)
    (hstep : (peripheralMachine G A).step s a = some (s', out)) {c : ConnHandle}
    {origin : Option Nat}
    (hhandled : .received .peripheralLoop ⟨.disconnected c, origin⟩ ∈ out) :
    SubscriptionsCleared s s' c ↔
      ∀ v ∈ lastConfiguration .currentTime (fun l => l.handle = c) (outputsOf before),
        v = 0 := by
  rcases (Peripheral.step_sound hstep).2.disconnect_handled hhandled with
    ⟨hqueued, hblinky, hcts⟩
  have hvalid := (disconnects_valid hrun).queued c origin hqueued
  have hkept : ∀ c', s'.entry .currentTime c' = s.entry .currentTime c' := by
    intro c'
    rw [Peripheral.entry, hcts]
    rfl
  have hwritten := ctsEntries_written hA hrun c
  constructor
  · intro hcleared v hv
    rw [Option.mem_def] at hv
    have hzero := hcleared.cts
    rw [hkept, hwritten, hv, Option.getD_some] at hzero
    exact hzero
  · intro hzero
    refine ⟨?_, ?_, ?_⟩
    · rw [hkept, hwritten]
      cases hlast : lastConfiguration .currentTime (fun l => l.handle = c) (outputsOf before) with
      | none => rfl
      | some v => exact hzero v hlast
    · rw [Peripheral.entry, hblinky]
      exact hA.init_self s.blinky.charCfg hvalid
    · intro service c' hc'
      cases service with
      | blinky =>
          rw [Peripheral.entry, hblinky]
          exact hA.init_other s.blinky.charCfg hvalid hc'
      | currentTime => exact hkept c'

/-- A client of the blinky service that leaves: the disconnect is next in line for
the loop. -/
def blinkyClientLeaves : List Action :=
  [.linkEstablished 0, .loopReceive, .loopTimer true, .blinkyWrite (cccRequest 0 1),
    .loopReceive, .linkLost 0 ⟨.waiting, ⟨0x06, 0⟩⟩]

theorem disconnect_clears_both_blinkyClientLeaves :
    ∃ before s s' out, badge.Run before s ∧
      before.map Transition.action = blinkyClientLeaves ∧
      badge.step s .loopReceive = some (s', out) ∧ s.entry .blinky 0 = 1 ∧
      SubscriptionsCleared s s' 0 := by
  have hcheck : ∃ result ∈ badge.exec badgeBoot blinkyClientLeaves,
      ∃ next ∈ badge.step result.2 .loopReceive,
        .received .peripheralLoop ⟨.disconnected 0, some 0⟩ ∈ next.2 ∧
          result.2.entry .blinky 0 = 1 ∧
          lastConfiguration .currentTime (fun l => l.handle = 0) (outputsOf result.1) = none := by
    decide
  rcases hcheck with ⟨⟨before, s⟩, hexec, ⟨s', out⟩, hstep, hhandled, hentry, hnone⟩
  have hrun := exec_run badge_initial hexec
  have hcleared : SubscriptionsCleared s s' 0 := by
    apply (disconnect_clears_both_iff slotTable_lawful hrun hstep hhandled).mpr
    intro v hv
    rw [hnone] at hv
    cases hv
  exact ⟨before, s, s', out, hrun, exec_actions hexec, hstep, hentry, hcleared⟩

/-- A client of the Current Time service that leaves. -/
def ctsClientLeaves : List Action :=
  [.linkEstablished 0, .loopReceive, .loopTimer true, .ctsWrite (cccRequest 0 1),
    .linkLost 0 ⟨.waiting, ⟨0x06, 0⟩⟩]

/-- Its configuration survives the handling of the disconnect. -/
theorem subscription_survives_ctsClientLeaves :
    ∃ before s s' out, badge.Run before s ∧
      before.map Transition.action = ctsClientLeaves ∧
      badge.step s .loopReceive = some (s', out) ∧
      .received .peripheralLoop ⟨.disconnected 0, some 0⟩ ∈ out ∧
      s'.entry .currentTime 0 = 1 ∧ ¬SubscriptionsCleared s s' 0 := by
  have hcheck : ∃ result ∈ badge.exec badgeBoot ctsClientLeaves,
      ∃ next ∈ badge.step result.2 .loopReceive,
        .received .peripheralLoop ⟨.disconnected 0, some 0⟩ ∈ next.2 ∧
          next.1.entry .currentTime 0 = 1 := by
    decide
  rcases hcheck with ⟨⟨before, s⟩, hexec, ⟨s', out⟩, hstep, hhandled, hentry⟩
  refine ⟨before, s, s', out, exec_run badge_initial hexec, exec_actions hexec, hstep,
    hhandled, hentry, ?_⟩
  intro hcleared
  have hzero := hcleared.cts
  rw [hentry] at hzero
  cases hzero

/-! ## Notifications and reused handles -/

/-- The notification task runs for the handle or is asked for by a queued event. -/
def Peripheral.TaskFor (s : Peripheral G A) (c : ConnHandle) : Prop :=
  s.notifier = some c ∨ ∃ m ∈ s.channel.items, m.event = .blinkySubscribed c

/-- The handle is notified at every tick, now or once the queue has drained that
far. -/
def Peripheral.Notified (s : Peripheral G A) (c : ConnHandle) : Prop :=
  s.entry .blinky c = 1 ∧ s.TaskFor c

instance (s : Peripheral G A) (c : ConnHandle) : Decidable (s.Notified c) :=
  inferInstanceAs (Decidable (_ ∧ (_ ∨ _)))

/-- No link is established on a handle that is still notified, and the task does
not tick between the loss of its link and the cleanup. -/
def NotifiesLiveLink (s : Peripheral G A) : Action → Prop
  | .linkEstablished c => ¬s.Notified c
  | .notifierTick _ => ∀ c ∈ s.notifier, s.entry .blinky c = 1 → s.linkOn c ≠ none
  | _ => True

-- The quantifier ranges over an option, not over all handles.
instance (s : Peripheral G A) : DecidablePred (NotifiesLiveLink s) := fun a =>
  match a with
  | .linkEstablished _ => inferInstanceAs (Decidable (¬_))
  | .notifierTick _ => Option.decidableForallMem s.notifier
  | .linkLost _ _ | .gapNotify _ | .blinkyWrite _ | .ctsWrite _ | .loopReceive
  | .loopTimer _ | .notifierReceive => isTrue trivial

/-- Every notification of the step goes to a live link whose last accepted
configuration of the blinky data was to notify. -/
def NotifiesSubscriber (before : List (Step G A)) (t : Step G A) : Prop :=
  ∀ c handle len buffer notified,
    .tick (.gattNotification c handle len buffer notified) ∈ t.outputs →
      ∃ l, t.pre.linkOn c = some l ∧
        lastConfiguration .blinky (fun l' => l' = l) (outputsOf before) = some 1

/-- A running task was running or asked for before. -/
theorem PeripheralStep.notifier_step {s s' : Peripheral G A} {a : Action} {out : List Obs}
    (h : PeripheralStep s a s' out) {c : ConnHandle} (hrunning : s'.notifier = some c) :
    s.TaskFor c := by
  cases h with
  | @loopSubscribed c' origin channel hloop hreceive hfree =>
      have hc : c' = c := Option.some.inj hrunning
      exact Or.inr ⟨⟨.blinkySubscribed c', origin⟩, BoundedFifo.mem_of_receive? hreceive,
        by rw [hc]⟩
  | notifierStops hrunning' hreceive hstops => cases hrunning
  | _ => exact Or.inl hrunning

/-- A subscription event is sent for an accepted configuration on its handle. -/
theorem PeripheralStep.subscribe_sent {s s' : Peripheral G A} {a : Action} {out : List Obs}
    (h : PeripheralStep s a s' out) {c : ConnHandle} {m : Message}
    (hm : m ∈ attemptedMessages out) (hevent : m.event = .blinkySubscribed c) :
    ∃ link value, configurations out = [(.blinky, link, value)] ∧ link.handle = c := by
  rcases h.attempted_cases hm with ⟨n, gapOut, -, hgap, hsent⟩ | ⟨req, link, hlink, heq, rfl⟩
  · have hother := hgap.no_subscribe m.event hsent
    rw [hevent] at hother
    cases hother
  · refine ⟨link, req.cccValue, rfl, ?_⟩
    rw [(Peripheral.linkOn_eq_some hlink).2]
    have hsent := (congrArg Message.event heq).symm.trans hevent
    rcases subscriptionEvent_cases req with hsub | hsub
    · exact AppEvent.blinkySubscribed.inj (hsub.symm.trans hsent)
    · cases hsub.symm.trans hsent

/-- A task for a handle comes only from an accepted configuration on it. -/
theorem PeripheralStep.taskFor_step {s s' : Peripheral G A} {a : Action} {out : List Obs}
    (h : PeripheralStep s a s' out) {c : ConnHandle} (htask : s'.TaskFor c) :
    s.TaskFor c ∨
      ∃ link value, configurations out = [(.blinky, link, value)] ∧ link.handle = c := by
  rcases htask with hrunning | ⟨m, hm, hevent⟩
  · exact Or.inl (h.notifier_step hrunning)
  · rcases h.queued_step hm with hold | hnew
    · exact Or.inl (Or.inr ⟨m, hold, hevent⟩)
    · exact Or.inr (h.subscribe_sent hnew hevent)

/-- Establishing a link makes no handle notified. -/
theorem PeripheralStep.notified_of_established {s s' : Peripheral G A} {c c' : ConnHandle}
    {out : List Obs} (h : PeripheralStep s (.linkEstablished c) s' out)
    (hnotified : s'.Notified c') : s.Notified c' := by
  have hquiet : configurations out = [] ∧ s'.blinky = s.blinky := by
    cases h with
    | @callback _ n origin links nextLink gap gapOut hlinks hgap =>
        exact ⟨configurations_gap origin gapOut, rfl⟩
    | callbackPanic hlinks hpanic => exact ⟨rfl, rfl⟩
  refine ⟨?_, ?_⟩
  · have hentry := hnotified.1
    rw [Peripheral.entry, hquiet.2] at hentry
    exact hentry
  · rcases h.taskFor_step hnotified.2 with htask | ⟨link, value, hout, -⟩
    · exact htask
    · rw [hquiet.1] at hout
      cases hout

/-- Handles are not shared, and a live link on a notified handle has enabled the
notifications itself. -/
structure SubscribersNotified (trace : List (Step G A)) (s : Peripheral G A) : Prop where
  distinct : HandlesDistinct s
  enabled : ∀ l ∈ s.links, s.Notified l.handle →
    lastConfiguration .blinky (fun l' => l' = l) (outputsOf trace) = some 1

theorem subscribersNotified_boot (profile : Profile) (store : G.Store) (dataHandle : UInt16) :
    SubscribersNotified [] (Peripheral.boot profile store dataHandle : Peripheral G A) where
  distinct := List.nodup_nil
  enabled := by
    intro l hl
    cases hl

/-- The configurations of the links that were live before the step. -/
theorem SubscribersNotified.enabled_step (hA : A.Lawful) {trace : List (Step G A)}
    {s s' : Peripheral G A} {a : Action} {out : List Obs} (hJ : SubscribersNotified trace s)
    (h : PeripheralStep s a s' out) {l : Link} (hl : l ∈ s.links)
    (hnotified : s'.Notified l.handle) :
    lastConfiguration .blinky (fun l' => l' = l) (outputsOf trace ++ out) = some 1 := by
  have htask := h.taskFor_step hnotified.2
  cases h.config_step hA with
  | @written service link value hlive hout hself hother =>
      by_cases hhit : service = .blinky ∧ link.handle = l.handle
      · rcases hhit with ⟨rfl, hhandle⟩
        have hlink : link = l := hJ.distinct.eq_of_handle hlive hl hhandle
        rw [lastConfiguration_append_hit hout (by simpa using hlink), ← hself, hhandle]
        exact congrArg some hnotified.1
      · have hne : (Service.blinky, l.handle) ≠ (service, link.handle) := by
          intro heq
          rw [Prod.mk.injEq] at heq
          exact hhit ⟨heq.1.symm, heq.2.symm⟩
        have hbefore : s.Notified l.handle := by
          refine ⟨(hother .blinky l.handle hne).symm.trans hnotified.1, ?_⟩
          rcases htask with hold | ⟨link', value', hout', hhandle'⟩
          · exact hold
          · rw [hout] at hout'
            cases hout'
            exact absurd ⟨rfl, hhandle'⟩ hhit
        rw [lastConfiguration_append_miss hout]
        · exact hJ.enabled l hl hbefore
        · intro hservice
          have hlink : link ≠ l := fun hlink => hhit ⟨hservice, by rw [hlink]⟩
          simpa using hlink
  | @cleared c origin hout hqueued hblinky hcts =>
      rw [lastConfiguration_append_quiet hout]
      apply hJ.enabled l hl
      refine ⟨?_, ?_⟩
      · have hentry := hnotified.1
        rw [Peripheral.entry, hblinky] at hentry
        rcases hA.read_init c l.handle s.blinky.charCfg with hzero | hsame
        · rw [hzero] at hentry
          cases hentry
        · exact hsame.symm.trans hentry
      · rcases htask with hold | ⟨link, value, hout', -⟩
        · exact hold
        · rw [hout] at hout'
          cases hout'
  | kept hout hkept =>
      rw [lastConfiguration_append_quiet hout]
      apply hJ.enabled l hl
      refine ⟨(hkept .blinky l.handle).symm.trans hnotified.1, ?_⟩
      rcases htask with hold | ⟨link, value, hout', -⟩
      · exact hold
      · rw [hout] at hout'
        cases hout'

/-- The invariant survives every permitted step. -/
theorem SubscribersNotified.step (hA : A.Lawful) {trace : List (Step G A)}
    {s s' : Peripheral G A} {a : Action} {out : List Obs} (hJ : SubscribersNotified trace s)
    (h : PeripheralStep s a s' out) (hlive : NotifiesLiveLink s a) :
    SubscribersNotified (trace ++ [⟨s, a, out, s'⟩]) s' where
  distinct := h.handlesDistinct hJ.distinct
  enabled := by
    intro l hl hnotified
    rw [outputsOf_append, outputsOf_cons, outputsOf_nil, List.append_nil]
    rcases h.live_step hl with hold | rfl
    · exact hJ.enabled_step hA h hold hnotified
    · exact absurd (h.notified_of_established hnotified) hlive

/-- A tick notifies the handle of the running task, whose entry is set. -/
theorem PeripheralStep.notification_sent {s s' : Peripheral G A} {a : Action} {out : List Obs}
    (h : PeripheralStep s a s' out) {c : ConnHandle} {handle len : UInt16}
    {buffer : Option Nat} {notified : Bool}
    (hm : .tick (.gattNotification c handle len buffer notified) ∈ out) :
    (∃ env, a = .notifierTick env) ∧ s.notifier = some c ∧ s.entry .blinky c = 1 := by
  cases h with
  | @callback _ n origin links nextLink gap gapOut hlinks hgap =>
      rcases Peripheral.mem_obsOfGap hm with heq | ⟨m, heq⟩
      · cases heq
      · cases heq
  | @tick c' env hrunning hcopies =>
      rcases List.mem_map.mp hm with ⟨o, ho, heq⟩
      cases heq
      rcases mem_notificationTick ho with ⟨rfl, hentry⟩
      exact ⟨⟨env, rfl⟩, hrunning, hentry⟩
  | tickPanic hrunning hpanics => simp [fillBuffer] at hm
  | ctsOther => simp at hm
  | _ => simp at hm

/-- In every run in which no link takes over a handle that is still notified and
no tick falls between the loss of a link and its cleanup, every notification goes
to a live link that enabled it itself. -/
theorem notifications_reach_subscribers (hA : A.Lawful) {before after : List (Step G A)}
    {t : Step G A} {s : Peripheral G A}
    (hrun : (peripheralMachine G A).Run (before ++ t :: after) s)
    (hlive : ∀ u ∈ before ++ t :: after, NotifiesLiveLink u.pre u.action) :
    NotifiesSubscriber before t := by
  refine Run.always_history ?_ ?_ ?_ hrun hlive (J := SubscribersNotified)
    (P := NotifiesSubscriber)
  · rintro s ⟨profile, store, dataHandle, rfl⟩
    exact subscribersNotified_boot profile store dataHandle
  · intro trace s a s' out hJ hlive hs
    exact hJ.step hA (Peripheral.step_sound hs).2 hlive
  · intro trace s a s' out hJ hlive hs c handle len buffer notified hm
    rcases (Peripheral.step_sound hs).2.notification_sent hm with
      ⟨⟨env, rfl⟩, hrunning, hentry⟩
    rcases Option.ne_none_iff_exists'.mp (hlive c hrunning hentry) with ⟨l, hlinkOn⟩
    rcases Peripheral.linkOn_eq_some hlinkOn with ⟨hl, rfl⟩
    exact ⟨l, hlinkOn, hJ.enabled l hl ⟨hentry, Or.inl hrunning⟩⟩

/-- A tick for which a buffer was found and the stack accepted the notification. -/
def tickAccepted : TickEnv where
  buffer := some 0
  adjacent := 0
  notified := true

/-- A client that subscribes and is notified. -/
def subscriberNotified : List Action :=
  [.linkEstablished 0, .loopReceive, .loopTimer true, .blinkyWrite (cccRequest 0 1),
    .loopReceive, .notifierTick tickAccepted]

theorem notifications_reach_subscribers_subscriberNotified :
    ∃ before t after s, badge.Run (before ++ t :: after) s ∧
      (before ++ t :: after).map Transition.action = subscriberNotified ∧
      .tick (.gattNotification 0 0x2A 2 (some 0) true) ∈ t.outputs ∧
      NotifiesSubscriber before t := by
  have hcheck : ∃ result ∈ badge.exec badgeBoot subscriberNotified,
      (∀ u ∈ result.1, NotifiesLiveLink u.pre u.action) ∧
        ∃ t ∈ result.1, .tick (.gattNotification 0 0x2A 2 (some 0) true) ∈ t.outputs := by
    decide
  rcases hcheck with ⟨⟨trace, s⟩, hexec, hlive, t, ht, hsent⟩
  rcases List.append_of_mem ht with ⟨before, after, rfl⟩
  have hrun := exec_run badge_initial hexec
  exact ⟨before, t, after, s, hrun, exec_actions hexec, hsent,
    notifications_reach_subscribers slotTable_lawful hrun hlive⟩

/-- A subscriber that leaves, and a client that connects on the same handle before
the disconnect has been handled. -/
def handleReused : List Action :=
  [.linkEstablished 0, .loopReceive, .loopTimer true, .blinkyWrite (cccRequest 0 1),
    .loopReceive, .linkLost 0 ⟨.waiting, ⟨0x06, 0⟩⟩, .linkEstablished 0]

/-- The new client, which never wrote a configuration, is notified. -/
theorem notification_strays_handleReused :
    ∃ before t s, badge.Run (before ++ [t]) s ∧
      (before ++ [t]).map Transition.action = handleReused ++ [.notifierTick tickAccepted] ∧
      t.pre.linkOn 0 = some ⟨0, 1⟩ ∧
      .tick (.gattNotification 0 0x2A 2 (some 0) true) ∈ t.outputs ∧
      lastConfiguration .blinky (fun l => l = ⟨0, 1⟩) (outputsOf before) = none ∧
      ¬NotifiesSubscriber before t := by
  have hcheck : ∃ result ∈ badge.exec badgeBoot handleReused,
      ∃ next ∈ badge.step result.2 (.notifierTick tickAccepted),
        result.2.linkOn 0 = some ⟨0, 1⟩ ∧
          .tick (.gattNotification 0 0x2A 2 (some 0) true) ∈ next.2 ∧
          lastConfiguration .blinky (fun l => l = ⟨0, 1⟩) (outputsOf result.1) = none := by
    decide
  rcases hcheck with ⟨⟨before, s⟩, hexec, ⟨s', out⟩, hstep, hlinkOn, hsent, hnone⟩
  have hrun := (exec_run badge_initial hexec).extend hstep
  refine ⟨before, ⟨s, .notifierTick tickAccepted, out, s'⟩, s', hrun, ?_, hlinkOn, hsent, hnone,
    ?_⟩
  · rw [List.map_append, exec_actions hexec]
    rfl
  · intro hreaches
    rcases hreaches 0 0x2A 2 (some 0) true hsent with ⟨l, hl, hlast⟩
    rw [hlinkOn] at hl
    cases hl
    rw [hnone] at hlast
    cases hlast

end PapajBadge
