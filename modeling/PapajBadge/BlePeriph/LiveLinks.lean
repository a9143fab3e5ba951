import PapajBadge.BlePeriph.EventDelivery

/-!
# Live links and the events about them

Which links are live after a step, and which link events the state callback sends
for them.  A notification either announces a new link, and then the callback
offers its connect event, or it is quiet.

Main results:

- Theorems `PeripheralStep.links_step` and `PeripheralStep.live_step`: a link stays
  live until it is lost, and is live only after it was established.
- Theorem `handles_distinct`: in every run, no two live links share a handle.
- Theorem `disconnects_valid`: in every run, the disconnect events in the channel
  carry valid handles.
-/

namespace PapajBadge

open TransitionSystem

variable {G : GapRole} {A : GattServApp}

/-! ## Notifications of the role library -/

/-- A quiet notification sends no connect event and keeps `CONN_HANDLE`. -/
theorem GapStep.quiet_sends {s s' : GapState G} {n : Notification} {out : List GapOutput}
    {links : List Link} (h : GapStep s n s' out)
    (hquiet : Peripheral.quietNotification n links = true) :
    (∀ c, .connected c ∉ sentEvents out) ∧ s'.connHandle = s.connHandle := by
  cases h with
  | established hstate hop =>
      rw [Peripheral.quietNotification, hstate, hop] at hquiet
      simp at hquiet
  | _ => exact ⟨fun c => by simp, rfl⟩

/-- A quiet notification reports `GAPROLE_CONNECTED` only while a link is live. -/
theorem quietNotification_connected {n : Notification} {links : List Link}
    (hquiet : Peripheral.quietNotification n links = true) (hstate : n.newState = .connected) :
    links ≠ [] := by
  rw [Peripheral.quietNotification, hstate] at hquiet
  intro hempty
  simp [hempty] at hquiet

/-- The call for a new link sends its connect event and stores its handle. -/
theorem GapStep.established_sends {s s' : GapState G} {c : ConnHandle} {out : List GapOutput}
    (h : GapStep s ⟨.connected, ⟨gapLinkEstablishedEvent, c⟩⟩ s' out) :
    sentEvents out = [.connected c] ∧ s'.connHandle = c := by
  cases h with
  | established hstate hop => exact ⟨rfl, rfl⟩
  | stillConnected hstate hop => exact absurd rfl hop
  | lost hstate hlast => exact absurd rfl hstate
  | unhandled hstate hlast htimeout => exact absurd rfl hstate
  | slowedDown hstate hlast hfast => cases hstate
  | keptWaiting hstate hlast hslow => cases hstate
  | started hstate hlast haddr => cases hstate

/-- A disconnect event is sent for `CONN_HANDLE` by the call that leaves
`GAPROLE_CONNECTED`. -/
theorem GapStep.disconnect_sent {s s' : GapState G} {n : Notification} {out : List GapOutput}
    (h : GapStep s n s' out) {c : ConnHandle} (hsent : .disconnected c ∈ sentEvents out) :
    s.lastState = .connected ∧ c = s.connHandle := by
  cases h with
  | lost hstate hlast => exact ⟨hlast, by simpa using hsent⟩
  | established hstate hop => simp at hsent
  | _ => cases hsent

/-- The call for a new link does not panic. -/
theorem onGapStateChange_established_ne_none (s : GapState G) (c : ConnHandle) :
    onGapStateChange ⟨.connected, ⟨gapLinkEstablishedEvent, c⟩⟩ s ≠ none := by
  simp [onGapStateChange, gapStateArm]

/-! ## Changes of the links -/

section LinkChange

variable {s : Peripheral G A} {a : Action} {n : Notification} {origin : Option Nat}
  {links : List Link} {nextLink : Nat}

/-- A change of the links comes with a quiet notification or announces a new link. -/
theorem LinkChange.quiet_or_established (h : LinkChange s a n origin links nextLink) :
    Peripheral.quietNotification n links = true ∨
      ∃ c, c ≠ invalidConnHandle ∧ n = ⟨.connected, ⟨gapLinkEstablishedEvent, c⟩⟩ ∧
        ⟨c, s.nextLink⟩ ∈ links ∧ origin = some s.nextLink := by
  cases h with
  | @established c hvalid hfree => exact Or.inr ⟨c, hvalid, rfl, by simp, rfl⟩
  | lost hlink hquiet => exact Or.inl hquiet
  | unchanged hquiet => exact Or.inl hquiet

/-- A link stays live unless it is the one that is lost. -/
theorem LinkChange.survives (h : LinkChange s a n origin links nextLink) {l : Link}
    (hl : l ∈ s.links) : l ∈ links ∨ ∃ n, a = .linkLost l.handle n := by
  cases h with
  | established hvalid hfree => exact Or.inl (List.mem_append_left _ hl)
  | @lost c n link hlink hquiet =>
      by_cases hc : l.handle = c
      · exact Or.inr ⟨n, by rw [hc]⟩
      · exact Or.inl (List.mem_filter.mpr ⟨hl, by simpa using hc⟩)
  | unchanged hquiet => exact Or.inl hl

/-- A live link was live before unless it is the one that is established. -/
theorem LinkChange.live_before (h : LinkChange s a n origin links nextLink) {l : Link}
    (hl : l ∈ links) : l ∈ s.links ∨ a = .linkEstablished l.handle := by
  cases h with
  | @established c hvalid hfree =>
      rcases List.mem_append.mp hl with hold | hnew
      · exact Or.inl hold
      · rw [List.mem_singleton.mp hnew]
        exact Or.inr rfl
  | lost hlink hquiet => exact Or.inl (List.mem_filter.mp hl).1
  | unchanged hquiet => exact Or.inl hl

/-- A quiet notification finds a link live only if there was one before. -/
theorem LinkChange.links_ne_nil (h : LinkChange s a n origin links nextLink)
    (hquiet : Peripheral.quietNotification n links = true) (hlinks : links ≠ []) :
    s.links ≠ [] := by
  rcases List.exists_mem_of_ne_nil links hlinks with ⟨l, hl⟩
  rcases h.live_before hl with hold | rfl
  · exact List.ne_nil_of_mem hold
  · cases h
    simp [Peripheral.quietNotification] at hquiet

end LinkChange

/-- The links change only around a call of the state callback. -/
theorem PeripheralStep.links_cases {s s' : Peripheral G A} {a : Action} {out : List Obs}
    (h : PeripheralStep s a s' out) :
    (∃ n origin, LinkChange s a n origin s'.links s'.nextLink) ∨ s'.links = s.links := by
  cases h with
  | @callback _ n origin links nextLink gap gapOut hlinks hgap => exact Or.inl ⟨n, origin, hlinks⟩
  | @callbackPanic _ n origin links nextLink hlinks hpanic => exact Or.inl ⟨n, origin, hlinks⟩
  | _ => exact Or.inr rfl

/-- A link stays live until it is lost. -/
theorem PeripheralStep.links_step {s s' : Peripheral G A} {a : Action} {out : List Obs}
    (h : PeripheralStep s a s' out) {l : Link} (hl : l ∈ s.links) :
    l ∈ s'.links ∨ ∃ n, a = .linkLost l.handle n := by
  rcases h.links_cases with ⟨n, origin, hlinks⟩ | hlinks
  · exact hlinks.survives hl
  · rw [hlinks]
    exact Or.inl hl

/-- A live link was live before or has just been established. -/
theorem PeripheralStep.live_step {s s' : Peripheral G A} {a : Action} {out : List Obs}
    (h : PeripheralStep s a s' out) {l : Link} (hl : l ∈ s'.links) :
    l ∈ s.links ∨ a = .linkEstablished l.handle := by
  rcases h.links_cases with ⟨n, origin, hlinks⟩ | hlinks
  · exact hlinks.live_before hl
  · rw [hlinks] at hl
    exact Or.inl hl

/-! ## Handles of live links -/

/-- The live link on a handle is live and has that handle. -/
theorem Peripheral.linkOn_eq_some {s : Peripheral G A} {c : ConnHandle} {l : Link}
    (h : s.linkOn c = some l) : l ∈ s.links ∧ l.handle = c := by
  have hmem := List.mem_of_find?_eq_some h
  have hhandle := List.find?_some h
  exact ⟨hmem, by simpa using hhandle⟩

/-- At most one live link uses a handle. -/
def HandlesDistinct (s : Peripheral G A) : Prop :=
  (s.links.map Link.handle).Nodup

/-- Live links with the same handle are the same. -/
theorem HandlesDistinct.eq_of_handle {s : Peripheral G A} (hdistinct : HandlesDistinct s)
    {l l' : Link} (hl : l ∈ s.links) (hl' : l' ∈ s.links) (hhandle : l.handle = l'.handle) :
    l = l' :=
  List.inj_on_of_nodup_map hdistinct hl hl' hhandle

/-- A new link takes a free handle. -/
theorem LinkChange.handlesDistinct {s : Peripheral G A} {a : Action} {n : Notification}
    {origin : Option Nat} {links : List Link} {nextLink : Nat}
    (h : LinkChange s a n origin links nextLink) (hdistinct : HandlesDistinct s) :
    (links.map Link.handle).Nodup := by
  cases h with
  | @established c hvalid hfree =>
      have hnew : c ∉ s.links.map Link.handle := by
        intro hmem
        rcases List.mem_map.mp hmem with ⟨l, hl, hhandle⟩
        have hnone := List.find?_eq_none.mp hfree l hl
        simp [hhandle] at hnone
      rw [List.map_append, List.map_singleton]
      exact hdistinct.append (List.nodup_singleton c) (by simpa using hnew)
  | lost hlink hquiet => exact hdistinct.sublist (List.filter_sublist.map Link.handle)
  | unchanged hquiet => exact hdistinct

theorem PeripheralStep.handlesDistinct {s s' : Peripheral G A} {a : Action} {out : List Obs}
    (h : PeripheralStep s a s' out) (hdistinct : HandlesDistinct s) : HandlesDistinct s' := by
  rcases h.links_cases with ⟨n, origin, hlinks⟩ | hlinks
  · exact hlinks.handlesDistinct hdistinct
  · rw [HandlesDistinct, hlinks]
    exact hdistinct

/-- In every run, no two live links share a handle. -/
theorem handles_distinct {trace : List (Step G A)} {s : Peripheral G A}
    (hrun : (peripheralMachine G A).Run trace s) : HandlesDistinct s := by
  refine hrun.invariant ?_ ?_
  · rintro s ⟨profile, store, dataHandle, rfl⟩
    exact List.nodup_nil
  · intro s a s' out hdistinct hs
    exact (Peripheral.step_sound hs).2.handlesDistinct hdistinct

/-! ## Connect and disconnect events -/

/-- A configuration write reports neither a connect nor a disconnect. -/
theorem subscriptionEvent_cases (req : WriteRequest) :
    subscriptionEvent req = .blinkySubscribed req.connHandle ∨
      subscriptionEvent req = .blinkyUnsubscribed req.connHandle := by
  unfold subscriptionEvent
  split_ifs
  · exact Or.inl rfl
  · exact Or.inr rfl

/-- An event about a link. -/
def isLinkEvent : AppEvent → Bool
  | .connected _ => true
  | .disconnected _ => true
  | _ => false

/-- The state callback sends link events only. -/
theorem GapStep.sends_linkEvents {s s' : GapState G} {n : Notification} {out : List GapOutput}
    (h : GapStep s n s' out) : ∀ event ∈ sentEvents out, isLinkEvent event = true := by
  intro event hevent
  cases h with
  | established hstate hop =>
      rw [List.mem_singleton.mp hevent]
      rfl
  | lost hstate hlast =>
      rw [List.mem_singleton.mp hevent]
      rfl
  | _ => cases hevent

/-- A connect event is sent for the link that is established in the same step. -/
theorem PeripheralStep.connect_sent {s s' : Peripheral G A} {a : Action} {out : List Obs}
    (h : PeripheralStep s a s' out) {c : ConnHandle} {origin : Option Nat}
    (hm : ⟨.connected c, origin⟩ ∈ attemptedMessages out) :
    ∃ l ∈ s'.links, l.handle = c ∧ origin = some l.id := by
  rcases h.attempted_cases hm with ⟨n, gapOut, hlinks, hgap, hevent⟩ | ⟨req, link, -, heq, -⟩
  · rcases hlinks.quiet_or_established with hquiet | ⟨c', -, rfl, hnew, horigin⟩
    · exact absurd hevent ((hgap.quiet_sends hquiet).1 c)
    · rw [hgap.established_sends.1] at hevent
      have hc : c = c' := by simpa using hevent
      exact ⟨⟨c', s.nextLink⟩, hnew, hc.symm, horigin⟩
  · have hevent := congrArg Message.event heq
    rcases subscriptionEvent_cases req with hsub | hsub
    · cases hevent.trans hsub
    · cases hevent.trans hsub

/-- A disconnect event is sent for the handle in `CONN_HANDLE`, and only in a state
that counts as connected. -/
theorem PeripheralStep.disconnect_sent {s s' : Peripheral G A} {a : Action} {out : List Obs}
    (h : PeripheralStep s a s' out) {c : ConnHandle} {origin : Option Nat}
    (hm : ⟨.disconnected c, origin⟩ ∈ attemptedMessages out) :
    s.gap.lastState = .connected ∧ c = s.gap.connHandle := by
  rcases h.attempted_cases hm with ⟨n, gapOut, hlinks, hgap, hevent⟩ | ⟨req, link, -, heq, -⟩
  · exact hgap.disconnect_sent hevent
  · have hevent := congrArg Message.event heq
    rcases subscriptionEvent_cases req with hsub | hsub
    · cases hevent.trans hsub
    · cases hevent.trans hsub

/-- The callback reports the link that is lost by a valid handle: `CONN_HANDLE` is
valid as long as a link is live or counts as connected, and so is the handle of
every queued disconnect. -/
structure DisconnectsValid (s : Peripheral G A) : Prop where
  current : s.links ≠ [] ∨ s.gap.lastState = .connected → s.gap.connHandle ≠ invalidConnHandle
  queued : ∀ c origin, ⟨.disconnected c, origin⟩ ∈ s.channel.items → c ≠ invalidConnHandle

theorem disconnectsValid_boot (profile : Profile) (store : G.Store) (dataHandle : UInt16) :
    DisconnectsValid (Peripheral.boot profile store dataHandle : Peripheral G A) where
  current := by
    intro hlive
    rcases hlive with hlinks | hstate
    · exact absurd rfl hlinks
    · cases hstate
  queued := by
    intro c origin hm
    cases hm

/-- The handle of a live link stays in `CONN_HANDLE`. -/
theorem PeripheralStep.current_valid {s s' : Peripheral G A} {a : Action} {out : List Obs}
    (h : PeripheralStep s a s' out) (hvalid : DisconnectsValid s)
    (hlive : s'.links ≠ [] ∨ s'.gap.lastState = .connected) :
    s'.gap.connHandle ≠ invalidConnHandle := by
  cases h with
  | @callback _ n origin links nextLink gap gapOut hlinks hgap =>
      rcases hlinks.quiet_or_established with hquiet | ⟨c, hc, rfl, -, -⟩
      · have hnonempty : links ≠ [] := by
          rcases hlive with hlinks' | hstate
          · exact hlinks'
          · exact quietNotification_connected hquiet (hgap.lastState_eq.symm.trans hstate)
        have hcurrent := hvalid.current (Or.inl (hlinks.links_ne_nil hquiet hnonempty))
        rwa [← (hgap.quiet_sends hquiet).2] at hcurrent
      · rw [hgap.established_sends.2]
        exact hc
  | @callbackPanic _ n origin links nextLink hlinks hpanic =>
      rcases hlinks.quiet_or_established with hquiet | ⟨c, hc, rfl, -, -⟩
      · apply hvalid.current
        exact hlive.imp_left fun hlinks' => hlinks.links_ne_nil hquiet hlinks'
      · exact absurd hpanic (onGapStateChange_established_ne_none s.gap c)
  | _ => exact hvalid.current hlive

theorem PeripheralStep.disconnectsValid {s s' : Peripheral G A} {a : Action} {out : List Obs}
    (h : PeripheralStep s a s' out) (hvalid : DisconnectsValid s) : DisconnectsValid s' where
  current := h.current_valid hvalid
  queued := by
    intro c origin hm
    rcases h.queued_step hm with hold | hnew
    · exact hvalid.queued c origin hold
    · rcases h.disconnect_sent hnew with ⟨hstate, rfl⟩
      exact hvalid.current (Or.inr hstate)

/-- In every run, queued disconnects carry valid handles. -/
theorem disconnects_valid {trace : List (Step G A)} {s : Peripheral G A}
    (hrun : (peripheralMachine G A).Run trace s) : DisconnectsValid s := by
  refine hrun.invariant ?_ ?_
  · rintro s ⟨profile, store, dataHandle, rfl⟩
    exact disconnectsValid_boot profile store dataHandle
  · intro s a s' out hvalid hs
    exact (Peripheral.step_sound hs).2.disconnectsValid hvalid

end PapajBadge
