import PapajBadge.Foundation.TransitionSystem

/-!
# Relating runs

Rules that relate the runs of a transition system to something simpler: to an automaton
that reads the outputs, to a register that is written now and then, to a measure that
steps consume, to the runs that are left when some actions are erased, and to the runs
of a more abstract system or of one inside.

Main results:

- Theorem `Run.accepted`: an automaton that follows every step accepts the outputs of
  every run.
- Theorem `Run.last_write`: a part of the state that every step either sets or keeps
  holds the value set last.
- Theorem `exec_countP_le`: the steps of an execution that consume a measure are no more
  than it, if the others add nothing to it.
- Theorem `exec_erase`: actions that leave a view of the state alone, when permitted, can
  be erased from an execution.
- Theorem `Run.erase`: and from a run.
- Theorem `Run.refine`: a run of a system that refines a more abstract one is answered by
  a run of the other.
- Theorem `Run.project`: a run of a system that wraps another one contains a run of the
  other.
-/

namespace TransitionSystem

variable {σ α ω τ β ν : Type*} {M : TransitionSystem σ α ω}

/-! ## Runs as executions -/

/-- An execution continued by a step. -/
theorem exec_snoc {s s' s'' : σ} {as : List α} {trace : List (Transition σ α ω)} {a : α}
    {out : List ω} (h : M.exec s as = some (trace, s')) (hstep : M.step s' a = some (s'', out)) :
    M.exec s (as ++ [a]) = some (trace ++ [⟨s', a, out, s''⟩], s'') := by
  induction as generalizing s trace with
  | nil =>
      simp only [exec_nil, Option.some.injEq, Prod.mk.injEq] at h
      rcases h with ⟨rfl, rfl⟩
      simp [exec, hstep]
  | cons b as ih =>
      rcases exec_cons h with ⟨t, out', rest, hs, hrest, rfl⟩
      simp [exec, hs, ih hrest]

/-- A run executes its actions from an initial state. -/
theorem Run.exists_exec {trace : List (Transition σ α ω)} {s : σ} (hrun : M.Run trace s) :
    ∃ s₀, M.initial s₀ ∧ M.exec s₀ (trace.map Transition.action) = some (trace, s) := by
  induction hrun with
  | @start s hinit => exact ⟨s, hinit, rfl⟩
  | @extend trace s a s' out _ hs ih =>
      rcases ih with ⟨s₀, hinit, hexec⟩
      refine ⟨s₀, hinit, ?_⟩
      rw [List.map_append]
      exact exec_snoc hexec hs

/-- A property that every permitted step keeps is kept by a permitted execution. -/
theorem exec_preserves {ok : α → Prop} {I : σ → Prop}
    (hstep : ∀ s a s' out, I s → ok a → M.step s a = some (s', out) → I s') {s : σ}
    {as : List α} {trace : List (Transition σ α ω)} {last : σ}
    (h : M.exec s as = some (trace, last)) (hok : ∀ a ∈ as, ok a) (hI : I s) : I last := by
  induction as generalizing s trace with
  | nil =>
      simp only [exec_nil, Option.some.injEq, Prod.mk.injEq] at h
      rwa [← h.2]
  | cons a as ih =>
      rcases exec_cons h with ⟨s', out, rest, hs, hrest, -⟩
      rw [List.forall_mem_cons] at hok
      exact ih hrest hok.2 (hstep s a s' out hI hok.1 hs)

/-! ## Automata that read the outputs -/

/-- Outputs that an automaton ignores leave it where it is. -/
theorem monitor_of_ignored {δ : τ → ω → Option τ} {q : τ} {os : List ω}
    (h : ∀ o ∈ os, δ q o = some q) : monitor δ q os = some q := by
  induction os with
  | nil => rfl
  | cons o os ih =>
      rw [List.forall_mem_cons] at h
      rw [monitor, h.1]
      exact ih h.2

/-- A relation between the states of an automaton and those of the system that every
step keeps, while the automaton reads the outputs of the step, carries over to whole
runs: the automaton accepts their outputs. -/
theorem Run.accepted {δ : τ → ω → Option τ} {R : τ → σ → Prop} {q₀ : τ}
    (hinit : ∀ s, M.initial s → R q₀ s)
    (hstep : ∀ q s a s' out, R q s → M.step s a = some (s', out) →
      ∃ q', monitor δ q out = some q' ∧ R q' s')
    {trace : List (Transition σ α ω)} {s : σ} (hrun : M.Run trace s) :
    ∃ q, monitor δ q₀ (outputsOf trace) = some q ∧ R q s := by
  induction hrun with
  | start h => exact ⟨q₀, rfl, hinit _ h⟩
  | @extend trace s a s' out _ hs ih =>
      rcases ih with ⟨q, hq, hR⟩
      rcases hstep q s a s' out hR hs with ⟨q', hq', hR'⟩
      refine ⟨q', ?_, hR'⟩
      rw [outputsOf_append, monitor_append hq, outputsOf_cons, outputsOf_nil, List.append_nil]
      exact hq'

/-! ## Registers -/

/-- The last value that the steps of a trace wrote, or the one before all of them. -/
def lastWrite (write : Transition σ α ω → Option β) (before : β)
    (trace : List (Transition σ α ω)) : β :=
  (trace.filterMap write).getLast?.getD before

/-- The step taken last writes the value, or leaves the one written before. -/
theorem lastWrite_snoc (write : Transition σ α ω → Option β) (before : β)
    (trace : List (Transition σ α ω)) (t : Transition σ α ω) :
    lastWrite write before (trace ++ [t]) = (write t).getD (lastWrite write before trace) := by
  cases hwrite : write t with
  | none => simp [lastWrite, hwrite]
  | some v => simp [lastWrite, hwrite]

/-- A part of the state that every step sets or keeps holds the value set last. -/
theorem Run.last_write {get : σ → β} {write : Transition σ α ω → Option β} {before : β}
    (hinit : ∀ s, M.initial s → get s = before)
    (hstep : ∀ s a s' out, M.step s a = some (s', out) →
      get s' = (write ⟨s, a, out, s'⟩).getD (get s))
    {trace : List (Transition σ α ω)} {s : σ} (hrun : M.Run trace s) :
    get s = lastWrite write before trace := by
  induction hrun with
  | start h => exact hinit _ h
  | @extend trace s a s' out _ hs ih =>
      rw [lastWrite_snoc, ← ih]
      exact hstep s a s' out hs

/-! ## Steps that consume a measure -/

/-- An execution takes at most as many consuming steps as its measure, if its other steps
add nothing to it. -/
theorem exec_countP_le {ok : α → Prop} {consumes : α → Bool} {measure : σ → ℕ}
    (hconsumes : ∀ s a s' out, consumes a = true → M.step s a = some (s', out) →
      measure s' < measure s)
    (hkeeps : ∀ s a s' out, ok a → consumes a = false → M.step s a = some (s', out) →
      measure s' ≤ measure s)
    {s : σ} {as : List α} {trace : List (Transition σ α ω)} {last : σ}
    (h : M.exec s as = some (trace, last)) (hok : ∀ a ∈ as, ok a) :
    as.countP consumes + measure last ≤ measure s := by
  induction as generalizing s trace with
  | nil =>
      simp only [exec_nil, Option.some.injEq, Prod.mk.injEq] at h
      simp [h.2]
  | cons a as ih =>
      rcases exec_cons h with ⟨s', out, rest, hs, hrest, rfl⟩
      rw [List.forall_mem_cons] at hok
      have htail := ih hrest hok.2
      cases ha : consumes a with
      | true =>
          have hhead := hconsumes s a s' out ha hs
          rw [List.countP_cons_of_pos ha]
          omega
      | false =>
          have hhead := hkeeps s a s' out hok.1 ha hs
          rw [List.countP_cons_of_neg (by simp [ha])]
          omega

/-! ## Erasing actions -/

/-- The actions of a class can be erased without a trace: a hidden one that is permitted
leaves the view and shows nothing, and the others do the same, as far as can be seen, in
states with the same view. -/
structure Erasable (M : TransitionSystem σ α ω) (permitted : σ → α → Prop) (hidden : α → Bool)
    (view : σ → ν) (shown : ω → Bool) : Prop where
  hidden_step : ∀ s a s' out, permitted s a → hidden a = true → M.step s a = some (s', out) →
    view s' = view s ∧ out.filter shown = []
  shown_step : ∀ s t a s' out, hidden a = false → view s = view t →
    M.step s a = some (s', out) →
    ∃ t' out', M.step t a = some (t', out') ∧ view s' = view t' ∧
      out.filter shown = out'.filter shown

/-- A permitted execution without its hidden actions is an execution that shows the
same. -/
theorem exec_erase {permitted : σ → α → Prop} {hidden : α → Bool} {view : σ → ν}
    {shown : ω → Bool} (herase : Erasable M permitted hidden view shown) {s t : σ}
    (hview : view s = view t) {as : List α} {trace : List (Transition σ α ω)} {last : σ}
    (h : M.exec s as = some (trace, last)) (hpermitted : ∀ t ∈ trace, permitted t.pre t.action) :
    ∃ trace' last', M.exec t (as.filter fun a => !hidden a) = some (trace', last') ∧
      view last = view last' ∧
      (outputsOf trace).filter shown = (outputsOf trace').filter shown := by
  induction as generalizing s t trace with
  | nil =>
      simp only [exec_nil, Option.some.injEq, Prod.mk.injEq] at h
      rcases h with ⟨rfl, rfl⟩
      exact ⟨[], t, rfl, hview, rfl⟩
  | cons a as ih =>
      rcases exec_cons h with ⟨s', out, rest, hs, hrest, rfl⟩
      rw [List.forall_mem_cons] at hpermitted
      cases ha : hidden a with
      | true =>
          rcases herase.hidden_step s a s' out hpermitted.1 ha hs with ⟨hsame, hout⟩
          rcases ih (hsame.trans hview) hrest hpermitted.2 with
            ⟨trace', last', hexec, hlast, hshown⟩
          refine ⟨trace', last', ?_, hlast, ?_⟩
          · simpa [ha] using hexec
          · rw [outputsOf_cons, List.filter_append, hout, List.nil_append, hshown]
      | false =>
          rcases herase.shown_step s t a s' out ha hview hs with ⟨t', out', ht, hview', hout⟩
          rcases ih hview' hrest hpermitted.2 with ⟨trace', last', hexec, hlast, hshown⟩
          refine ⟨⟨t, a, out', t'⟩ :: trace', last', ?_, hlast, ?_⟩
          · simp [ha, exec, ht, hexec]
          · rw [outputsOf_cons, outputsOf_cons, List.filter_append, List.filter_append, hout,
              hshown]

/-- A permitted run without its hidden actions is a run that shows the same. -/
theorem Run.erase {permitted : σ → α → Prop} {hidden : α → Bool} {view : σ → ν}
    {shown : ω → Bool} (herase : Erasable M permitted hidden view shown)
    {trace : List (Transition σ α ω)} {s : σ} (hrun : M.Run trace s)
    (hpermitted : ∀ t ∈ trace, permitted t.pre t.action) :
    ∃ trace' s', M.Run trace' s' ∧
      trace'.map Transition.action =
        (trace.map Transition.action).filter (fun a => !hidden a) ∧
      view s = view s' ∧ (outputsOf trace).filter shown = (outputsOf trace').filter shown := by
  rcases hrun.exists_exec with ⟨s₀, hinit, hexec⟩
  rcases exec_erase herase rfl hexec hpermitted with ⟨trace', s', hexec', hview, hshown⟩
  exact ⟨trace', s', exec_run hinit hexec', exec_actions hexec', hview, hshown⟩

/-! ## Refinement -/

section Refinement

variable {σ' α' ω' : Type*} {N : TransitionSystem σ' α' ω'}

/-- A system refines a more abstract one up to a relation: every permitted step is answered
by an execution of the events it stands for, which puts out what is seen of the step. -/
structure Refines (M : TransitionSystem σ α ω) (N : TransitionSystem σ' α' ω')
    (permitted : σ → α → Prop) (R : σ → σ' → Prop) (events : Transition σ α ω → List α')
    (seen : ω → Option ω') : Prop where
  init : ∀ s, M.initial s → ∃ t, N.initial t ∧ R s t
  step : ∀ s t a s' out, R s t → permitted s a → M.step s a = some (s', out) →
    ∃ answer t', N.exec t (events ⟨s, a, out, s'⟩) = some (answer, t') ∧
      outputsOf answer = out.filterMap seen ∧ R s' t'

/-- Every permitted run is answered by an abstract run of the events it stands for, which
puts out what is seen of the run. -/
theorem Run.refine {permitted : σ → α → Prop} {R : σ → σ' → Prop}
    {events : Transition σ α ω → List α'} {seen : ω → Option ω'}
    (hrefines : Refines M N permitted R events seen) {trace : List (Transition σ α ω)} {s : σ}
    (hrun : M.Run trace s) (hpermitted : ∀ t ∈ trace, permitted t.pre t.action) :
    ∃ trace' t, N.Run trace' t ∧ trace'.map Transition.action = trace.flatMap events ∧
      outputsOf trace' = (outputsOf trace).filterMap seen ∧ R s t := by
  induction hrun with
  | start hinit =>
      rcases hrefines.init _ hinit with ⟨t, ht, hR⟩
      exact ⟨[], t, .start ht, rfl, rfl, hR⟩
  | @extend trace s a s' out _ hs ih =>
      rcases ih fun t ht => hpermitted t (by simp [ht]) with
        ⟨trace', t, hrun', hactions, houtputs, hR⟩
      have hlast : permitted s a := hpermitted ⟨s, a, out, s'⟩ (by simp)
      rcases hrefines.step s t a s' out hR hlast hs with ⟨answer, t', hexec, hseen, hR'⟩
      refine ⟨trace' ++ answer, t', hrun'.append_exec hexec, ?_, ?_, hR'⟩
      · rw [List.map_append, hactions, exec_actions hexec]
        simp
      · rw [outputsOf_append, houtputs, hseen]
        simp

/-! ### Wrapping a system -/

/-- A system wraps another one: its actions are actions of the inner system or its own,
and only the former are seen inside. -/
structure Wraps (M : TransitionSystem σ α ω) (N : TransitionSystem σ' α' ω') (R : σ → σ' → Prop)
    (inner : α → Option α') (seen : ω → Option ω') : Prop where
  init : ∀ s, M.initial s → ∃ t, N.initial t ∧ R s t
  inner_step : ∀ s t a b s' out, R s t → inner a = some b → M.step s a = some (s', out) →
    ∃ t', N.step t b = some (t', out.filterMap seen) ∧ R s' t'
  own_step : ∀ s t a s' out, R s t → inner a = none → M.step s a = some (s', out) →
    R s' t ∧ out.filterMap seen = []

/-- A wrapping system refines the inner one: a step stands for its inner action, if it has
one. -/
theorem Wraps.refines {R : σ → σ' → Prop} {inner : α → Option α'} {seen : ω → Option ω'}
    (hwraps : Wraps M N R inner seen) :
    Refines M N (fun _ _ => True) R (fun t => (inner t.action).toList) seen where
  init := hwraps.init
  step := by
    intro s t a s' out hR _ hs
    cases ha : inner a with
    | none =>
        rcases hwraps.own_step s t a s' out hR ha hs with ⟨hR', hseen⟩
        exact ⟨[], t, rfl, hseen.symm, hR'⟩
    | some b =>
        rcases hwraps.inner_step s t a b s' out hR ha hs with ⟨t', ht, hR'⟩
        refine ⟨[⟨t, b, out.filterMap seen, t'⟩], t', ?_, ?_, hR'⟩
        · simp [exec, ht]
        · simp

/-- A run of the wrapping system contains a run of the inner one, of the inner actions
and with the observations that are seen inside. -/
theorem Run.project {R : σ → σ' → Prop} {inner : α → Option α'} {seen : ω → Option ω'}
    (hwraps : Wraps M N R inner seen) {trace : List (Transition σ α ω)} {s : σ}
    (hrun : M.Run trace s) :
    ∃ trace' t, N.Run trace' t ∧
      trace'.map Transition.action = (trace.map Transition.action).filterMap inner ∧
      outputsOf trace' = (outputsOf trace).filterMap seen ∧ R s t := by
  rcases hrun.refine hwraps.refines fun _ _ => trivial with
    ⟨trace', t, hrun', hactions, houtputs, hR⟩
  refine ⟨trace', t, hrun', ?_, houtputs, hR⟩
  rw [hactions, List.filterMap_map, List.filterMap_eq_flatMap_toList]
  rfl

end Refinement

end TransitionSystem
