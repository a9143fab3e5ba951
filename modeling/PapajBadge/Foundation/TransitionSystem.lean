import Mathlib.Data.List.Basic

/-!
# Transition systems with outputs

A small library for systems that take one atomic step at a time.  An action is
either disabled in a state or yields one successor together with the outputs of
the step, so every nondeterministic choice (who is scheduled, which outcome a
foreign call has) is part of the action.

Main results:

- Theorem `Run.invariant`: a state property that holds initially and survives every
  step holds at the end of every run.
- Theorem `Run.history_invariant`: a relation between the trace so far and the
  current state that holds initially and survives every permitted step holds at
  the end of every run whose steps were all permitted.
- Theorems `Run.always_history` and `Run.always`: with an invariant at hand, a
  property of single steps holds of every step of every permitted run.
- Theorem `exec_run`: executing a list of actions produces a run.
- Theorem `exec_monitor`: an automaton that reads the outputs of each step from
  the abstraction of its first state to the abstraction of its last one reads
  the outputs of a whole execution in the same way.
-/

/-- A partial transition system whose steps are labelled by actions and produce
a list of outputs. -/
structure TransitionSystem (σ α ω : Type*) where
  initial : σ → Prop
  step : σ → α → Option (σ × List ω)

namespace TransitionSystem

/-- One executed step. -/
structure Transition (σ α ω : Type*) where
  pre : σ
  action : α
  outputs : List ω
  post : σ

variable {σ α ω τ : Type*} {M : TransitionSystem σ α ω}

/-- Everything a trace has put out, in order. -/
def outputsOf (trace : List (Transition σ α ω)) : List ω :=
  trace.flatMap Transition.outputs

@[simp]
theorem outputsOf_nil : outputsOf ([] : List (Transition σ α ω)) = [] :=
  rfl

@[simp]
theorem outputsOf_cons (t : Transition σ α ω) (trace : List (Transition σ α ω)) :
    outputsOf (t :: trace) = t.outputs ++ outputsOf trace :=
  rfl

@[simp]
theorem outputsOf_append (left right : List (Transition σ α ω)) :
    outputsOf (left ++ right) = outputsOf left ++ outputsOf right := by
  simp [outputsOf]

/-! ## Runs -/

/-- The finite runs from an initial state, with the steps they took. -/
inductive Run (M : TransitionSystem σ α ω) : List (Transition σ α ω) → σ → Prop
  | start {s : σ} (hinit : M.initial s) : Run M [] s
  | extend {trace : List (Transition σ α ω)} {s : σ} {a : α} {s' : σ} {out : List ω}
      (hrun : Run M trace s) (hstep : M.step s a = some (s', out)) :
      Run M (trace ++ [⟨s, a, out, s'⟩]) s'

/-- A state property that holds initially and survives every step holds after
every run. -/
theorem Run.invariant {I : σ → Prop} (hinit : ∀ s, M.initial s → I s)
    (hstep : ∀ s a s' out, I s → M.step s a = some (s', out) → I s')
    {trace : List (Transition σ α ω)} {s : σ} (hrun : M.Run trace s) : I s := by
  induction hrun with
  | start h => exact hinit _ h
  | @extend trace s a s' out _ hs ih => exact hstep s a s' out ih hs

/-- A relation between history and state that is preserved by every permitted
step holds after every run all of whose steps were permitted. -/
theorem Run.history_invariant {ok : σ → α → Prop}
    {J : List (Transition σ α ω) → σ → Prop}
    (hinit : ∀ s, M.initial s → J [] s)
    (hstep : ∀ trace s a s' out, J trace s → ok s a → M.step s a = some (s', out) →
      J (trace ++ [⟨s, a, out, s'⟩]) s')
    {trace : List (Transition σ α ω)} {s : σ} (hrun : M.Run trace s)
    (hok : ∀ t ∈ trace, ok t.pre t.action) : J trace s := by
  induction hrun with
  | start h => exact hinit _ h
  | @extend trace s a s' out _ hs ih =>
      have hprev : J trace s := ih fun t ht => hok t (by simp [ht])
      exact hstep trace s a s' out hprev (hok ⟨s, a, out, s'⟩ (by simp)) hs

/-- Cutting a run just before one of its steps leaves a run, and the step is a
step of the system. -/
theorem Run.split {before after : List (Transition σ α ω)} {t : Transition σ α ω} {s : σ}
    (hrun : M.Run (before ++ t :: after) s) :
    M.Run before t.pre ∧ M.step t.pre t.action = some (t.post, t.outputs) := by
  generalize htrace : before ++ t :: after = trace at hrun
  induction hrun generalizing after with
  | start _ => simp at htrace
  | @extend trace s a s' out hprev hs ih =>
      rcases List.eq_nil_or_concat after with rfl | ⟨init, last, rfl⟩
      · have hlast := List.append_inj' htrace rfl
        rcases hlast with ⟨rfl, hlast⟩
        rw [List.cons.injEq] at hlast
        rcases hlast with ⟨rfl, -⟩
        exact ⟨hprev, hs⟩
      · have hsnoc : (before ++ t :: init) ++ [last] = trace ++ [⟨s, a, out, s'⟩] := by
          simpa using htrace
        exact ih (List.append_inj' hsnoc rfl).1

/-- A property of a step and the history before it holds throughout every
permitted run when it follows from a permitted history invariant. -/
theorem Run.always_history {ok : σ → α → Prop} {J : List (Transition σ α ω) → σ → Prop}
    {P : List (Transition σ α ω) → Transition σ α ω → Prop}
    (hinit : ∀ s, M.initial s → J [] s)
    (hstep : ∀ trace s a s' out, J trace s → ok s a → M.step s a = some (s', out) →
      J (trace ++ [⟨s, a, out, s'⟩]) s')
    (hP : ∀ trace s a s' out, J trace s → ok s a → M.step s a = some (s', out) →
      P trace ⟨s, a, out, s'⟩)
    {before after : List (Transition σ α ω)} {t : Transition σ α ω} {s : σ}
    (hrun : M.Run (before ++ t :: after) s)
    (hok : ∀ u ∈ before ++ t :: after, ok u.pre u.action) : P before t := by
  rcases hrun.split with ⟨hbefore, hs⟩
  have hJ : J before t.pre :=
    hbefore.history_invariant hinit hstep fun u hu => hok u (by simp [hu])
  exact hP before t.pre t.action t.post t.outputs hJ (hok t (by simp)) hs

/-- A step property that follows from a permitted invariant holds of every step
of every permitted run. -/
theorem Run.always {ok : σ → α → Prop} {I : σ → Prop} {P : Transition σ α ω → Prop}
    (hinit : ∀ s, M.initial s → I s)
    (hstep : ∀ s a s' out, I s → ok s a → M.step s a = some (s', out) → I s')
    (hP : ∀ s a s' out, I s → ok s a → M.step s a = some (s', out) → P ⟨s, a, out, s'⟩)
    {trace : List (Transition σ α ω)} {s : σ} (hrun : M.Run trace s)
    (hok : ∀ t ∈ trace, ok t.pre t.action) : ∀ t ∈ trace, P t := by
  intro t ht
  rcases List.append_of_mem ht with ⟨before, after, rfl⟩
  exact hrun.always_history (J := fun _ s => I s) (P := fun _ t => P t) hinit
    (fun _ s a s' out hI hok hs => hstep s a s' out hI hok hs)
    (fun _ s a s' out hI hok hs => hP s a s' out hI hok hs) hok

/-- Every step of a run is a step of the system. -/
theorem Run.step_of_mem {trace : List (Transition σ α ω)} {s : σ} (hrun : M.Run trace s)
    {t : Transition σ α ω} (ht : t ∈ trace) :
    M.step t.pre t.action = some (t.post, t.outputs) := by
  rcases List.append_of_mem ht with ⟨before, after, rfl⟩
  exact hrun.split.2

/-! ## Executing a list of actions -/

/-- Execute actions in order, stopping with `none` at the first disabled one. -/
def exec (M : TransitionSystem σ α ω) : σ → List α → Option (List (Transition σ α ω) × σ)
  | s, [] => some ([], s)
  | s, a :: as =>
      match M.step s a with
      | none => none
      | some (s', out) =>
          match exec M s' as with
          | none => none
          | some (trace, last) => some (⟨s, a, out, s'⟩ :: trace, last)

@[simp]
theorem exec_nil (s : σ) : M.exec s [] = some ([], s) :=
  rfl

/-- A nonempty execution is one step followed by an execution. -/
theorem exec_cons {s : σ} {a : α} {as : List α} {trace : List (Transition σ α ω)} {last : σ}
    (h : M.exec s (a :: as) = some (trace, last)) :
    ∃ s' out rest, M.step s a = some (s', out) ∧ M.exec s' as = some (rest, last) ∧
      trace = ⟨s, a, out, s'⟩ :: rest := by
  rw [exec] at h
  cases hs : M.step s a with
  | none => simp [hs] at h
  | some next =>
      rcases next with ⟨s', out⟩
      cases hrest : M.exec s' as with
      | none => simp [hs, hrest] at h
      | some result =>
          rcases result with ⟨rest, last'⟩
          simp only [hs, hrest, Option.some.injEq, Prod.mk.injEq] at h
          rcases h with ⟨rfl, rfl⟩
          exact ⟨s', out, rest, rfl, hrest, rfl⟩

/-- A run continued by an execution is a run. -/
theorem Run.append_exec {before : List (Transition σ α ω)} {s : σ} (hrun : M.Run before s)
    {as : List α} {trace : List (Transition σ α ω)} {last : σ}
    (h : M.exec s as = some (trace, last)) : M.Run (before ++ trace) last := by
  induction as generalizing before s trace with
  | nil =>
      simp only [exec_nil, Option.some.injEq, Prod.mk.injEq] at h
      rcases h with ⟨rfl, rfl⟩
      simpa using hrun
  | cons a as ih =>
      rcases exec_cons h with ⟨s', out, rest, hs, hrest, rfl⟩
      have hnext := ih (Run.extend hrun hs) hrest
      simpa using hnext

/-- Executing actions from an initial state produces a run. -/
theorem exec_run {s : σ} (hinit : M.initial s) {as : List α}
    {trace : List (Transition σ α ω)} {last : σ} (h : M.exec s as = some (trace, last)) :
    M.Run trace last := by
  simpa using (Run.start hinit).append_exec h

/-- An execution performs exactly the actions it was given. -/
theorem exec_actions {s : σ} {as : List α} {trace : List (Transition σ α ω)} {last : σ}
    (h : M.exec s as = some (trace, last)) : trace.map Transition.action = as := by
  induction as generalizing s trace with
  | nil =>
      simp only [exec_nil, Option.some.injEq, Prod.mk.injEq] at h
      simp [← h.1]
  | cons a as ih =>
      rcases exec_cons h with ⟨s', out, rest, -, hrest, rfl⟩
      simp [ih hrest]

/-- A system in which no action is ever disabled executes every list of actions. -/
theorem exec_total (htotal : ∀ s a, (M.step s a).isSome) (s : σ) (as : List α) :
    ∃ trace last, M.exec s as = some (trace, last) := by
  induction as generalizing s with
  | nil => exact ⟨[], s, rfl⟩
  | cons a as ih =>
      rcases Option.isSome_iff_exists.mp (htotal s a) with ⟨⟨s', out⟩, hs⟩
      rcases ih s' with ⟨rest, last, hrest⟩
      exact ⟨⟨s, a, out, s'⟩ :: rest, last, by simp [exec, hs, hrest]⟩

/-! ## Monitors -/

/-- Feed outputs to a partial automaton, stopping with `none` when it rejects. -/
def monitor (δ : τ → ω → Option τ) : τ → List ω → Option τ
  | q, [] => some q
  | q, o :: os =>
      match δ q o with
      | none => none
      | some q' => monitor δ q' os

@[simp]
theorem monitor_nil (δ : τ → ω → Option τ) (q : τ) : monitor δ q [] = some q :=
  rfl

theorem monitor_append {δ : τ → ω → Option τ} {q q' : τ} {left : List ω}
    (hleft : monitor δ q left = some q') (right : List ω) :
    monitor δ q (left ++ right) = monitor δ q' right := by
  induction left generalizing q with
  | nil =>
      simp only [monitor_nil, Option.some.injEq] at hleft
      simp [hleft]
  | cons o os ih =>
      simp only [List.cons_append, monitor] at hleft ⊢
      cases ho : δ q o with
      | none => simp [ho] at hleft
      | some r =>
          simp only [ho] at hleft ⊢
          exact ih hleft

/-- If the outputs of every permitted step drive an automaton from the
abstraction of its first state to the abstraction of its last one, then so do
the outputs of a whole permitted execution. -/
theorem exec_monitor {ok : σ → α → Prop} {δ : τ → ω → Option τ} {abs : σ → τ}
    (hstep : ∀ s a s' out, ok s a → M.step s a = some (s', out) →
      monitor δ (abs s) out = some (abs s'))
    {s : σ} {as : List α} {trace : List (Transition σ α ω)} {last : σ}
    (h : M.exec s as = some (trace, last)) (hok : ∀ t ∈ trace, ok t.pre t.action) :
    monitor δ (abs s) (outputsOf trace) = some (abs last) := by
  induction as generalizing s trace with
  | nil =>
      simp only [exec_nil, Option.some.injEq, Prod.mk.injEq] at h
      rcases h with ⟨rfl, rfl⟩
      simp
  | cons a as ih =>
      rcases exec_cons h with ⟨s', out, rest, hs, hrest, rfl⟩
      have hhead := hstep s a s' out (hok ⟨s, a, out, s'⟩ (by simp)) hs
      rw [outputsOf_cons, monitor_append hhead]
      exact ih hrest fun t ht => hok t (by simp [ht])

end TransitionSystem
