import PapajBadge.BlePeriph.CurrentTime
import PapajBadge.Ch58x.Generic
import PapajBadge.Foundation.CheckedArithmetic
import PapajBadge.Foundation.RunRefinement

/-!
# Sleeping

The helpers that configure and enter sleep, and the loop of the sleep mode that wakes up,
toggles the LED and reports the time.  What the hardware does to the registers while the
core waits for an interrupt, and the time it shows afterwards, are choices of the
environment.  The wrapper `with_safe_access` belongs to the HAL and is a parameter; the
results assume that what it wraps takes effect, which writes to protected registers do not
do in every debug build.

Main results:

- Theorem `rtc_loop_sleeps`: in every run of the loop, the registers at each wait, the
  LED, the numbers in the log and the iteration that panics.
- Theorem `sleeps_wakeable`: as long as the hardware leaves the wake-up configuration
  alone, the clock is enabled to wake the core at every wait.
-/

namespace PapajBadge

open TransitionSystem WriterCall

/-! ## The registers -/

/-- `SLP_WAKE_CTRL`. -/
abbrev slpWakeCtrlSpec : RegisterSpec where
  ux := 8
  resetValue := 0x20

/-- `SLP_POWER_CTRL`. -/
abbrev slpPowerCtrlSpec : RegisterSpec where
  ux := 8

/-- `POWER_PLAN`. -/
abbrev powerPlanSpec : RegisterSpec where
  ux := 16
  resetValue := 0x11DF

/-- `PLL_CONFIG`. -/
abbrev pllConfigSpec : RegisterSpec where
  ux := 8
  resetValue := 0x4A

/-- `XT32M_TUNE`. -/
abbrev xt32mTuneSpec : RegisterSpec where
  ux := 8
  resetValue := 0x32

/-- `SCTLR`. -/
abbrev sctlrSpec : RegisterSpec where
  ux := 32

/-- `slp_rtc_wake().bit(..)`. -/
def slpRtcWake (value : Bool) : BitVec 8 → BitVec 8 :=
  BitWriter.bit 3 value

/-- `wake_ev_mode().bit(..)`. -/
def wakeEvMode (value : Bool) : BitVec 8 → BitVec 8 :=
  BitWriter.bit 6 value

/-- `wake_dly_mod().bits(..)`. -/
def wakeDlyMod (value : BitVec 8) : BitVec 8 → BitVec 8 :=
  FieldWriter.bits 2 0 value

/-- `xt32m_i_bias().bits(..)`. -/
def xt32mIBias (value : BitVec 8) : BitVec 8 → BitVec 8 :=
  FieldWriter.bits 2 0 value

/-- `sleepdeep().bit(..)`. -/
def sleepdeep (value : Bool) : BitVec 32 → BitVec 32 :=
  BitWriter.bit 2 value

/-- The registers of `SYS` and `PFIC` that sleeping is about. -/
@[ext]
structure SleepRegs where
  slpWakeCtrl : BitVec 8
  slpPowerCtrl : BitVec 8
  powerPlan : BitVec 16
  pllConfig : BitVec 8
  xt32mTune : BitVec 8
  sctlr : BitVec 32
deriving DecidableEq, Repr

/-! ## The helpers -/

/-- `with_safe_access`: what remains of the register accesses of a closure. -/
abbrev SafeAccess := (SleepRegs → SleepRegs) → SleepRegs → SleepRegs

/-- The accesses of the closure take effect. -/
def SafeAccess.Effective (withSafeAccess : SafeAccess) : Prop :=
  ∀ access r, withSafeAccess access r = access r

/-- `enable_sleep`. -/
def enableSleep (withSafeAccess : SafeAccess) (r : SleepRegs) : SleepRegs :=
  let r := withSafeAccess (fun r => { r with
    slpWakeCtrl := Reg.modify slpWakeCtrlSpec
      (fun _ w => wakeEvMode false (slpRtcWake true w)) r.slpWakeCtrl }) r
  withSafeAccess (fun r => { r with
    slpPowerCtrl := Reg.modify slpPowerCtrlSpec (fun _ w => wakeDlyMod 0b00 w) r.slpPowerCtrl }) r

/-- `enter_sleep` up to the wait.  `bits` replaces the whole writer, and `SCTLR` is not
protected. -/
def fallAsleep (withSafeAccess : SafeAccess) (r : SleepRegs) : SleepRegs :=
  let r := withSafeAccess (fun r => { r with
    powerPlan := Reg.modify powerPlanSpec (fun _ _ => 0b1001000100010111) r.powerPlan }) r
  let r := withSafeAccess (fun r => { r with
    xt32mTune := Reg.write xt32mTuneSpec (xt32mIBias 0b11) }) r
  let r := withSafeAccess (fun r => { r with
    pllConfig := Reg.modify pllConfigSpec (fun bits _ => bits ||| (1#8 <<< 5)) r.pllConfig }) r
  { r with sctlr := Reg.modify sctlrSpec (fun _ w => sleepdeep true w) r.sctlr }

/-- `enter_sleep` after the wait. -/
def wakeUp (withSafeAccess : SafeAccess) (r : SleepRegs) : SleepRegs :=
  withSafeAccess (fun r => { r with
    pllConfig := Reg.modify pllConfigSpec (fun bits _ => bits &&& ~~~(1#8 <<< 5)) r.pllConfig }) r

/-- `enter_sleep`, with what the hardware does during `wfi`. -/
def enterSleep (withSafeAccess : SafeAccess) (wfi : SleepRegs → SleepRegs) (r : SleepRegs) :
    SleepRegs :=
  wakeUp withSafeAccess (wfi (fallAsleep withSafeAccess r))

/-! ## The loop -/

/-- The registers, the level of the LED pin, and the loop counter of `rtc_loop`. -/
structure RtcLoop where
  regs : SleepRegs
  ledHigh : Bool
  counter : UInt32
  panicked : Bool

/-- One iteration: what the hardware does while the core waits, and the time afterwards. -/
structure Iteration where
  wfi : SleepRegs → SleepRegs
  now : DateTime

/-- What can be seen of an iteration: the registers at the wait, and the line in the log. -/
inductive SleepObs where
  | waiting (regs : SleepRegs)
  | logged (hour minute second : UInt8) (counter : UInt32)

/-- The state before the loop: `main` sets the pin and configures sleep. -/
def RtcLoop.start (withSafeAccess : SafeAccess) (r : SleepRegs) : RtcLoop where
  regs := enableSleep withSafeAccess r
  ledHigh := true
  counter := 0
  panicked := false

/-- One iteration of `rtc_loop`. -/
def RtcLoop.step (withSafeAccess : SafeAccess) (checks : OverflowChecks) (s : RtcLoop)
    (i : Iteration) : Option (RtcLoop × List SleepObs) :=
  if s.panicked then none
  else
    let out := [.waiting (fallAsleep withSafeAccess s.regs),
      .logged i.now.hour i.now.minute i.now.second s.counter]
    let s := { s with ledHigh := !s.ledHigh, regs := enterSleep withSafeAccess i.wfi s.regs }
    match u32.store checks (s.counter.toNat + 1) with
    | some counter => some ({ s with counter := counter }, out)
    | none => some ({ s with panicked := true }, out)

/-- The loop from any registers. -/
def rtcMachine (withSafeAccess : SafeAccess) (checks : OverflowChecks) :
    TransitionSystem RtcLoop Iteration SleepObs where
  initial s := ∃ r, s = RtcLoop.start withSafeAccess r
  step s i := s.step withSafeAccess checks i

theorem rtcMachine_initial (withSafeAccess : SafeAccess) (checks : OverflowChecks)
    (r : SleepRegs) : (rtcMachine withSafeAccess checks).initial (RtcLoop.start withSafeAccess r) :=
  ⟨r, rfl⟩

variable {withSafeAccess : SafeAccess}

/-! ## What the helpers do -/

/-- A wrapper whose accesses take effect just makes them. -/
theorem SafeAccess.Effective.eq (haccess : withSafeAccess.Effective) :
    withSafeAccess = fun access r => access r :=
  funext₂ haccess

/-- The registers at a wait.  `POWER_PLAN` and `XT32M_TUNE` are overwritten whole, the bit of
the PLL and the one for deep sleep are set and leave the other bits of their registers as
before, and the wake-up configuration is as before. -/
structure Waiting (before regs : SleepRegs) : Prop where
  slpWakeCtrl : regs.slpWakeCtrl = before.slpWakeCtrl
  slpPowerCtrl : regs.slpPowerCtrl = before.slpPowerCtrl
  powerPlan : regs.powerPlan = 0x9117
  xt32mTune : regs.xt32mTune = 0x33
  pllConfig : ∀ i < 8, regs.pllConfig.getLsbD i = (before.pllConfig.getLsbD i || i = 5)
  sctlr : ∀ i < 32, regs.sctlr.getLsbD i = (before.sctlr.getLsbD i || i = 2)

/-- The value written to the bias does not depend on the register. -/
theorem xt32mTune_written : Reg.write xt32mTuneSpec (xt32mIBias 0b11) = 0x33 := by
  decide

/-- Setting the bit of the PLL leaves the others. -/
theorem getLsbD_or_bit (r : BitVec 8) {i : ℕ} (hi : i < 8) :
    (r ||| (1#8 <<< 5)).getLsbD i = (r.getLsbD i || i = 5) := by
  rw [BitVec.getLsbD_or]
  congr 1
  interval_cases i <;> rfl

/-- Clearing the bit of the PLL leaves the others. -/
theorem getLsbD_and_not_bit (r : BitVec 8) {i : ℕ} (hi : i < 8) :
    (r &&& ~~~(1#8 <<< 5)).getLsbD i = (r.getLsbD i && i ≠ 5) := by
  rw [BitVec.getLsbD_and]
  congr 1
  interval_cases i <;> rfl

/-- The calls of the helpers, as chains on the writer. -/
def wakeCalls : List (WriterCall 8) :=
  [.bit 3 true (by decide), .bit 6 false (by decide)]

def delayCalls : List (WriterCall 8) :=
  [.bits 2 0 0b00 (by decide)]

def deepCalls : List (WriterCall 32) :=
  [.bit 2 true (by decide)]

/-- What modifying a register with bitmaps of zeros leaves. -/
theorem Modified.kept_of_plain {spec : RegisterSpec} {calls : List (WriterCall spec.ux)}
    {before after : BitVec spec.ux} (h : Modified spec calls before after)
    (hone : spec.oneToModifyFieldsBitmap = 0) (hzero : spec.zeroToModifyFieldsBitmap = 0) {i : ℕ}
    (hi : i < spec.ux) (hcovers : ∀ c ∈ calls, ¬c.field.Covers i) :
    after.getLsbD i = before.getLsbD i := by
  rw [h.kept i hi hcovers, hone, hzero]
  simp

/-- What the wrapped accesses before a wait leave of the registers. -/
theorem fallAsleep_regs (haccess : withSafeAccess.Effective) (r : SleepRegs) :
    (fallAsleep withSafeAccess r).slpWakeCtrl = r.slpWakeCtrl ∧
      (fallAsleep withSafeAccess r).slpPowerCtrl = r.slpPowerCtrl ∧
      (fallAsleep withSafeAccess r).powerPlan = 0x9117 ∧
      (fallAsleep withSafeAccess r).xt32mTune = 0x33 ∧
      (fallAsleep withSafeAccess r).pllConfig = r.pllConfig ||| (1#8 <<< 5) ∧
      (fallAsleep withSafeAccess r).sctlr =
        Reg.modify sctlrSpec (fun _ w => sleepdeep true w) r.sctlr := by
  rw [haccess.eq]
  exact ⟨rfl, rfl, rfl, xt32mTune_written, rfl, rfl⟩

theorem fallAsleep_waiting (haccess : withSafeAccess.Effective) (r : SleepRegs) :
    Waiting r (fallAsleep withSafeAccess r) := by
  rcases fallAsleep_regs haccess r with ⟨hwake, hpower, hplan, htune, hpll, hsctlr⟩
  refine ⟨hwake, hpower, hplan, htune, ?_, ?_⟩
  · intro i hi
    rw [hpll]
    exact getLsbD_or_bit r.pllConfig hi
  · intro i hi
    have hmodified : Modified sctlrSpec deepCalls r.sctlr
        (Reg.modify sctlrSpec (fun _ w => sleepdeep true w) r.sctlr) :=
      modified_modify sctlrSpec (by decide) r.sctlr
    by_cases hbit : i = 2
    · rw [hbit]
      have hread : BitReader.bit 2 (fallAsleep withSafeAccess r).sctlr = true := by
        rw [hsctlr]
        exact hmodified.readBack _ List.mem_cons_self
      rw [bitReader_eq] at hread
      rw [hread]
      simp
    · have hkept := hmodified.kept_of_plain rfl rfl hi (by
        intro c hc
        rw [deepCalls, List.mem_singleton] at hc
        rw [hc]
        rintro ⟨hlow, hhigh⟩
        simp only [WriterCall.field] at hlow hhigh
        omega)
      rw [hsctlr, hkept]
      simp [hbit]

/-- The clock is enabled to wake the core: `slp_rtc_wake` is set, `wake_ev_mode` is clear,
and `wake_dly_mod` is zero. -/
structure Wakeable (r : SleepRegs) : Prop where
  rtcWake : BitReader.bit 3 r.slpWakeCtrl = true
  eventMode : BitReader.bit 6 r.slpWakeCtrl = false
  delay : FieldReader.bits 2 0 r.slpPowerCtrl = 0

theorem Wakeable.of_same {r r' : SleepRegs} (h : Wakeable r)
    (hwake : r'.slpWakeCtrl = r.slpWakeCtrl) (hpower : r'.slpPowerCtrl = r.slpPowerCtrl) :
    Wakeable r' where
  rtcWake := by
    rw [hwake]
    exact h.rtcWake
  eventMode := by
    rw [hwake]
    exact h.eventMode
  delay := by
    rw [hpower]
    exact h.delay

/-- Enabling sleep enables the clock to wake the core, and leaves the other wake-up sources
and the other settings of the power control as they were. -/
theorem enableSleep_wakeable (haccess : withSafeAccess.Effective) (r : SleepRegs) :
    Wakeable (enableSleep withSafeAccess r) ∧
      (∀ i < 8, i ≠ 3 → i ≠ 6 →
        (enableSleep withSafeAccess r).slpWakeCtrl.getLsbD i = r.slpWakeCtrl.getLsbD i) ∧
      ∀ i < 8, 2 ≤ i →
        (enableSleep withSafeAccess r).slpPowerCtrl.getLsbD i = r.slpPowerCtrl.getLsbD i := by
  rw [haccess.eq]
  have hwake : Modified slpWakeCtrlSpec wakeCalls r.slpWakeCtrl
      (enableSleep (fun access r => access r) r).slpWakeCtrl :=
    modified_modify slpWakeCtrlSpec (by decide) r.slpWakeCtrl
  have hdelay : Modified slpPowerCtrlSpec delayCalls r.slpPowerCtrl
      (enableSleep (fun access r => access r) r).slpPowerCtrl :=
    modified_modify slpPowerCtrlSpec (by decide) r.slpPowerCtrl
  refine ⟨⟨?_, ?_, ?_⟩, ?_, ?_⟩
  · exact hwake.readBack _ List.mem_cons_self
  · exact hwake.readBack _ (List.mem_cons_of_mem _ List.mem_cons_self)
  · exact hdelay.readBack _ List.mem_cons_self
  · intro i hi hthree hsix
    refine hwake.kept_of_plain rfl rfl hi ?_
    intro c hc
    rw [wakeCalls, List.mem_cons, List.mem_singleton] at hc
    rcases hc with rfl | rfl
    · rintro ⟨hlow, hhigh⟩
      simp only [WriterCall.field] at hlow hhigh
      omega
    · rintro ⟨hlow, hhigh⟩
      simp only [WriterCall.field] at hlow hhigh
      omega
  · intro i hi htwo
    refine hdelay.kept_of_plain rfl rfl hi ?_
    intro c hc
    rw [delayCalls, List.mem_singleton] at hc
    rw [hc]
    rintro ⟨hlow, hhigh⟩
    simp only [WriterCall.field] at hlow hhigh
    omega

/-! ## Runs of the loop -/

/-- What an iteration does: it waits and logs, toggles the pin, and counts, or panics when
the counter is checked and full. -/
theorem RtcLoop.step_cases {checks : OverflowChecks} {s s' : RtcLoop} {i : Iteration}
    {out : List SleepObs} (h : s.step withSafeAccess checks i = some (s', out)) :
    s.panicked = false ∧
      out = [.waiting (fallAsleep withSafeAccess s.regs),
        .logged i.now.hour i.now.minute i.now.second s.counter] ∧
      s'.regs = enterSleep withSafeAccess i.wfi s.regs ∧ s'.ledHigh = !s.ledHigh ∧
      ((s'.panicked = false ∧ s'.counter = s.counter + 1 ∧
          (checks = .on → s.counter.toNat + 1 < 2 ^ 32)) ∨
        (s'.panicked = true ∧ checks = .on ∧ s.counter.toNat + 1 = 2 ^ 32)) := by
  have hlt := s.counter.toNat_lt
  rw [RtcLoop.step] at h
  split_ifs at h with hpanicked
  have hrunning : s.panicked = false := by simpa using hpanicked
  cases hstore : u32.store checks (s.counter.toNat + 1) with
  | some counter =>
      simp only [hstore, Option.some.injEq, Prod.mk.injEq] at h
      rcases h with ⟨rfl, rfl⟩
      refine ⟨hrunning, rfl, rfl, rfl, Or.inl ⟨hrunning, ?_, ?_⟩⟩
      · exact (MachineInt.eq_wrap_of_store hstore).trans (u32_wrap_succ s.counter)
      · intro hchecks
        rw [← u32_fits_succ_iff]
        exact MachineInt.store_isSome_iff.mp (Option.isSome_of_mem hstore) hchecks
  | none =>
      simp only [hstore, Option.some.injEq, Prod.mk.injEq] at h
      rcases h with ⟨rfl, rfl⟩
      rcases MachineInt.store_eq_none_iff.mp hstore with ⟨hchecks, hfull⟩
      rw [u32_fits_succ_iff] at hfull
      exact ⟨hrunning, rfl, rfl, rfl, Or.inr ⟨rfl, hchecks, by omega⟩⟩

/-- What the loop has done after so many iterations. -/
structure RtcProgress (checks : OverflowChecks) (n : ℕ) (s : RtcLoop) : Prop where
  led : s.ledHigh = decide (n % 2 = 0)
  running : s.panicked = false →
    s.counter = UInt32.ofNat n ∧ (checks = .on → n < 2 ^ 32)
  stopped : s.panicked = true → checks = .on ∧ n = 2 ^ 32

theorem rtcProgress_start (checks : OverflowChecks) (r : SleepRegs) :
    RtcProgress checks 0 (RtcLoop.start withSafeAccess r) where
  led := rfl
  running := fun _ => ⟨rfl, fun _ => by decide⟩
  stopped := by
    intro h
    cases h

theorem RtcProgress.step {checks : OverflowChecks} {n : ℕ} {s s' : RtcLoop} {i : Iteration}
    {out : List SleepObs} (hI : RtcProgress checks n s)
    (h : s.step withSafeAccess checks i = some (s', out)) : RtcProgress checks (n + 1) s' := by
  rcases RtcLoop.step_cases h with ⟨hrunning, -, -, hled, hcount⟩
  rcases hI.running hrunning with ⟨hcounter, hlt⟩
  have hparity : s'.ledHigh = decide ((n + 1) % 2 = 0) := by
    rw [hled, hI.led, ← decide_not]
    apply decide_eq_decide.mpr
    omega
  rcases hcount with ⟨hpanicked, hnext, hroom⟩ | ⟨hpanicked, hchecks, hfull⟩
  · refine ⟨hparity, fun _ => ⟨?_, ?_⟩, fun hstop => ?_⟩
    · rw [hnext, hcounter, UInt32.ofNat_add]
      rfl
    · intro hchecks
      have hsmall := hroom hchecks
      rw [hcounter, UInt32.toNat_ofNat', Nat.mod_eq_of_lt (hlt hchecks)] at hsmall
      exact hsmall
    · rw [hpanicked] at hstop
      cases hstop
  · refine ⟨hparity, fun hrun => ?_, fun _ => ⟨hchecks, ?_⟩⟩
    · rw [hpanicked] at hrun
      cases hrun
    · rw [hcounter, UInt32.toNat_ofNat', Nat.mod_eq_of_lt (hlt hchecks)] at hfull
      exact hfull

theorem rtcProgress_run {checks : OverflowChecks}
    {trace : List (Transition RtcLoop Iteration SleepObs)} {s : RtcLoop}
    (hrun : (rtcMachine withSafeAccess checks).Run trace s) : RtcProgress checks trace.length s := by
  induction hrun with
  | start hinit =>
      rcases hinit with ⟨r, rfl⟩
      exact rtcProgress_start checks r
  | @extend trace s i s' out _ hs ih =>
      rw [List.length_append, List.length_singleton]
      exact ih.step hs

/-- The bit of the PLL is clear after waking up. -/
theorem wakeUp_pllConfig (haccess : withSafeAccess.Effective) (r : SleepRegs) :
    (wakeUp withSafeAccess r).pllConfig.getLsbD 5 = false := by
  have hwake : (wakeUp withSafeAccess r).pllConfig = r.pllConfig &&& ~~~(1#8 <<< 5) := by
    rw [haccess.eq]
    rfl
  rw [hwake, getLsbD_and_not_bit r.pllConfig (by decide)]
  simp

/-- What iteration `n` of the loop does. -/
structure Slept (withSafeAccess : SafeAccess) (n : ℕ)
    (t : Transition RtcLoop Iteration SleepObs) (regs : SleepRegs) : Prop where
  waiting : Waiting t.pre.regs regs
  outputs : t.outputs = [.waiting regs, .logged t.action.now.hour t.action.now.minute
    t.action.now.second (UInt32.ofNat n)]
  woken : t.post.regs = wakeUp withSafeAccess (t.action.wfi regs)
  pllRestored : t.post.regs.pllConfig.getLsbD 5 = false

/-- In every run of the loop, whatever the hardware does to the registers, if safe accesses
take effect: every iteration waits with the sleep configured, logs its number and clears the
bit of the PLL; the LED is lit after every second iteration; and the loop panics exactly in
iteration `2 ^ 32`, if overflow is checked. -/
theorem rtc_loop_sleeps (haccess : withSafeAccess.Effective) {checks : OverflowChecks}
    {trace : List (Transition RtcLoop Iteration SleepObs)} {s : RtcLoop}
    (hrun : (rtcMachine withSafeAccess checks).Run trace s) :
    s.ledHigh = decide (trace.length % 2 = 0) ∧
      (s.panicked = true ↔ checks = .on ∧ trace.length = 2 ^ 32) ∧
      ∀ before t after, trace = before ++ t :: after →
        ∃ regs, Slept withSafeAccess before.length t regs := by
  have hprogress := rtcProgress_run hrun
  refine ⟨hprogress.led, ⟨hprogress.stopped, ?_⟩, ?_⟩
  · rintro ⟨hchecks, hlength⟩
    by_contra hrunning
    have hlt := (hprogress.running (by simpa using hrunning)).2 hchecks
    omega
  · rintro before t after rfl
    rcases hrun.split with ⟨hbefore, hs⟩
    rcases RtcLoop.step_cases hs with ⟨hrunning, hout, hregs, -, -⟩
    have hcounter := ((rtcProgress_run hbefore).running hrunning).1
    refine ⟨fallAsleep withSafeAccess t.pre.regs, fallAsleep_waiting haccess t.pre.regs, ?_, hregs,
      ?_⟩
    · rw [hout, hcounter]
    · rw [hregs]
      exact wakeUp_pllConfig haccess _

/-- The hardware leaves the wake-up configuration alone, in whichever state it waits. -/
def KeepsWakeUp (_ : RtcLoop) (i : Iteration) : Prop :=
  ∀ r, (i.wfi r).slpWakeCtrl = r.slpWakeCtrl ∧ (i.wfi r).slpPowerCtrl = r.slpPowerCtrl

/-- As long as the hardware leaves the wake-up configuration alone, and if safe accesses take
effect, the clock is enabled to wake the core at every wait of every run. -/
theorem sleeps_wakeable (haccess : withSafeAccess.Effective) {checks : OverflowChecks}
    {trace : List (Transition RtcLoop Iteration SleepObs)} {s : RtcLoop}
    (hrun : (rtcMachine withSafeAccess checks).Run trace s)
    (hkeeps : ∀ t ∈ trace, KeepsWakeUp t.pre t.action) :
    ∀ t ∈ trace, ∀ regs, .waiting regs ∈ t.outputs → Wakeable regs := by
  refine Run.always (I := fun s => Wakeable s.regs)
    (P := fun t => ∀ regs, .waiting regs ∈ t.outputs → Wakeable regs) ?_ ?_ ?_ hrun hkeeps
  · rintro s ⟨r, rfl⟩
    exact (enableSleep_wakeable haccess r).1
  · intro s i s' out hI hkeeps hs
    rcases RtcLoop.step_cases hs with ⟨-, -, hregs, -, -⟩
    rcases hkeeps (fallAsleep withSafeAccess s.regs) with ⟨hwake, hpower⟩
    rcases fallAsleep_regs haccess s.regs with ⟨hwake', hpower', -⟩
    rw [hregs]
    refine hI.of_same ?_ ?_
    · rw [enterSleep, wakeUp, haccess]
      exact hwake.trans hwake'
    · rw [enterSleep, wakeUp, haccess]
      exact hpower.trans hpower'
  · intro s i s' out hI _ hs regs hmem
    rcases RtcLoop.step_cases hs with ⟨-, hout, -, -, -⟩
    dsimp only at hmem
    rw [hout, List.mem_cons, List.mem_singleton] at hmem
    rcases hmem with hwait | hlog
    · cases hwait
      rcases fallAsleep_regs haccess s.regs with ⟨hwake, hpower, -⟩
      exact hI.of_same hwake hpower
    · cases hlog

/-- The registers at their reset values. -/
def resetRegs : SleepRegs where
  slpWakeCtrl := slpWakeCtrlSpec.resetValue
  slpPowerCtrl := slpPowerCtrlSpec.resetValue
  powerPlan := powerPlanSpec.resetValue
  pllConfig := pllConfigSpec.resetValue
  xt32mTune := xt32mTuneSpec.resetValue
  sctlr := sctlrSpec.resetValue

/-- A wrapper whose accesses take effect. -/
def grantedAccess : SafeAccess :=
  fun access r => access r

theorem grantedAccess_effective : grantedAccess.Effective :=
  fun _ _ => rfl

/-- Two iterations: the hardware ends the plan and the deep sleep, or changes nothing. -/
def twoIterations : List Iteration :=
  [⟨fun r => { r with powerPlan := 0x1117, sctlr := 0 }, ⟨2025, 4, 2, 21, 36, 0, 0⟩⟩,
    ⟨fun r => r, ⟨2025, 4, 2, 21, 36, 0, 500⟩⟩]

theorem rtc_loop_sleeps_twoIterations :
    ∃ trace s, (rtcMachine grantedAccess .on).Run trace s ∧
      trace.map Transition.action = twoIterations ∧
      s.ledHigh = true ∧ s.panicked = false := by
  have hsome : ((rtcMachine grantedAccess .on).exec (RtcLoop.start grantedAccess resetRegs)
      twoIterations).isSome = true := by
    decide
  rcases Option.isSome_iff_exists.mp hsome with ⟨⟨trace, s⟩, hexec⟩
  have hrun := exec_run (rtcMachine_initial grantedAccess .on resetRegs) hexec
  have hactions := exec_actions hexec
  have hlength : trace.length = 2 := by
    rw [← List.length_map, hactions]
    rfl
  rcases rtc_loop_sleeps grantedAccess_effective hrun with ⟨hled, hpanicked, -⟩
  rw [hlength] at hled hpanicked
  refine ⟨trace, s, hrun, hactions, hled, ?_⟩
  rw [← Bool.not_eq_true, hpanicked]
  decide

theorem sleeps_wakeable_twoIterations :
    ∃ trace s, (rtcMachine grantedAccess .on).Run trace s ∧
      trace.map Transition.action = twoIterations ∧
      ∀ t ∈ trace, ∀ regs, .waiting regs ∈ t.outputs → Wakeable regs := by
  have hsome : ((rtcMachine grantedAccess .on).exec (RtcLoop.start grantedAccess resetRegs)
      twoIterations).isSome = true := by
    decide
  rcases Option.isSome_iff_exists.mp hsome with ⟨⟨trace, s⟩, hexec⟩
  have hrun := exec_run (rtcMachine_initial grantedAccess .on resetRegs) hexec
  have hactions := exec_actions hexec
  refine ⟨trace, s, hrun, hactions, sleeps_wakeable grantedAccess_effective hrun ?_⟩
  intro t ht
  have hmem : t.action ∈ twoIterations := by
    rw [← hactions]
    exact List.mem_map_of_mem ht
  rw [twoIterations, List.mem_cons, List.mem_singleton] at hmem
  rcases hmem with hfirst | hsecond
  · rw [hfirst]
    exact fun _ => ⟨rfl, rfl⟩
  · rw [hsecond]
    exact fun _ => ⟨rfl, rfl⟩

end PapajBadge
