import PapajBadge.Audio.Chiptune
import PapajBadge.Ch58x.Generic

/-!
# The chiptune on its timer

The set-up of the timer by `chiptune_loop` and the loop with the register its samples are
written to, and how runs in the two profiles are related.

Main results:

- Theorem `chiptune_on_timer`: the loop on the timer computes the samples of the loop
  without it, and the timer stays configured with a sample below the cycle length.
- Theorem `dev_run_is_release_run`: as far as it gets, the development profile plays what
  the release profile plays.
- Theorem `release_repeats`: the release profile repeats itself after `2 ^ 32` iterations.
-/

namespace PapajBadge

open WriterCall

/-! ## The registers of the timer -/

/-- `CTRL_MOD`. -/
abbrev ctrlModSpec : RegisterSpec where
  ux := 8
  resetValue := 0x02

/-- `CNT_END`. -/
abbrev cntEndSpec : RegisterSpec where
  ux := 32

/-- `FIFO`. -/
abbrev fifoSpec : RegisterSpec where
  ux := 32

/-- `tmr_mode_in().bit(..)`. -/
def tmrModeIn (value : Bool) : BitVec 8 → BitVec 8 :=
  BitWriter.bit 0 value

/-- `tmr_all_clear().bit(..)`. -/
def tmrAllClear (value : Bool) : BitVec 8 → BitVec 8 :=
  BitWriter.bit 1 value

/-- `tmr_count_en().bit(..)`. -/
def tmrCountEn (value : Bool) : BitVec 8 → BitVec 8 :=
  BitWriter.bit 2 value

/-- `tmr_out_en().bit(..)`. -/
def tmrOutEn (value : Bool) : BitVec 8 → BitVec 8 :=
  BitWriter.bit 3 value

/-- `tmr_out_polar__rb_tmr_cap_count().bit(..)`. -/
def tmrOutPolar (value : Bool) : BitVec 8 → BitVec 8 :=
  BitWriter.bit 4 value

/-- `tmr_pwm_repeat__rb_tmr_cap_edge().bits(..)`. -/
def tmrPwmRepeat (value : BitVec 8) : BitVec 8 → BitVec 8 :=
  FieldWriter.bits 2 6 value

/-- `cnt_end().bits(..)`. -/
def cntEndBits (value : BitVec 32) : BitVec 32 → BitVec 32 :=
  FieldWriter.bits 32 0 value

/-- `fifo().bits(..)`. -/
def fifoBits (value : BitVec 32) : BitVec 32 → BitVec 32 :=
  FieldWriter.bits 32 0 value

/-- The registers of `TMR0` that the loop writes; `fifo` is the value written last. -/
structure Timer where
  ctrlMod : BitVec 8
  cntEnd : BitVec 32
  fifo : BitVec 32
deriving DecidableEq, Repr

/-- The set-up before the loop. -/
def Timer.setUp (r : Timer) : Timer :=
  let r := { r with ctrlMod := Reg.write ctrlModSpec (tmrAllClear true) }
  let r := { r with cntEnd := Reg.write cntEndSpec (cntEndBits 0x100) }
  let r := { r with ctrlMod := Reg.write ctrlModSpec (tmrAllClear true) }
  let r := { r with
    ctrlMod := Reg.write ctrlModSpec fun w =>
      tmrOutEn true (tmrPwmRepeat 0b11 (tmrOutPolar true (tmrCountEn true
        (tmrModeIn false (tmrAllClear false w))))) }
  { r with fifo := Reg.write fifoSpec (fifoBits 0x08) }

/-! ## The loop on the timer -/

/-- The loop variable and the timer. -/
structure TimedChiptune where
  period : UInt32
  timer : Timer
deriving DecidableEq, Repr

/-- One iteration on the timer. -/
def TimedChiptune.iterate (checks : OverflowChecks) (s : TimedChiptune) :
    Option TimedChiptune := do
  let v ← getCharForT checks s.period.toInt32
  pure
    { period := s.period + 1
      timer := { s.timer with fifo := Reg.write fifoSpec (fifoBits v.toUInt32.toBitVec) } }

/-- The first `n` iterations of `chiptune_loop` on a timer; `none` is a panic. -/
def timedLoop (checks : OverflowChecks) (r : Timer) : ℕ → Option TimedChiptune
  | 0 => some { period := 20, timer := r.setUp }
  | n + 1 => (timedLoop checks r n).bind (TimedChiptune.iterate checks)

/-- Writing the whole of a register stores the value. -/
theorem fifo_written (v : BitVec 32) : Reg.write fifoSpec (fifoBits v) = v := by
  have hmodified : Modified fifoSpec [.bits 32 0 v (Nat.le_refl 32)] fifoSpec.resetValue
      (Reg.write fifoSpec (fifoBits v)) :=
    modified_modify fifoSpec (List.pairwise_singleton _ _) fifoSpec.resetValue
  have hread : FieldReader.bits 32 0 (Reg.write fifoSpec (fifoBits v)) = v &&& RawReg.mask 32 32 :=
    hmodified.readBack _ List.mem_cons_self
  have hmask : RawReg.mask 32 32 = BitVec.allOnes 32 := by decide
  rw [FieldReader.bits, hmask, BitVec.and_allOnes, BitVec.and_allOnes,
    BitVec.ushiftRight_zero] at hread
  exact hread

/-- The mode that the set-up writes: counting, output enabled and inverted, each value
repeated. -/
theorem ctrlMod_written :
    (Reg.write ctrlModSpec fun w => tmrOutEn true (tmrPwmRepeat 0b11 (tmrOutPolar true
      (tmrCountEn true (tmrModeIn false (tmrAllClear false w)))))) = 0b11011100 := by
  decide

theorem cntEnd_written :
    Reg.write cntEndSpec (cntEndBits 0x100) = cycleLength.toBitVec := by
  decide

/-- What the timer looks like while the loop runs: it counts up to the cycle length with its
output enabled and inverted, and plays the sample written last. -/
structure OnTimer (s : Chiptune) (t : TimedChiptune) : Prop where
  period : t.period = s.period
  ctrlMod : t.timer.ctrlMod = 0b11011100
  cntEnd : t.timer.cntEnd = cycleLength.toBitVec
  fifo : s.fifo.getLast? = some (UInt32.ofBitVec t.timer.fifo)

/-- The set-up leaves the timer configured, whatever it held. -/
theorem onTimer_setUp (r : Timer) : OnTimer Chiptune.start { period := 20, timer := r.setUp } where
  period := rfl
  ctrlMod := ctrlMod_written
  cntEnd := cntEnd_written
  fifo := by
    change some 0x08 = some (UInt32.ofBitVec (Reg.write fifoSpec (fifoBits 0x08)))
    rw [fifo_written]
    rfl

/-- An iteration does the same with and without the timer. -/
theorem OnTimer.iterate {checks : OverflowChecks} {s : Chiptune} {t : TimedChiptune}
    (h : OnTimer s t) :
    (s.iterate checks = none ∧ t.iterate checks = none) ∨
      ∃ s' t', s.iterate checks = some s' ∧ t.iterate checks = some t' ∧ OnTimer s' t' := by
  unfold Chiptune.iterate TimedChiptune.iterate
  rw [h.period]
  cases getCharForT checks s.period.toInt32 with
  | none => exact Or.inl ⟨rfl, rfl⟩
  | some v =>
      refine Or.inr ⟨_, _, rfl, rfl, ?_⟩
      refine ⟨rfl, h.ctrlMod, h.cntEnd, ?_⟩
      dsimp only
      rw [fifo_written, List.getLast?_append, List.getLast?_singleton]
      rfl

/-- The loop does the same with and without the timer. -/
theorem timedLoop_cases (checks : OverflowChecks) (r : Timer) (n : ℕ) :
    (chiptuneLoop checks n = none ∧ timedLoop checks r n = none) ∨
      ∃ s t, chiptuneLoop checks n = some s ∧ timedLoop checks r n = some t ∧ OnTimer s t := by
  induction n with
  | zero => exact Or.inr ⟨_, _, rfl, rfl, onTimer_setUp r⟩
  | succ n ih =>
      rw [chiptuneLoop, timedLoop]
      rcases ih with ⟨hs, ht⟩ | ⟨s, t, hs, ht, hon⟩
      · rw [hs, ht]
        exact Or.inl ⟨rfl, rfl⟩
      · rw [hs, ht]
        exact hon.iterate

/-- For every number of iterations, in both profiles and whatever the timer held before: the
loop on the timer panics when the loop without it does, and otherwise the timer counts up to
the cycle length and plays the last sample, which is below the cycle length. -/
theorem chiptune_on_timer (checks : OverflowChecks) (r : Timer) (n : ℕ) :
    (timedLoop checks r n).isSome = (chiptuneLoop checks n).isSome ∧
      ∀ s t, chiptuneLoop checks n = some s → timedLoop checks r n = some t →
        OnTimer s t ∧ t.timer.fifo < t.timer.cntEnd := by
  rcases timedLoop_cases checks r n with ⟨hs, ht⟩ | ⟨s, t, hs, ht, hon⟩
  · rw [hs, ht]
    refine ⟨rfl, ?_⟩
    intro s t hsome
    cases hsome
  · rw [hs, ht]
    refine ⟨rfl, ?_⟩
    rintro s' t' hs' ht'
    cases hs'
    cases ht'
    refine ⟨hon, ?_⟩
    have hlast : UInt32.ofBitVec t.timer.fifo < cycleLength :=
      chiptuneLoop_fifo_lt hs _ (List.mem_of_getLast? hon.fifo)
    rw [hon.cntEnd]
    exact hlast

/-! ## The two profiles -/

/-- What is stored with the checks is stored without them. -/
theorem MachineInt.store_off_of_store {α : Type*} {T : MachineInt α} {checks : OverflowChecks}
    {z : ℤ} {a : α} (h : T.store checks z = some a) : T.store .off z = some a := by
  rw [MachineInt.store_off, MachineInt.eq_wrap_of_store h]

/-- A part that is computed with the checks is computed without them. -/
theorem part1_off_of_part1 {checks : OverflowChecks} {t : Int32} {high : UInt8}
    (h : part1 checks t = some high) : part1 .off t = some high := by
  rw [part1_eq checks (digit_eq t)] at h
  rcases Option.map_eq_some_iff.mp h with ⟨product, hproduct, hhigh⟩
  rw [part1_eq .off (digit_eq t), MachineInt.store_off_of_store hproduct, Option.map_some, hhigh]

theorem part2_off_of_part2 {checks : OverflowChecks} {t : Int32} {low : UInt8}
    (h : part2 checks t = some low) : part2 .off t = some low := by
  rw [part2_eq] at h
  rcases Option.map_eq_some_iff.mp h with ⟨product, hproduct, hlow⟩
  rw [part2_eq, MachineInt.store_off_of_store hproduct, Option.map_some, hlow]

/-- A sample that the development profile computes is the one of the release profile. -/
theorem getCharForT_off_of_getCharForT {checks : OverflowChecks} {t : Int32} {v : UInt8}
    (h : getCharForT checks t = some v) : getCharForT .off t = some v := by
  rcases (getCharForT_isSome_iff checks t).mp (Option.isSome_of_mem h) with ⟨hhigh, hlow⟩
  rcases Option.isSome_iff_exists.mp hhigh with ⟨high, hhigh⟩
  rcases Option.isSome_iff_exists.mp hlow with ⟨low, hlow⟩
  rw [getCharForT_eq (part1_off_of_part1 hhigh) (part2_off_of_part2 hlow),
    ← getCharForT_eq hhigh hlow, h]

/-- As far as the development profile gets, it does what the release profile does: the same
loop variable, and the same samples in the same order. -/
theorem dev_run_is_release_run {n : ℕ} {s : Chiptune} (h : chiptuneLoop .on n = some s) :
    chiptuneLoop .off n = some s := by
  induction n generalizing s with
  | zero => exact h
  | succ n ih =>
      rcases Option.bind_eq_some_iff.mp h with ⟨s', hs', hiterate⟩
      rcases Option.bind_eq_some_iff.mp hiterate with ⟨v, hv, hs⟩
      rw [chiptuneLoop, ih hs', Option.bind_some, Chiptune.iterate,
        getCharForT_off_of_getCharForT hv]
      exact hs

/-- Three iterations in both profiles. -/
theorem dev_run_is_release_run_three :
    ∃ s, chiptuneLoop .on 3 = some s ∧ chiptuneLoop .off 3 = some s := by
  have hsome : (chiptuneLoop .on 3).isSome = true := by
    decide
  rcases Option.isSome_iff_exists.mp hsome with ⟨s, hs⟩
  exact ⟨s, hs, dev_run_is_release_run hs⟩

/-! ## The samples of the release profile -/

/-- The sample of an iteration. -/
def sampleAt (n : ℕ) : UInt32 :=
  ((getCharForT .off (timeAt n)).getD 0).toUInt32

/-- The release profile writes one sample after the other. -/
theorem chiptuneLoop_fifo {n : ℕ} {s : Chiptune} (h : chiptuneLoop .off n = some s) :
    s.fifo = 0x08 :: (List.range n).map sampleAt := by
  induction n generalizing s with
  | zero =>
      cases h
      rfl
  | succ n ih =>
      rcases Option.bind_eq_some_iff.mp h with ⟨s', hs', hiterate⟩
      rcases Option.bind_eq_some_iff.mp hiterate with ⟨v, hv, hs⟩
      cases hs
      have htime : s'.period.toInt32 = timeAt n := by
        rw [chiptuneLoop_period hs']
        rfl
      rw [htime] at hv
      rw [ih hs', List.range_succ, List.map_append, List.map_singleton, sampleAt, hv]
      rfl

/-- The argument of the formula comes back after `2 ^ 32` iterations. -/
theorem timeAt_add (n : ℕ) : timeAt (n + 2 ^ 32) = timeAt n := by
  have hcounter : UInt32.ofNat (n + 2 ^ 32) = UInt32.ofNat n := by
    apply UInt32.toNat_inj.mp
    rw [UInt32.toNat_ofNat', UInt32.toNat_ofNat', Nat.add_mod_right]
  rw [timeAt, timeAt, hcounter]

/-- In the release profile, the samples repeat after `2 ^ 32` iterations, however long the
loop runs. -/
theorem release_repeats (n : ℕ) :
    ∃ s, chiptuneLoop .off n = some s ∧ s.fifo.length = n + 1 ∧
      ∀ i, i + 2 ^ 32 < n → s.fifo[i + 2 ^ 32 + 1]? = s.fifo[i + 1]? := by
  rcases chiptuneLoop_off_exists n with ⟨s, hs⟩
  refine ⟨s, hs, ?_, ?_⟩
  · rw [chiptuneLoop_fifo hs, List.length_cons, List.length_map, List.length_range]
  · intro i hi
    have hi' : i < n := by omega
    rw [chiptuneLoop_fifo hs, List.getElem?_cons_succ, List.getElem?_cons_succ,
      List.getElem?_map, List.getElem?_map, List.getElem?_range hi, List.getElem?_range hi',
      Option.map_some, Option.map_some, sampleAt, sampleAt, timeAt_add]

end PapajBadge
