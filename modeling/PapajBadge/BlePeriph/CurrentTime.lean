import PapajBadge.BleLibrary.GattServApp
import PapajBadge.Foundation.GregorianCalendar

/-!
# Current Time values

The record of the Current Time characteristic, its ten-byte wire format, and the
conversions from and to the date-time of the real-time clock.

Main results:

- Theorem `CurrentTime.fromBytes_isSome_iff`: ten bytes are enough to decode.
- Theorem `CurrentTime.wire_format_consistent`: encoding and decoding are inverse to
  each other, and decoding never indexes out of range.
- Theorem `CurrentTime.read_write_cycle`: what is served for a date-time is accepted
  as that date-time, and an accepted one is served unchanged.
- Theorem `CurrentTime.toDatetime_valid_iff`: the fields for which the date-time
  handed to the clock exists.
- Theorem `CurrentTime.bytesInRange_iff`: the same of the bytes they are decoded from.
-/

namespace PapajBadge

open GregorianCalendar

/-- The Current Time characteristic, field by field. -/
structure CurrentTime where
  year : UInt16
  month : UInt8
  day : UInt8
  hours : UInt8
  minutes : UInt8
  seconds : UInt8
  dayOfWeek : UInt8
  fractions256 : UInt8
  adjustReason : UInt8
deriving DecidableEq, Repr

/-- The date-time of the clock driver. -/
structure DateTime where
  year : UInt16
  month : UInt8
  day : UInt8
  hour : UInt8
  minute : UInt8
  second : UInt8
  millisecond : UInt16
deriving DecidableEq, Repr

namespace CurrentTime

/-- The default time, which is also the initial mock clock value. -/
def default : CurrentTime where
  year := 2025
  month := 1
  day := 1
  hours := 0
  minutes := 0
  seconds := 0
  dayOfWeek := 4
  fractions256 := 0
  adjustReason := 0

/-- Encode as ten bytes, the year in little-endian order. -/
def toBytes (ct : CurrentTime) : Vector UInt8 10 :=
  #v[ct.year.toUInt8, (ct.year >>> 8).toUInt8, ct.month, ct.day, ct.hours,
    ct.minutes, ct.seconds, ct.dayOfWeek, ct.fractions256, ct.adjustReason]

/-- Decode the first ten bytes; shorter data is rejected. -/
def fromBytes (data : List UInt8) : Option CurrentTime :=
  if hshort : data.length < 10 then none
  else
    have hlen : 10 ≤ data.length := Nat.le_of_not_lt hshort
    some
      { year := u16FromLeBytes data[0] data[1]
        month := data[2]
        day := data[3]
        hours := data[4]
        minutes := data[5]
        seconds := data[6]
        dayOfWeek := data[7]
        fractions256 := data[8]
        adjustReason := data[9] }

/-- Read the clock into a Current Time; the day of the week is a constant. -/
def fromDatetime (dt : DateTime) : CurrentTime where
  year := dt.year
  month := dt.month
  day := dt.day
  hours := dt.hour
  minutes := dt.minute
  seconds := dt.second
  dayOfWeek := 3
  fractions256 := 0
  adjustReason := 0

/-- The date-time for the clock.  An early year and a zero month or day are
replaced; every other field is passed on. -/
def toDatetime (ct : CurrentTime) : DateTime where
  year := if ct.year < 2020 then 2037 else ct.year
  month := if ct.month = 0 then 1 else ct.month
  day := if ct.day = 0 then 1 else ct.day
  hour := ct.hours
  minute := ct.minutes
  second := ct.seconds
  millisecond := 0

/-- Decoding succeeds exactly on ten bytes or more. -/
theorem fromBytes_isSome_iff (data : List UInt8) :
    (fromBytes data).isSome ↔ 10 ≤ data.length := by
  unfold fromBytes
  split_ifs with hshort
  · simp only [Option.isSome_none, Bool.false_eq_true, false_iff]
    omega
  · simp only [Option.isSome_some, true_iff]
    omega

/-- Data too short to decode. -/
theorem fromBytes_eq_none_iff (data : List UInt8) :
    fromBytes data = none ↔ data.length < 10 := by
  rw [← Option.not_isSome_iff_eq_none, fromBytes_isSome_iff]
  omega

/-! ## The wire format -/

/-- `CurrentTime::from_bytes` with the bounds check of every index; the outer `none`
is the panic of an index out of range. -/
def fromBytesIndexed (data : List UInt8) : Option (Option CurrentTime) :=
  if data.length < 10 then some none
  else do
    let yearLow ← data[0]?
    let yearHigh ← data[1]?
    let month ← data[2]?
    let day ← data[3]?
    let hours ← data[4]?
    let minutes ← data[5]?
    let seconds ← data[6]?
    let dayOfWeek ← data[7]?
    let fractions256 ← data[8]?
    let adjustReason ← data[9]?
    some (some
      { year := u16FromLeBytes yearLow yearHigh
        month := month
        day := day
        hours := hours
        minutes := minutes
        seconds := seconds
        dayOfWeek := dayOfWeek
        fractions256 := fractions256
        adjustReason := adjustReason })

/-- No index is out of range, whatever the length of the data. -/
theorem fromBytesIndexed_eq (data : List UInt8) :
    fromBytesIndexed data = some (fromBytes data) := by
  unfold fromBytesIndexed fromBytes
  split_ifs with hshort
  · rfl
  · have hlen : 10 ≤ data.length := Nat.le_of_not_lt hshort
    have hget : ∀ i (hi : i < 10), data[i]? = some data[i] := by
      intro i hi
      exact List.getElem?_eq_getElem (hi.trans_le hlen)
    simp [hget]

/-- Data long enough to decode starts with ten bytes. -/
theorem eq_cons_of_ten_le {data : List UInt8} (hlen : 10 ≤ data.length) :
    ∃ b₀ b₁ b₂ b₃ b₄ b₅ b₆ b₇ b₈ b₉ rest,
      data = b₀ :: b₁ :: b₂ :: b₃ :: b₄ :: b₅ :: b₆ :: b₇ :: b₈ :: b₉ :: rest := by
  match data, hlen with
  | b₀ :: b₁ :: b₂ :: b₃ :: b₄ :: b₅ :: b₆ :: b₇ :: b₈ :: b₉ :: rest, _ =>
      exact ⟨b₀, b₁, b₂, b₃, b₄, b₅, b₆, b₇, b₈, b₉, rest, rfl⟩

/-- Decoding an encoding recovers the record. -/
theorem fromBytes_toBytes (ct : CurrentTime) : fromBytes ct.toBytes.toList = some ct := by
  have hyear := u16FromLeBytes_split ct.year
  simp [fromBytes, toBytes, hyear]

/-- Encoding a decoded record recovers the bytes it was decoded from. -/
theorem toBytes_of_fromBytes {data : List UInt8} {ct : CurrentTime}
    (h : fromBytes data = some ct) : ct.toBytes.toList = data.take 10 := by
  have hlen : 10 ≤ data.length := by
    rw [← fromBytes_isSome_iff, h]
    rfl
  rcases eq_cons_of_ten_le hlen with ⟨b₀, b₁, b₂, b₃, b₄, b₅, b₆, b₇, b₈, b₉, rest, rfl⟩
  simp only [fromBytes, List.length_cons] at h
  split_ifs at h with hshort
  have hct := (Option.some.inj h).symm
  rw [hct]
  simp [toBytes, u16FromLeBytes_low, u16FromLeBytes_high]

/-- The wire format is consistent: every record survives encoding and decoding;
data is rejected exactly when it is shorter than ten bytes, without an index out of
range; and what is accepted encodes to the first ten bytes of the data. -/
theorem wire_format_consistent :
    (∀ ct : CurrentTime, fromBytes ct.toBytes.toList = some ct) ∧
      ∀ data : List UInt8,
        fromBytesIndexed data = some (fromBytes data) ∧
          (fromBytes data = none ↔ data.length < 10) ∧
          ∀ ct, fromBytes data = some ct → ct.toBytes.toList = data.take 10 := by
  refine ⟨fromBytes_toBytes, fun data => ⟨fromBytesIndexed_eq data, ?_, ?_⟩⟩
  · exact fromBytes_eq_none_iff data
  · intro ct h
    exact toBytes_of_fromBytes h

/-! ## The read path and the write path -/

/-- The bytes a peer reads while the clock shows a date-time. -/
def servedBytes (dt : DateTime) : List UInt8 :=
  (fromDatetime dt).toBytes.toList

/-- The date-time the clock is given for the bytes a peer writes. -/
def acceptedDatetime (data : List UInt8) : Option DateTime :=
  (fromBytes data).map toDatetime

/-- Fields that the conversion to a date-time leaves alone. -/
structure Normal (dt : DateTime) : Prop where
  year : 2020 ≤ dt.year
  month : 1 ≤ dt.month
  day : 1 ≤ dt.day

/-- A normal date-time survives the two conversions but for its milliseconds. -/
theorem toDatetime_fromDatetime {dt : DateTime} (h : Normal dt) :
    (fromDatetime dt).toDatetime = { dt with millisecond := 0 } := by
  have hyear : ¬dt.year < 2020 := UInt16.not_lt.mpr h.year
  have hmonth : dt.month ≠ 0 := by
    intro hzero
    have hle := h.month
    rw [hzero] at hle
    exact absurd hle (by decide)
  have hday : dt.day ≠ 0 := by
    intro hzero
    have hle := h.day
    rw [hzero] at hle
    exact absurd hle (by decide)
  simp [toDatetime, fromDatetime, hyear, hmonth, hday]

/-- Reading and writing back gives the date-time without its milliseconds. -/
theorem acceptedDatetime_servedBytes {dt : DateTime} (h : Normal dt) :
    acceptedDatetime (servedBytes dt) = some { dt with millisecond := 0 } := by
  rw [acceptedDatetime, servedBytes, fromBytes_toBytes, Option.map_some,
    toDatetime_fromDatetime h]

/-- A byte whose zero is replaced by one is at least one. -/
theorem one_le_repaired (b : UInt8) : 1 ≤ (if b = 0 then 1 else b) := by
  split_ifs with hzero
  · decide
  · rw [UInt8.le_iff_toNat_le]
    have hne : b.toNat ≠ 0 := fun h => hzero (UInt8.toNat_inj.mp h)
    exact Nat.one_le_iff_ne_zero.mpr hne

/-- The conversion to a date-time makes it normal. -/
theorem toDatetime_normal (ct : CurrentTime) : Normal ct.toDatetime where
  year := by
    change 2020 ≤ if ct.year < 2020 then 2037 else ct.year
    split_ifs with hearly
    · decide
    · exact UInt16.not_lt.mp hearly
  month := one_le_repaired ct.month
  day := one_le_repaired ct.day

/-- The read path and the write path agree: a normal date-time is served as bytes
that are accepted as the same date-time without milliseconds; and every payload of
ten bytes or more is accepted as a normal date-time that the cycle leaves alone. -/
theorem read_write_cycle :
    (∀ dt : DateTime, Normal dt →
      acceptedDatetime (servedBytes dt) = some { dt with millisecond := 0 }) ∧
    ∀ data : List UInt8, 10 ≤ data.length →
      ∃ dt, acceptedDatetime data = some dt ∧ Normal dt ∧
        acceptedDatetime (servedBytes dt) = some dt := by
  refine ⟨fun dt h => acceptedDatetime_servedBytes h, ?_⟩
  intro data hlen
  rcases Option.isSome_iff_exists.mp ((fromBytes_isSome_iff data).mpr hlen) with ⟨ct, hct⟩
  have hnormal := toDatetime_normal ct
  refine ⟨ct.toDatetime, ?_, hnormal, ?_⟩
  · rw [acceptedDatetime, hct, Option.map_some]
  · rw [acceptedDatetime_servedBytes hnormal]
    rfl

/-! ## Validity of the decoded time -/

/-- Fields whose repaired date exists and whose time of day exists: the month and
the day may be zero, which the conversion repairs, but not too large. -/
def InRange (ct : CurrentTime) : Prop :=
  ct.month.toNat ≤ 12 ∧
    ct.day.toNat ≤ daysInMonth (if ct.year < 2020 then 2037 else ct.year).toNat
      (if ct.month = 0 then 1 else ct.month).toNat ∧
    ct.hours.toNat < 24 ∧ ct.minutes.toNat < 60 ∧ ct.seconds.toNat < 60

instance (ct : CurrentTime) : Decidable ct.InRange := by
  unfold InRange
  infer_instance

end CurrentTime

/-- A date-time no earlier than 2020 that exists in the Gregorian calendar. -/
def DateTime.Valid (dt : DateTime) : Prop :=
  2020 ≤ dt.year.toNat ∧ ValidDate dt.year.toNat dt.month.toNat dt.day.toNat ∧
    ValidTime dt.hour.toNat dt.minute.toNat dt.second.toNat

instance (dt : DateTime) : Decidable dt.Valid := by
  unfold DateTime.Valid
  infer_instance

/-- Replacing zero by one does not change whether a byte stays below a positive
bound. -/
theorem repaired_le_iff (b : UInt8) {bound : Nat} (hbound : 1 ≤ bound) :
    (if b = 0 then 1 else b).toNat ≤ bound ↔ b.toNat ≤ bound := by
  split_ifs with h
  · simp [h, hbound]
  · rfl

/-- The date-time handed to the clock exists exactly when the fields are in
range. -/
theorem CurrentTime.toDatetime_valid_iff (ct : CurrentTime) :
    ct.toDatetime.Valid ↔ ct.InRange := by
  have hnormal := ct.toDatetime_normal
  have hyear : 2020 ≤ ct.toDatetime.year.toNat := UInt16.le_iff_toNat_le.mp hnormal.year
  have hmonth : 1 ≤ ct.toDatetime.month.toNat := UInt8.le_iff_toNat_le.mp hnormal.month
  have hday : 1 ≤ ct.toDatetime.day.toNat := UInt8.le_iff_toNat_le.mp hnormal.day
  constructor
  · rintro ⟨-, ⟨-, hmonthLe, -, hdayLe⟩, htime⟩
    have hdays : 1 ≤ daysInMonth ct.toDatetime.year.toNat ct.toDatetime.month.toNat :=
      hday.trans hdayLe
    exact ⟨(repaired_le_iff ct.month (by decide)).mp hmonthLe,
      (repaired_le_iff ct.day hdays).mp hdayLe, htime⟩
  · rintro ⟨hmonthLe, hdayLe, htime⟩
    have hmonthLe' : ct.toDatetime.month.toNat ≤ 12 :=
      (repaired_le_iff ct.month (by decide)).mpr hmonthLe
    have hdays : 1 ≤ daysInMonth ct.toDatetime.year.toNat ct.toDatetime.month.toNat :=
      (by decide : 1 ≤ 28).trans (daysInMonth_ge _ hmonth hmonthLe')
    exact ⟨hyear, ⟨hmonth, hmonthLe', hday, (repaired_le_iff ct.day hdays).mpr hdayLe⟩, htime⟩

/-! ### Validity of the bytes -/

namespace CurrentTime

/-- Ten bytes of a Current Time whose date, with an early year and a zero month replaced,
exists, and whose time of day exists. -/
def BytesInRange (value : Nat → UInt8) : Prop :=
  let year := (value 0).toNat + 256 * (value 1).toNat
  let month := (value 2).toNat
  month ≤ 12 ∧
    (value 3).toNat ≤ daysInMonth (if year < 2020 then 2037 else year)
      (if month = 0 then 1 else month) ∧
    (value 4).toNat < 24 ∧ (value 5).toNat < 60 ∧ (value 6).toNat < 60

/-- The record in the first ten bytes of a memory. -/
def ofMemory (value : Nat → UInt8) : CurrentTime where
  year := u16FromLeBytes (value 0) (value 1)
  month := value 2
  day := value 3
  hours := value 4
  minutes := value 5
  seconds := value 6
  dayOfWeek := value 7
  fractions256 := value 8
  adjustReason := value 9

/-- A slice of ten bytes or more decodes to the record it starts with. -/
theorem fromBytes_map_range (value : Nat → UInt8) {len : Nat} (hlen : 10 ≤ len) :
    fromBytes ((List.range len).map value) = some (ofMemory value) := by
  have hlong : ¬((List.range len).map value).length < 10 := by
    rw [List.length_map, List.length_range]
    omega
  rw [fromBytes, dif_neg hlong]
  simp [ofMemory]

/-- The year that the conversion hands on, from its bytes. -/
theorem repaired_year (value : Nat → UInt8) :
    (if (ofMemory value).year < 2020 then 2037 else (ofMemory value).year).toNat =
      if (value 0).toNat + 256 * (value 1).toNat < 2020 then 2037
      else (value 0).toNat + 256 * (value 1).toNat := by
  have hyear : (ofMemory value).year.toNat = (value 0).toNat + 256 * (value 1).toNat :=
    u16FromLeBytes_toNat (value 0) (value 1)
  have hearly : (ofMemory value).year < 2020 ↔ (value 0).toNat + 256 * (value 1).toNat < 2020 := by
    rw [← hyear]
    exact UInt16.lt_iff_toNat_lt
  by_cases h : (ofMemory value).year < 2020
  · rw [if_pos h, if_pos (hearly.mp h)]
    rfl
  · rw [if_neg h, if_neg (mt hearly.mpr h), hyear]

/-- The month that the conversion hands on, from its byte. -/
theorem repaired_month (value : Nat → UInt8) :
    (if (ofMemory value).month = 0 then 1 else (ofMemory value).month).toNat =
      if (value 2).toNat = 0 then 1 else (value 2).toNat := by
  have hzero : (ofMemory value).month = 0 ↔ (value 2).toNat = 0 := UInt8.toNat_inj.symm
  by_cases h : (ofMemory value).month = 0
  · rw [if_pos h, if_pos (hzero.mp h)]
    rfl
  · rw [if_neg h, if_neg (mt hzero.mpr h)]
    rfl

/-- The bytes are in range exactly when the fields are. -/
theorem bytesInRange_iff (value : Nat → UInt8) :
    BytesInRange value ↔ (ofMemory value).InRange := by
  unfold BytesInRange InRange
  rw [repaired_year, repaired_month]
  rfl

end CurrentTime

end PapajBadge
