import LlmGuardProxy.Machinery.Calendar
import LlmGuardProxy.Machinery.Decimal

/-!
# Budget/Dates — the dates that daily budgets are counted under

A request is counted under the UTC date of the day that began at the reset hour.  The date is a text, so
that the store can compare it, and it is read back to find the dates that are too old.

* `civilFromDays_eq` — the date of a day number is its date in the calendar.
* `parseUtcDay_formatUtcDay` — a formatted date read back.
* `budget_dates_right` — the dates over the whole calendar, their order, and when two times share one.
-/

namespace LlmGuardProxy

open Machinery

/-! ## Machine numbers -/

/-- `i64::MAX`. -/
def i64Max : ℤ := 2 ^ 63 - 1

/-- `i64::saturating_add`. -/
def saturatingAddI64 (a b : ℤ) : ℤ := max (-2 ^ 63) (min i64Max (a + b))

/-- The digits that `str::parse` of an integer reads: at least one, and no other character. -/
def parseDigits (digits : Text) : Option ℕ :=
  if digits ≠ [] ∧ digits.all Char.isDigit = true then some (Nat.ofDigitChars 10 digits 0) else none

/-- `str::parse::<u32>`. -/
def parseU32 (text : Text) : Option ℕ :=
  let digits := if text.head? = some '+' then text.tail else text
  (parseDigits digits).filter (· < 2 ^ 32)

/-- `str::parse::<i32>`. -/
def parseI32 (text : Text) : Option ℤ :=
  match text with
  | '-' :: digits => ((parseDigits digits).filter (· ≤ 2 ^ 31)).map fun n => -(n : ℤ)
  | '+' :: digits => ((parseDigits digits).filter (· < 2 ^ 31)).map fun n => (n : ℤ)
  | digits => ((parseDigits digits).filter (· < 2 ^ 31)).map fun n => (n : ℤ)

/-- `str::split_once` at one character. -/
def splitOnce (c : Char) : Text → Option (Text × Text)
  | [] => none
  | first :: rest =>
      if first = c then some ([], rest)
      else (splitOnce c rest).map fun (before, after) => (first :: before, after)

/-- `format!("{n:0width$}")` of a signed number: the sign counts to the width. -/
def formatSigned (width : ℕ) (n : ℤ) : Text :=
  if n < 0 then '-' :: zeroPadded (width - 1) n.natAbs else zeroPadded width n.natAbs

/-! ## Civil dates -/

/-- `DAYS_FROM_CIVIL_UNIX_EPOCH`. -/
def daysFromCivilUnixEpoch : ℤ := 719468

/-- `SECONDS_PER_DAY`. -/
def secondsPerDay : ℕ := 86400

/-- `days_from_civil`. -/
def daysFromCivil (year : ℤ) (month day : ℕ) : Option ℤ :=
  if ¬ (1 ≤ month ∧ month ≤ 12) ∨ ¬ (1 ≤ day ∧ day ≤ 31) then none
  else
    let year := year - if month ≤ 2 then 1 else 0
    let era := (if 0 ≤ year then year else year - 399).tdiv 400
    let yoe := year - era * 400
    let month : ℤ := month
    let doy := (153 * (month + if 2 < month then -3 else 9) + 2).tdiv 5 + day - 1
    let doe := yoe * 365 + yoe.tdiv 4 - yoe.tdiv 100 + doy
    some (era * 146097 + doe - daysFromCivilUnixEpoch)

/-- `civil_from_days`. -/
def civilFromDays (days : ℤ) : ℤ × ℤ × ℤ :=
  let days := saturatingAddI64 days daysFromCivilUnixEpoch
  let era := (if 0 ≤ days then days else days - 146096).tdiv 146097
  let doe := days - era * 146097
  let yoe := (doe - doe.tdiv 1460 + doe.tdiv 36524 - doe.tdiv 146096).tdiv 365
  let year := yoe + era * 400
  let doy := doe - (365 * yoe + yoe.tdiv 4 - yoe.tdiv 100)
  let mp := (5 * doy + 2).tdiv 153
  let day := doy - (153 * mp + 2).tdiv 5 + 1
  let month := mp + if mp < 10 then 3 else -9
  let year := year + if month ≤ 2 then 1 else 0
  (year, month, day)

/-- `format_utc_day`. -/
def formatUtcDay (day : ℤ) : Text :=
  let (year, month, day) := civilFromDays day
  formatSigned 4 year ++ '-' :: (formatSigned 2 month ++ '-' :: formatSigned 2 day)

/-- `parse_utc_day`. -/
def parseUtcDay (date : Text) : Option ℤ := do
  let (year, suffix) ← splitOnce '-' date
  let (month, day) ← splitOnce '-' suffix
  daysFromCivil (← parseI32 year) (← parseU32 month) (← parseU32 day)

/-- A `SystemTime`, in nanoseconds since the epoch, to whole seconds, and to none before it. -/
def secondsSinceEpoch (time : ℤ) : ℕ := (time / 1000000000).toNat

/-- The day number of `budget_date_for_time`. -/
def budgetDay (time : ℤ) (resetHourUtc : ℕ) : ℤ :=
  let seconds := secondsSinceEpoch time
  let day : ℤ := min (seconds / secondsPerDay : ℕ) i64Max
  let hour := seconds % secondsPerDay / 3600
  if hour < resetHourUtc then saturatingAddI64 day (-1) else day

/-- `budget_date_for_time`. -/
def budgetDateForTime (time : ℤ) (resetHourUtc : ℕ) : Text :=
  formatUtcDay (budgetDay time resetHourUtc)

/-! ## Years that begin in March -/

/-- The days of an era before a year of it. -/
def yearStart (yoe : ℤ) : ℤ := 365 * yoe + yoe / 4 - yoe / 100

/-- A day since the first of March of the year 0: its era, the year of the era, and the day of that year,
where years begin in March. -/
structure MarchDay (z era yoe doy : ℤ) : Prop where
  era_nonneg : 0 ≤ era
  yoe_nonneg : 0 ≤ yoe
  yoe_le : yoe ≤ 399
  doy_nonneg : 0 ≤ doy
  doy_le : doy ≤ if IsLeapYear (yoe + 1) then 365 else 364
  eq : z = era * 146097 + yearStart yoe + doy

/-- A later year of the era begins after the days of an earlier one. -/
theorem yearStart_lt {yoe yoe' doy : ℤ} (hnonneg : 0 ≤ yoe) (hlt : yoe < yoe') (hle : yoe' ≤ 399)
    (hdoy : doy ≤ if IsLeapYear (yoe + 1) then 365 else 364) :
    yearStart yoe + doy < yearStart yoe' := by
  unfold yearStart
  split at hdoy
  case isTrue hleap =>
    obtain ⟨hfour, hcentury⟩ := hleap
    omega
  case isFalse hleap =>
    rw [IsLeapYear] at hleap
    omega

/-- An era has 146097 days. -/
theorem yearStart_add_lt {yoe doy : ℤ} (hnonneg : 0 ≤ yoe) (hle : yoe ≤ 399)
    (hdoy : doy ≤ if IsLeapYear (yoe + 1) then 365 else 364) : yearStart yoe + doy < 146097 := by
  unfold yearStart
  split at hdoy
  case isTrue => omega
  case isFalse hleap =>
    rw [IsLeapYear] at hleap
    omega

theorem yearStart_nonneg {yoe : ℤ} (hnonneg : 0 ≤ yoe) : 0 ≤ yearStart yoe := by
  unfold yearStart
  omega

/-- **The parts of a day are unique.** -/
theorem MarchDay.unique {z era yoe doy era' yoe' doy' : ℤ} (h : MarchDay z era yoe doy)
    (h' : MarchDay z era' yoe' doy') : era = era' ∧ yoe = yoe' ∧ doy = doy' := by
  have hday := yearStart_add_lt h.yoe_nonneg h.yoe_le h.doy_le
  have hday' := yearStart_add_lt h'.yoe_nonneg h'.yoe_le h'.doy_le
  have hstart := yearStart_nonneg h.yoe_nonneg
  have hstart' := yearStart_nonneg h'.yoe_nonneg
  have heq := h.eq.symm.trans h'.eq
  have hdoy := h.doy_nonneg
  have hdoy' := h'.doy_nonneg
  obtain rfl : era = era' := by omega
  rcases lt_trichotomy yoe yoe' with hlt | rfl | hlt
  · have := yearStart_lt h.yoe_nonneg hlt h'.yoe_le h.doy_le
    omega
  · exact ⟨rfl, rfl, by omega⟩
  · have := yearStart_lt h'.yoe_nonneg hlt h.yoe_le h'.doy_le
    omega

/-- A day of an era by its century. -/
theorem exists_century {doe : ℤ} (hnonneg : 0 ≤ doe) (hlt : doe < 146097) :
    ∃ c rest : ℤ, 0 ≤ c ∧ c ≤ 3 ∧ 0 ≤ rest ∧ (rest ≤ 36523 ∨ c = 3 ∧ rest = 36524) ∧
      doe = 36524 * c + rest := by
  by_cases h₁ : doe < 36524
  · exact ⟨0, doe, by omega⟩
  by_cases h₂ : doe < 73048
  · exact ⟨1, doe - 36524, by omega⟩
  by_cases h₃ : doe < 109572
  · exact ⟨2, doe - 73048, by omega⟩
  · exact ⟨3, doe - 109572, by omega⟩

/-- A day of a leap cycle by its year. -/
theorem exists_year {s : ℤ} (hnonneg : 0 ≤ s) (hle : s ≤ 1460) :
    ∃ r doy : ℤ, 0 ≤ r ∧ r ≤ 3 ∧ 0 ≤ doy ∧ (doy ≤ 364 ∨ r = 3 ∧ doy = 365) ∧
      s = 365 * r + doy := by
  by_cases h₁ : s < 365
  · exact ⟨0, s, by omega⟩
  by_cases h₂ : s < 730
  · exact ⟨1, s - 365, by omega⟩
  by_cases h₃ : s < 1095
  · exact ⟨2, s - 730, by omega⟩
  · exact ⟨3, s - 1095, by omega⟩

/-- A day of an era by its century, its leap cycle, the year of the cycle and the day of the year. -/
structure CycleDay (doe c q r doy : ℤ) : Prop where
  century : 0 ≤ c ∧ c ≤ 3
  cycle : 0 ≤ q ∧ q ≤ 24
  year : 0 ≤ r ∧ r ≤ 3
  day : 0 ≤ doy ∧ (doy ≤ 364 ∨ r = 3 ∧ (q ≠ 24 ∨ c = 3) ∧ doy = 365)
  eq : doe = 36524 * c + 1461 * q + 365 * r + doy

theorem exists_cycleDay {doe : ℤ} (hnonneg : 0 ≤ doe) (hlt : doe < 146097) :
    ∃ c q r doy, CycleDay doe c q r doy := by
  obtain ⟨c, rest, hc, hc', hrest, hrest', rfl⟩ := exists_century hnonneg hlt
  obtain ⟨r, doy, hr, hr', hdoy, hdoy', heq⟩ :=
    @exists_year (rest % 1461) (by omega) (by omega)
  have hdiv := Int.mul_ediv_add_emod rest 1461
  have hq : 0 ≤ rest / 1461 ∧ rest / 1461 ≤ 24 := by omega
  generalize rest / 1461 = q at hdiv hq
  generalize rest % 1461 = s at hdiv heq
  refine ⟨c, q, r, doy, ⟨hc, hc'⟩, hq, ⟨hr, hr'⟩, ⟨hdoy, ?_⟩, by omega⟩
  omega

namespace CycleDay

variable {doe c q r doy : ℤ}

theorem yearStart_eq (h : CycleDay doe c q r doy) :
    yearStart (100 * c + 4 * q + r) = 36524 * c + 1461 * q + 365 * r := by
  obtain ⟨hc, hq, hr, -, -⟩ := h
  have hfour : (100 * c + 4 * q + r) / 4 = 25 * c + q := by omega
  have hcentury : (100 * c + 4 * q + r) / 100 = c := by omega
  rw [yearStart, hfour, hcentury]
  omega

theorem isLeapYear_iff (h : CycleDay doe c q r doy) :
    IsLeapYear (100 * c + 4 * q + r + 1) ↔ r = 3 ∧ (q ≠ 24 ∨ c = 3) := by
  obtain ⟨hc, hq, hr, -, -⟩ := h
  have hfour : (100 * c + 4 * q + r + 1) % 4 = 0 ↔ r = 3 := by omega
  have hcentury : (100 * c + 4 * q + r + 1) % 100 = 0 ↔ r = 3 ∧ q = 24 := by omega
  have hera : (100 * c + 4 * q + r + 1) % 400 = 0 ↔ r = 3 ∧ q = 24 ∧ c = 3 := by omega
  rw [IsLeapYear, hfour, Ne, hcentury, hera]
  tauto

/-- The divisions of `civil_from_days` find the year. -/
theorem yoe_eq (h : CycleDay doe c q r doy) :
    (doe - doe / 1460 + doe / 36524 - doe / 146096) / 365 = 100 * c + 4 * q + r := by
  obtain ⟨hc, hq, hr, hdoy, heq⟩ := h
  have hrest : 1461 * q + 365 * r + doy ≤ 36523 ∨
      c = 3 ∧ 1461 * q + 365 * r + doy = 36524 := by omega
  have hcentury : doe / 36524 - doe / 146096 = c := by
    rcases hrest with hrest | ⟨rfl, hrest⟩
    · have hdiv : doe / 36524 = c := by omega
      have hera : doe / 146096 = 0 := by omega
      omega
    · obtain rfl : doe = 146096 := by omega
      decide
  obtain ⟨carry, hcarry⟩ : ∃ carry, carry = (24 * c + q + 365 * r + doy) / 1460 := ⟨_, rfl⟩
  have hcycle : doe / 1460 = 25 * c + q + carry := by omega
  have hsmall : 0 ≤ doy - carry ∧ doy - carry ≤ 364 := by omega
  omega

end CycleDay

/-- **The year of an era**, by the divisions of `civil_from_days`. -/
theorem yearStart_of_doe {doe : ℤ} (hnonneg : 0 ≤ doe) (hlt : doe < 146097) :
    let yoe := (doe - doe / 1460 + doe / 36524 - doe / 146096) / 365
    0 ≤ yoe ∧ yoe ≤ 399 ∧ yearStart yoe ≤ doe ∧
      doe - yearStart yoe ≤ if IsLeapYear (yoe + 1) then 365 else 364 := by
  obtain ⟨c, q, r, doy, h⟩ := exists_cycleDay hnonneg hlt
  dsimp only
  rw [h.yoe_eq, h.yearStart_eq, if_congr h.isLeapYear_iff rfl rfl]
  obtain ⟨hc, hq, hr, hdoy, heq⟩ := h
  refine ⟨by omega, by omega, by omega, ?_⟩
  split
  case isTrue => omega
  case isFalse => omega

/-- Every day since then has its parts. -/
theorem marchDay_of_nonneg {z : ℤ} (hz : 0 ≤ z) :
    let doe := z % 146097
    let yoe := (doe - doe / 1460 + doe / 36524 - doe / 146096) / 365
    MarchDay z (z / 146097) yoe (doe - yearStart yoe) := by
  obtain ⟨hyoe, hyoe', hstart, hdoy⟩ :=
    yearStart_of_doe (Int.emod_nonneg z (by decide : (146097 : ℤ) ≠ 0))
      (Int.emod_lt_of_pos z (by decide))
  dsimp only
  generalize (z % 146097 - z % 146097 / 1460 + z % 146097 / 36524 - z % 146097 / 146096) / 365 = yoe
    at hyoe hyoe' hstart hdoy ⊢
  exact ⟨by omega, hyoe, hyoe', by omega, hdoy, by omega⟩

/-! ## Months that begin in March -/

/-- The date of the parts of a day: the months are counted from March, so that January and February belong
to the next year. -/
def marchDate (era yoe doy : ℤ) : ℤ × ℤ × ℤ :=
  let mp := (5 * doy + 2) / 153
  (yoe + era * 400 + (if mp < 10 then 0 else 1), if mp < 10 then mp + 3 else mp - 9,
    doy - (153 * mp + 2) / 5 + 1)

/-- **The date of a day number** is the date of its parts. -/
theorem civilFromDays_eq_marchDate {d era yoe doy : ℤ}
    (h : MarchDay (d + daysFromCivilUnixEpoch) era yoe doy)
    (hmax : d + daysFromCivilUnixEpoch ≤ i64Max) : civilFromDays d = marchDate era yoe doy := by
  have hz : 0 ≤ d + daysFromCivilUnixEpoch := by
    have hstart := yearStart_nonneg h.yoe_nonneg
    have hera := h.era_nonneg
    have hdoy := h.doy_nonneg
    have heq := h.eq
    omega
  have hadd : saturatingAddI64 d daysFromCivilUnixEpoch = d + daysFromCivilUnixEpoch := by
    unfold saturatingAddI64
    omega
  generalize d + daysFromCivilUnixEpoch = z at h hmax hz hadd
  obtain ⟨rfl, hyoe, hdoy⟩ := h.unique (marchDay_of_nonneg hz)
  have hdoy_le : doy ≤ 365 := by
    have := h.doy_le
    split at this <;> omega
  unfold civilFromDays
  extract_lets days era doe yoe' year doy' mp day month year'
  have hdays : days = z := hadd
  have hera : era = z / 146097 := by
    rw [← Int.tdiv_eq_ediv_of_nonneg hz]
    simp only [era, hdays, if_pos hz]
  have hdoe : doe = z % 146097 := by
    simp only [doe, hdays, hera]
    omega
  have hdoe_nonneg : 0 ≤ doe := by omega
  have hyoe' : yoe' = yoe := by
    simp only [yoe', Int.tdiv_eq_ediv_of_nonneg hdoe_nonneg]
    rw [Int.tdiv_eq_ediv_of_nonneg (by omega), hdoe, hyoe]
  have hdoy' : doy' = doy := by
    simp only [doy', hyoe', Int.tdiv_eq_ediv_of_nonneg h.yoe_nonneg, hdoe]
    rw [← yearStart, hdoy, hyoe]
  have hdoy_nonneg := h.doy_nonneg
  have hmp : mp = (5 * doy + 2) / 153 := by
    simp only [mp, hdoy']
    exact Int.tdiv_eq_ediv_of_nonneg (by omega)
  have hday : day = doy - (153 * mp + 2) / 5 + 1 := by
    simp only [day, hdoy']
    rw [Int.tdiv_eq_ediv_of_nonneg (by omega)]
  have hmonth : month = if mp < 10 then mp + 3 else mp - 9 := by
    simp only [month]
    split <;> omega
  have hyear : year' = yoe + z / 146097 * 400 + if mp < 10 then 0 else 1 := by
    simp only [year', year, hyoe', hera, hmonth]
    by_cases hlt : mp < 10
    · rw [if_pos hlt, if_pos hlt, if_neg (by omega)]
    · rw [if_neg hlt, if_neg hlt, if_pos (by omega)]
  rw [marchDate, ← hmp, ← hyear, ← hmonth, ← hday]

/-! ## The calendar -/

/-- Year, month and day of a date. -/
def civil (x : Date) : ℤ × ℤ × ℤ := (x.year, x.month, x.day)

theorem civil_next_eq (x : Date) : civil x.next =
    if x.day < daysInMonth x.year x.month then (x.year, x.month, x.day + 1)
    else if x.month < 12 then (x.year, x.month + 1, 1) else (x.year + 1, 1, 1) := by
  unfold civil Date.next
  split_ifs <;> rfl

/-- Eras do not change which years are leap years. -/
theorem isLeapYear_add_era (year era : ℤ) : IsLeapYear (year + era * 400) ↔ IsLeapYear year := by
  unfold IsLeapYear
  omega

/-- **The day after** has the parts that come next. -/
theorem MarchDay.next {z era yoe doy : ℤ} (h : MarchDay z era yoe doy) :
    (doy < (if IsLeapYear (yoe + 1) then 365 else 364) ∧ MarchDay (z + 1) era yoe (doy + 1)) ∨
      (doy = (if IsLeapYear (yoe + 1) then 365 else 364) ∧ yoe < 399 ∧
        MarchDay (z + 1) era (yoe + 1) 0) ∨
      doy = 365 ∧ yoe = 399 ∧ MarchDay (z + 1) (era + 1) 0 0 := by
  obtain ⟨hera, hyoe, hyoe', hdoy, hdoy', heq⟩ := h
  rcases lt_or_eq_of_le hdoy' with hlt | hlast
  · exact .inl ⟨hlt, hera, hyoe, hyoe', by omega, by omega, by omega⟩
  · rcases lt_or_eq_of_le hyoe' with hlt | rfl
    · refine .inr (.inl ⟨hlast, hlt, hera, by omega, by omega, le_refl 0, by split <;> omega, ?_⟩)
      have hstart : yearStart (yoe + 1) =
          yearStart yoe + 1 + if IsLeapYear (yoe + 1) then 365 else 364 := by
        unfold yearStart
        split
        case isTrue hleap =>
          obtain ⟨hfour, hcentury⟩ := hleap
          omega
        case isFalse hleap =>
          rw [IsLeapYear] at hleap
          omega
      omega
    · rw [if_pos (by decide)] at hlast
      exact .inr (.inr ⟨hlast, rfl, by omega, le_refl 0, by omega, le_refl 0, by split <;> omega,
        by rw [heq, hlast]; simp [yearStart]; omega⟩)

/-- The length of a month that is not February, counted from March. -/
theorem daysInMonth_of_march {year mp : ℤ} (hnonneg : 0 ≤ mp) (hlt : mp < 11) :
    daysInMonth year (if mp < 10 then mp + 3 else mp - 9) =
      (153 * (mp + 1) + 2) / 5 - (153 * mp + 2) / 5 := by
  unfold daysInMonth
  interval_cases mp <;> simp

/-- The next day of a month from March to January, or the first of the month after it. -/
theorem civil_next_of_month {x : Date} {era yoe doy mp : ℤ} (hmp : mp = (5 * doy + 2) / 153)
    (hnonneg : 0 ≤ doy) (hlt : mp < 11) (hx : civil x = marchDate era yoe doy) :
    civil x.next = marchDate era yoe (doy + 1) := by
  have hpos : 0 ≤ mp := by omega
  unfold civil marchDate at hx
  rw [← hmp] at hx
  obtain ⟨hyear, hmonth, hday⟩ : x.year = yoe + era * 400 + (if mp < 10 then 0 else 1) ∧
      x.month = (if mp < 10 then mp + 3 else mp - 9) ∧
      x.day = doy - (153 * mp + 2) / 5 + 1 := by simpa using hx
  have hlength := @daysInMonth_of_march x.year mp hpos hlt
  rw [← hmonth] at hlength
  rw [civil_next_eq, marchDate]
  by_cases hinside : x.day < daysInMonth x.year x.month
  · have hmp' : (5 * (doy + 1) + 2) / 153 = mp := by omega
    rw [if_pos hinside, hmp', hyear, hmonth, hday]
    simp only [Prod.mk.injEq, true_and]
    omega
  · have hmp' : (5 * (doy + 1) + 2) / 153 = mp + 1 := by omega
    rw [if_neg hinside, hmp']
    split
    case isTrue htwelve =>
      rw [hyear, hmonth]
      simp only [Prod.mk.injEq]
      refine ⟨?_, ?_, by omega⟩
      · split_ifs <;> omega
      · split_ifs <;> omega
    case isFalse htwelve =>
      have hnine : mp = 9 := by split_ifs at hmonth <;> omega
      rw [hyear, hnine]
      simp only [Prod.mk.injEq]
      refine ⟨by simp, by simp, by omega⟩

/-- The next day of a February, or the first of March. -/
theorem civil_next_of_february {x : Date} {era yoe doy : ℤ} (hmp : (5 * doy + 2) / 153 = 11)
    (hx : civil x = marchDate era yoe doy) :
    civil x.next = if doy < (if IsLeapYear (yoe + 1) then 365 else 364)
      then marchDate era yoe (doy + 1) else (yoe + 1 + era * 400, 3, 1) := by
  unfold civil marchDate at hx
  rw [hmp] at hx
  obtain ⟨hyear, hmonth, hday⟩ : x.year = yoe + era * 400 + 1 ∧ x.month = 2 ∧
      x.day = doy - 337 + 1 := by simpa using hx
  have hleap : IsLeapYear x.year ↔ IsLeapYear (yoe + 1) := by
    rw [hyear, add_right_comm, isLeapYear_add_era]
  have hlength : daysInMonth x.year x.month = if IsLeapYear (yoe + 1) then 29 else 28 := by
    rw [hmonth, daysInMonth, if_pos rfl, if_congr hleap rfl rfl]
  rw [civil_next_eq]
  by_cases hinside : x.day < daysInMonth x.year x.month
  · have hlt : doy < if IsLeapYear (yoe + 1) then 365 else 364 := by
      rw [hlength] at hinside
      split_ifs at hinside ⊢ <;> omega
    have hmp' : (5 * (doy + 1) + 2) / 153 = 11 := by
      split_ifs at hlt <;> omega
    rw [if_pos hinside, if_pos hlt, marchDate, hmp', hyear, hmonth, hday]
    simp only [Prod.mk.injEq]
    refine ⟨by simp, by simp, by omega⟩
  · have hge : ¬ doy < if IsLeapYear (yoe + 1) then 365 else 364 := by
      rw [hlength] at hinside
      split_ifs at hinside ⊢ <;> omega
    rw [if_neg hinside, if_neg hge, if_pos (by omega), hyear, hmonth]
    simp only [Prod.mk.injEq, and_true]
    omega

theorem marchDate_zero (era yoe : ℤ) : marchDate era yoe 0 = (yoe + era * 400, 3, 1) := by
  simp [marchDate]

/-- The next date is the date of the next parts. -/
theorem civil_next {x : Date} {z era yoe doy : ℤ} (h : MarchDay z era yoe doy)
    (hx : civil x = marchDate era yoe doy) :
    ∃ era' yoe' doy', MarchDay (z + 1) era' yoe' doy' ∧ civil x.next = marchDate era' yoe' doy' := by
  have hnonneg := h.doy_nonneg
  have hle : doy ≤ 365 := by
    have := h.doy_le
    split at this <;> omega
  by_cases hmp : (5 * doy + 2) / 153 < 11
  · have hlt : doy < if IsLeapYear (yoe + 1) then 365 else 364 := by split <;> omega
    rcases h.next with ⟨-, hnext⟩ | ⟨hlast, -⟩ | ⟨hlast, -⟩
    · exact ⟨era, yoe, doy + 1, hnext, civil_next_of_month rfl hnonneg hmp hx⟩
    · omega
    · omega
  · have hnext := civil_next_of_february (by omega) hx
    rcases h.next with ⟨hlt, hmarch⟩ | ⟨hlast, -, hmarch⟩ | ⟨hlast, rfl, hmarch⟩
    · rw [if_pos hlt] at hnext
      exact ⟨era, yoe, doy + 1, hmarch, hnext⟩
    · rw [if_neg (by omega)] at hnext
      rw [← marchDate_zero] at hnext
      exact ⟨era, yoe + 1, 0, hmarch, hnext⟩
    · have hleap : IsLeapYear (399 + 1) := by decide
      rw [if_pos hleap, if_neg (by omega)] at hnext
      refine ⟨era + 1, 0, 0, hmarch, ?_⟩
      rw [hnext, marchDate_zero]
      simp only [Prod.mk.injEq, and_true]
      omega

/-- The parts of a day number, and its date in the calendar. -/
theorem exists_marchDay_ofDay {d : ℤ} (hd : -1 ≤ d) :
    ∃ era yoe doy, MarchDay (d + daysFromCivilUnixEpoch) era yoe doy ∧
      civil (Date.ofDay d) = marchDate era yoe doy := by
  induction d, hd using Int.leInduction with
  | base =>
    refine ⟨4, 369, 305, ⟨by decide, by decide, by decide, by decide, by decide, by decide⟩, ?_⟩
    decide
  | succ d _ ih =>
    obtain ⟨era, yoe, doy, hmarch, hcivil⟩ := ih
    obtain ⟨era', yoe', doy', hmarch', hcivil'⟩ := civil_next hmarch hcivil
    refine ⟨era', yoe', doy', ?_, ?_⟩
    · rw [add_right_comm]
      exact hmarch'
    · rw [Date.ofDay_succ]
      exact hcivil'

/-- **The date of a day number is its date in the calendar.** -/
theorem civilFromDays_eq {d : ℤ} (hd : -1 ≤ d) (hmax : d + daysFromCivilUnixEpoch ≤ i64Max) :
    civilFromDays d = civil (Date.ofDay d) := by
  obtain ⟨era, yoe, doy, hmarch, hcivil⟩ := exists_marchDay_ofDay hd
  rw [civilFromDays_eq_marchDate hmarch hmax, hcivil]

/-- The day number of a date, for the parts of the day. -/
theorem daysFromCivil_marchDate {z era yoe doy : ℤ} (h : MarchDay z era yoe doy) {year : ℤ}
    {month day : ℕ} (hdate : (year, (month : ℤ), (day : ℤ)) = marchDate era yoe doy) :
    daysFromCivil year month day = some (z - daysFromCivilUnixEpoch) := by
  have hnonneg := h.doy_nonneg
  have hle : doy ≤ 365 := by
    have := h.doy_le
    split at this <;> omega
  have hera := h.era_nonneg
  have hyoe := h.yoe_nonneg
  have hyoe' := h.yoe_le
  have heq := h.eq
  unfold marchDate at hdate
  obtain ⟨mp, hmp⟩ : ∃ mp, mp = (5 * doy + 2) / 153 := ⟨_, rfl⟩
  rw [← hmp] at hdate
  obtain ⟨hyear, hmonth, hday⟩ : year = yoe + era * 400 + (if mp < 10 then 0 else 1) ∧
      (month : ℤ) = (if mp < 10 then mp + 3 else mp - 9) ∧
      (day : ℤ) = doy - (153 * mp + 2) / 5 + 1 := by simpa using hdate
  have hmonth_range : 1 ≤ month ∧ month ≤ 12 := by split_ifs at hmonth <;> omega
  have hday_range : 1 ≤ day ∧ day ≤ 31 := by omega
  unfold daysFromCivil
  rw [if_neg (by omega)]
  extract_lets year' era' yoe' month' doy' doe
  have hyear' : year' = yoe + era * 400 := by
    simp only [year']
    split_ifs at hyear hmonth ⊢ <;> omega
  have hera' : era' = era := by
    simp only [era', hyear', if_pos (by omega : 0 ≤ yoe + era * 400)]
    rw [Int.tdiv_eq_ediv_of_nonneg (by omega)]
    omega
  have hyoe_eq : yoe' = yoe := by
    simp only [yoe', hyear', hera']
    omega
  have hshift : (month' + if 2 < month' then -3 else 9) = mp := by
    simp only [month']
    split_ifs at hmonth ⊢ <;> omega
  have hdoy' : doy' = doy := by
    simp only [doy', hshift]
    rw [Int.tdiv_eq_ediv_of_nonneg (by omega)]
    omega
  simp only [doe, hera', hyoe_eq, hdoy', Int.tdiv_eq_ediv_of_nonneg hyoe, Option.some.injEq]
  rw [heq, yearStart]
  omega

/-! ## Dates as texts -/

/-- A date of the calendar as a text, with four digits for the year and two for month and day. -/
def isoDate (x : Date) : Text :=
  zeroPadded 4 x.year.toNat ++ '-' :: (zeroPadded 2 x.month.toNat ++ '-' :: zeroPadded 2 x.day.toNat)

/-- The years that four digits can write. -/
def FourDigitYear (x : Date) : Prop := 0 ≤ x.year ∧ x.year ≤ 9999

theorem day_le_31 (x : Date) : x.day ≤ 31 := by
  refine x.day_le.trans ?_
  unfold daysInMonth
  split_ifs <;> decide

theorem formatUtcDay_eq {d : ℤ} (hd : -1 ≤ d) (hmax : d + daysFromCivilUnixEpoch ≤ i64Max)
    (hyear : FourDigitYear (Date.ofDay d)) : formatUtcDay d = isoDate (Date.ofDay d) := by
  have hmonth := (Date.ofDay d).month_pos
  have hday := (Date.ofDay d).day_pos
  have hsigned : ∀ (width : ℕ) (n : ℤ), 0 ≤ n → formatSigned width n = zeroPadded width n.toNat := by
    intro width n hn
    have habs : n.natAbs = n.toNat := by omega
    rw [formatSigned, if_neg (by omega), habs]
  unfold formatUtcDay
  rw [civilFromDays_eq hd hmax, civil]
  dsimp only
  rw [hsigned 4 _ hyear.1, hsigned 2 _ (by omega), hsigned 2 _ (by omega), isoDate]

/-- **Texts of dates compare like dates.** -/
theorem isoDate_lt_iff {x y : Date} (hx : FourDigitYear x) (hy : FourDigitYear y) :
    isoDate x < isoDate y ↔ x.Before y := by
  obtain ⟨hx₀, hx₁⟩ := hx
  obtain ⟨hy₀, hy₁⟩ := hy
  have hmonth := x.month_pos
  have hmonth' := x.month_le
  have hday := x.day_pos
  have hday' := day_le_31 x
  have kmonth := y.month_pos
  have kmonth' := y.month_le
  have kday := y.day_pos
  have kday' := day_le_31 y
  have hyear : ∀ z : ℤ, z ≤ 9999 → z.toNat < 10 ^ 4 := by omega
  have hsmall : ∀ z : ℤ, z ≤ 31 → z.toNat < 10 ^ 2 := by omega
  unfold isoDate Date.Before
  rw [append_lt_append_iff (by rw [length_zeroPadded (by decide) (hyear _ hx₁),
      length_zeroPadded (by decide) (hyear _ hy₁)]),
    zeroPadded_lt_iff (by decide) (hyear _ hx₁) (hyear _ hy₁), zeroPadded_inj,
    List.cons_lt_cons_self,
    append_lt_append_iff (by rw [length_zeroPadded (by decide) (hsmall _ (by omega)),
      length_zeroPadded (by decide) (hsmall _ (by omega))]),
    zeroPadded_lt_iff (by decide) (hsmall _ (by omega)) (hsmall _ (by omega)), zeroPadded_inj,
    List.cons_lt_cons_self, zeroPadded_lt_iff (by decide) (hsmall _ hday') (hsmall _ kday')]
  omega

/-! ## Reading dates back -/

theorem splitOnce_append {c : Char} {before after : Text} (h : c ∉ before) :
    splitOnce c (before ++ c :: after) = some (before, after) := by
  induction before with
  | nil => simp [splitOnce]
  | cons first before ih =>
    rw [List.mem_cons, not_or] at h
    rw [List.cons_append, splitOnce, if_neg (Ne.symm h.1), ih h.2]
    rfl

theorem parseDigits_zeroPadded {width n : ℕ} (hpos : 0 < width) (h : n < 10 ^ width) :
    parseDigits (zeroPadded width n) = some n := by
  have hne : zeroPadded width n ≠ [] := by
    rw [← List.length_pos_iff, length_zeroPadded hpos h]
    exact hpos
  have hall : (zeroPadded width n).all Char.isDigit = true := by
    rw [List.all_eq_true]
    exact fun c hc => isDigit_of_mem_zeroPadded hc
  rw [parseDigits, if_pos ⟨hne, hall⟩, ofDigitChars_zeroPadded]

/-- A padded decimal begins with a digit. -/
theorem head_zeroPadded {width n : ℕ} {c : Char} (hc : c.isDigit = false) {rest : Text} :
    zeroPadded width n ≠ c :: rest := by
  intro h
  have hdigit := @isDigit_of_mem_zeroPadded width n c (h ▸ List.mem_cons_self)
  rw [hc] at hdigit
  cases hdigit

theorem parseU32_zeroPadded {n : ℕ} (h : n < 10 ^ 2) : parseU32 (zeroPadded 2 n) = some n := by
  have hplus : (zeroPadded 2 n).head? ≠ some '+' := by
    intro hhead
    obtain ⟨rest, hrest⟩ := List.head?_eq_some_iff.mp hhead
    exact head_zeroPadded (by decide) hrest
  rw [parseU32, if_neg hplus, parseDigits_zeroPadded (by decide) h, Option.filter_some, if_pos]
  exact decide_eq_true (by omega)

theorem parseI32_zeroPadded {n : ℕ} (h : n < 10 ^ 4) : parseI32 (zeroPadded 4 n) = some (n : ℤ) := by
  unfold parseI32
  split
  case h_1 digits hdigits => exact absurd hdigits (head_zeroPadded (by decide))
  case h_2 digits hdigits => exact absurd hdigits (head_zeroPadded (by decide))
  case h_3 =>
    rw [parseDigits_zeroPadded (by decide) h, Option.filter_some, if_pos (decide_eq_true (by omega))]
    rfl

theorem dash_not_mem_zeroPadded (width n : ℕ) : '-' ∉ zeroPadded width n := fun h =>
  absurd (isDigit_of_mem_zeroPadded h) (by decide)

/-- **A formatted date read back.** -/
theorem parseUtcDay_formatUtcDay {d : ℤ} (hd : -1 ≤ d) (hmax : d + daysFromCivilUnixEpoch ≤ i64Max)
    (hyear : FourDigitYear (Date.ofDay d)) : parseUtcDay (formatUtcDay d) = some d := by
  obtain ⟨era, yoe, doy, hmarch, hcivil⟩ := exists_marchDay_ofDay hd
  rw [formatUtcDay_eq hd hmax hyear]
  generalize Date.ofDay d = x at hyear hcivil
  obtain ⟨hyear₀, hyear₁⟩ := hyear
  have hmonth := x.month_pos
  have hmonth' := x.month_le
  have hday := x.day_pos
  have hday' := day_le_31 x
  have hdate : daysFromCivil (x.year.toNat : ℤ) x.month.toNat x.day.toNat = some d := by
    have hparts : ((x.year.toNat : ℤ), (x.month.toNat : ℤ), (x.day.toNat : ℤ)) =
        marchDate era yoe doy := by
      rw [← hcivil, Int.toNat_of_nonneg hyear₀, Int.toNat_of_nonneg (by omega),
        Int.toNat_of_nonneg (by omega), civil]
    rw [daysFromCivil_marchDate hmarch hparts, add_sub_cancel_right]
  unfold parseUtcDay isoDate
  rw [splitOnce_append (dash_not_mem_zeroPadded _ _)]
  simp only [Option.bind_eq_bind, Option.bind_some]
  rw [splitOnce_append (dash_not_mem_zeroPadded _ _)]
  simp only [Option.bind_some]
  rw [parseI32_zeroPadded (by omega), parseU32_zeroPadded (by omega), parseU32_zeroPadded (by omega)]
  exact hdate

/-! ## Budget dates -/

/-- Nanoseconds of an hour. -/
def hourNanos : ℤ := 3600 * 1000000000

/-- Nanoseconds of a day. -/
def dayNanos : ℤ := 24 * hourNanos

/-- The times from 1970 to the end of the year 9999. -/
def InCalendar (time : ℤ) : Prop := 0 ≤ time ∧ time < 253402300800 * 1000000000

/-- A time in the 24 hours that begin at the reset hour of a day. -/
def InWindow (resetHourUtc : ℕ) (day time : ℤ) : Prop :=
  day * dayNanos + resetHourUtc * hourNanos ≤ time ∧
    time < (day + 1) * dayNanos + resetHourUtc * hourNanos

/-- Windows of one reset hour do not overlap. -/
theorem InWindow.day_unique {resetHourUtc : ℕ} {day day' time : ℤ} (h : InWindow resetHourUtc day time)
    (h' : InWindow resetHourUtc day' time) : day = day' := by
  obtain ⟨hle, hlt⟩ := h
  obtain ⟨hle', hlt'⟩ := h'
  rw [dayNanos, hourNanos] at *
  omega

/-- **A time is in the window of its budget day.** -/
theorem inWindow_budgetDay {time : ℤ} (h : InCalendar time) {resetHourUtc : ℕ}
    (hreset : resetHourUtc ≤ 23) : InWindow resetHourUtc (budgetDay time resetHourUtc) time := by
  obtain ⟨hle, hlt⟩ := h
  obtain ⟨seconds, hseconds⟩ : ∃ seconds, seconds = secondsSinceEpoch time := ⟨_, rfl⟩
  have hnanos : (seconds : ℤ) * 1000000000 ≤ time ∧ time < (seconds + 1) * 1000000000 := by
    rw [secondsSinceEpoch] at hseconds
    omega
  have hseconds' : seconds < 253402300800 := by omega
  obtain ⟨day, hday⟩ : ∃ day, day = seconds / 86400 := ⟨_, rfl⟩
  obtain ⟨rest, hrest⟩ : ∃ rest, rest = seconds % 86400 := ⟨_, rfl⟩
  have hsplit : seconds = day * 86400 + rest ∧ rest < 86400 := by omega
  have hsmall : (day : ℤ) ≤ 2932896 := by omega
  have hexact : min (day : ℤ) i64Max = day := min_eq_left (by rw [i64Max]; omega)
  have hpred : saturatingAddI64 day (-1) = day - 1 := by
    rw [saturatingAddI64, min_eq_right (by rw [i64Max]; omega), max_eq_right (by omega)]
    omega
  unfold budgetDay
  simp only [← hseconds, secondsPerDay, ← hday, ← hrest, hexact, hpred]
  unfold InWindow
  rw [dayNanos, hourNanos]
  split <;> omega

theorem budgetDay_mem {time : ℤ} (h : InCalendar time) {resetHourUtc : ℕ}
    (hreset : resetHourUtc ≤ 23) :
    -1 ≤ budgetDay time resetHourUtc ∧ budgetDay time resetHourUtc ≤ 2932896 := by
  obtain ⟨hle, hlt⟩ := inWindow_budgetDay h hreset
  obtain ⟨hnonneg, hend⟩ := h
  rw [dayNanos, hourNanos] at *
  omega

theorem year_ofDay {d : ℤ} (hd : -1 ≤ d) (hmax : d + daysFromCivilUnixEpoch ≤ i64Max) :
    (Date.ofDay d).year = (civilFromDays d).1 := by
  rw [civilFromDays_eq hd hmax, civil]

/-- The years of budget days. -/
theorem fourDigitYear_ofDay {d : ℤ} (hd : -1 ≤ d) (hmax : d ≤ 2932896) :
    FourDigitYear (Date.ofDay d) := by
  have hfirst := Date.year_ofDay_le hd
  have hlast := Date.year_ofDay_le hmax
  rw [year_ofDay (by decide) (by decide)] at hfirst
  rw [year_ofDay (d := 2932896) (by decide) (by decide)] at hlast
  have hfirst' : (civilFromDays (-1)).1 = 1969 := by decide
  have hlast' : (civilFromDays 2932896).1 = 9999 := by decide
  exact ⟨by omega, by omega⟩

/-- **Budget dates over the whole calendar.**  Read back, a date gives its day number, it is the date of
the calendar, dates compare like their days, and times share a date when they share a window. -/
theorem budget_dates_right {time time' : ℤ} (h : InCalendar time) (h' : InCalendar time')
    {resetHourUtc resetHourUtc' : ℕ} (hreset : resetHourUtc ≤ 23) (hreset' : resetHourUtc' ≤ 23) :
    InWindow resetHourUtc (budgetDay time resetHourUtc) time ∧
      parseUtcDay (formatUtcDay (budgetDay time resetHourUtc)) = some (budgetDay time resetHourUtc) ∧
      budgetDateForTime time resetHourUtc = isoDate (Date.ofDay (budgetDay time resetHourUtc)) ∧
      (budgetDateForTime time resetHourUtc < budgetDateForTime time' resetHourUtc' ↔
        budgetDay time resetHourUtc < budgetDay time' resetHourUtc') ∧
      (budgetDateForTime time resetHourUtc = budgetDateForTime time' resetHourUtc ↔
        ∃ day, InWindow resetHourUtc day time ∧ InWindow resetHourUtc day time') := by
  obtain ⟨hmin, hmax⟩ := budgetDay_mem h hreset
  obtain ⟨hmin', hmax'⟩ := budgetDay_mem h' hreset'
  obtain ⟨hmin'', hmax''⟩ := budgetDay_mem h' hreset
  have hi64 : ∀ d : ℤ, d ≤ 2932896 → d + daysFromCivilUnixEpoch ≤ i64Max := by
    intro d hd
    rw [daysFromCivilUnixEpoch, i64Max]
    omega
  have hread := parseUtcDay_formatUtcDay hmin (hi64 _ hmax) (fourDigitYear_ofDay hmin hmax)
  have hread' := parseUtcDay_formatUtcDay hmin'' (hi64 _ hmax'') (fourDigitYear_ofDay hmin'' hmax'')
  have hdate := formatUtcDay_eq hmin (hi64 _ hmax) (fourDigitYear_ofDay hmin hmax)
  have hdate' := formatUtcDay_eq hmin' (hi64 _ hmax') (fourDigitYear_ofDay hmin' hmax')
  have hwindow := inWindow_budgetDay h hreset
  have hwindow' := inWindow_budgetDay h' hreset
  refine ⟨hwindow, hread, hdate, ?_, ?_, ?_⟩
  · rw [budgetDateForTime, budgetDateForTime, hdate, hdate',
      isoDate_lt_iff (fourDigitYear_ofDay hmin hmax) (fourDigitYear_ofDay hmin' hmax'),
      Date.ofDay_before_iff]
  · intro heq
    have hsame : budgetDay time resetHourUtc = budgetDay time' resetHourUtc := by
      rw [budgetDateForTime, budgetDateForTime] at heq
      rw [heq, hread', Option.some.injEq] at hread
      exact hread.symm
    exact ⟨_, hwindow, hsame ▸ hwindow'⟩
  · rintro ⟨day, hin, hin'⟩
    rw [budgetDateForTime, budgetDateForTime, hwindow.day_unique hin, hwindow'.day_unique hin']

/-- The second before the reset of the leap day of 2024, and the reset. -/
theorem budget_dates_right_leap_day :
    InWindow 6 (budgetDay 1709186399000000000 6) 1709186399000000000 ∧
      budgetDateForTime 1709186399000000000 6 = "2024-02-28".toList ∧
      budgetDateForTime 1709186400000000000 6 = "2024-02-29".toList ∧
      (budgetDateForTime 1709186399000000000 6 < budgetDateForTime 1709186400000000000 6 ↔
        budgetDay 1709186399000000000 6 < budgetDay 1709186400000000000 6) :=
  have h := @budget_dates_right 1709186399000000000 1709186400000000000 ⟨by decide, by decide⟩
    ⟨by decide, by decide⟩ 6 6 (by decide) (by decide)
  ⟨h.1, by decide, by decide, h.2.2.2.1⟩

end LlmGuardProxy
