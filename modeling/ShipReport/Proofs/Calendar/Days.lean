import Mathlib.Tactic.Lemma
import Mathlib.Tactic.Linarith
import Mathlib.Tactic.Ring
import ShipReport.Calendar.Date

/-!
# Dates and numbers of days

Every number of days has a date of the calendar, and that date has the number of days; earlier days
have earlier dates. Years are counted from March, so that a leap day is the last one of its year.
-/

namespace ShipReport.Calendar.Date

/-- A day of four centuries belongs to a century `f`, to four years `q` of it and to a year `k` of
these. Only a year before a leap day has a day 365. -/
lemma exists_yearOfEra (doe : Int) (h0 : 0 ≤ doe) (h1 : doe < 146097) :
    ∃ f q k doy : Int, 0 ≤ f ∧ f ≤ 3 ∧ 0 ≤ q ∧ q ≤ 24 ∧ 0 ≤ k ∧ k ≤ 3 ∧ 0 ≤ doy ∧
      doy ≤ 365 ∧ (doy = 365 → k = 3 ∧ (q ≠ 24 ∨ f = 3)) ∧
      doe = 36524 * f + 1461 * q + 365 * k + doy ∧
      (doe - doe / 1460 + doe / 36524 - doe / 146096) / 365 = 100 * f + 4 * q + k := by
  by_cases last : doe = 146096
  · subst last
    exact ⟨3, 24, 3, 365, by decide⟩
  obtain ⟨f, hf⟩ : ∃ f, doe / 36524 = f := ⟨_, rfl⟩
  obtain ⟨q, hq⟩ : ∃ q, (doe - 36524 * f) / 1461 = q := ⟨_, rfl⟩
  obtain ⟨s, hs⟩ : ∃ s, doe - 36524 * f - 1461 * q = s := ⟨_, rfl⟩
  have first : doe / 146096 = 0 := by omega
  have fours : doe / 1460 = 25 * f + q ∨ doe / 1460 = 25 * f + q + 1 ∧ 1364 ≤ s := by omega
  rw [hf, first]
  rcases Int.lt_or_le s 365 with h | h
  · exact ⟨f, q, 0, s, by omega⟩
  rcases Int.lt_or_le s 730 with h | h
  · exact ⟨f, q, 1, s - 365, by omega⟩
  rcases Int.lt_or_le s 1095 with h | h
  · exact ⟨f, q, 2, s - 730, by omega⟩
  · have whole : s = 1460 → doe / 1460 = 25 * f + q + 1 := by omega
    have century : s = 1460 → q ≠ 24 := by omega
    exact ⟨f, q, 3, s - 1095, by omega⟩

/-- The date of a day in a year that starts in March. -/
def ofMarch (year dayOfYear : Int) : Date :=
  let monthFromMarch := (5 * dayOfYear + 2).fdiv 153
  let day := dayOfYear - (153 * monthFromMarch + 2).fdiv 5 + 1
  let month := if monthFromMarch < 10 then monthFromMarch + 3 else monthFromMarch - 9
  ⟨year + (if month ≤ 2 then 1 else 0), month.toNat, day.toNat⟩

section

variable {y doy m : Int}

/-- A date is the one of a day of a year that starts in March, whose month is known. -/
lemma ofMarch_eq (hm : (5 * doy + 2) / 153 = m) :
    ofMarch y doy = ⟨y + (if (if m < 10 then m + 3 else m - 9) ≤ 2 then 1 else 0),
      (if m < 10 then m + 3 else m - 9).toNat, (doy - (153 * m + 2) / 5 + 1).toNat⟩ := by
  unfold ofMarch
  simp only [Int.fdiv_eq_ediv_of_nonneg _ (show (0 : Int) ≤ 153 by decide),
    Int.fdiv_eq_ediv_of_nonneg _ (show (0 : Int) ≤ 5 by decide), hm]

/-- The day is one of the month, if a last day of the year is a leap day. -/
lemma ofMarch_valid (first : 0 ≤ doy) (last : doy ≤ 365) (leap : doy = 365 → isLeap (y + 1)) :
    1 ≤ (ofMarch y doy).month ∧ (ofMarch y doy).month ≤ 12 ∧ 1 ≤ (ofMarch y doy).day ∧
      (ofMarch y doy).day ≤ daysIn (ofMarch y doy).year (ofMarch y doy).month := by
  obtain ⟨m, hm⟩ : ∃ m, (5 * doy + 2) / 153 = m := ⟨_, rfl⟩
  rw [ofMarch_eq hm]
  by_cases february : m = 11
  · subst february
    by_cases h : doy = 365
    · simp [daysIn, leap h]
      omega
    · simp [daysIn]
      split <;> omega
  · have others : m = 0 ∨ m = 1 ∨ m = 2 ∨ m = 3 ∨ m = 4 ∨ m = 5 ∨ m = 6 ∨ m = 7 ∨ m = 8 ∨ m = 9 ∨
      m = 10 := by omega
    rcases others with rfl | rfl | rfl | rfl | rfl | rfl | rfl | rfl | rfl | rfl | rfl
    all_goals
      simp [daysIn]
      omega

/-- The number of days up to a day in a year from March. -/
lemma toDays_ofMarch (first : 0 ≤ doy) (last : doy ≤ 365) :
    (ofMarch y doy).toDays = y / 400 * 146097 +
      (y % 400 * 365 + y % 400 / 4 - y % 400 / 100 + doy) - 719468 := by
  obtain ⟨m, hm⟩ : ∃ m, (5 * doy + 2) / 153 = m := ⟨_, rfl⟩
  have divisions : ∀ a : Int, a.fdiv 4 = a / 4 ∧ a.fdiv 5 = a / 5 ∧ a.fdiv 100 = a / 100 ∧
      a.fdiv 400 = a / 400 := fun a => by
    simp only [Int.fdiv_eq_ediv]
    simp
  rw [ofMarch_eq hm]
  unfold toDays
  simp only [divisions]
  by_cases h : m < 10
  · have late : ¬ (m + 3).toNat ≤ 2 ∧ ¬ m + 3 ≤ 2 ∧ 2 < (m + 3).toNat := by omega
    simp only [if_pos h, if_neg late.1, if_neg late.2.1, if_pos late.2.2]
    omega
  · have early : (m - 9).toNat ≤ 2 ∧ m - 9 ≤ 2 ∧ ¬ 2 < (m - 9).toNat := by omega
    simp only [if_neg h, if_pos early.1, if_pos early.2.1, if_neg early.2.2]
    omega

end

/-- A year from March is counted by its century, its four years and its place in these. -/
lemma march_year (era : Int) {f q k : Int} (hf : 0 ≤ f ∧ f ≤ 3) (hq : 0 ≤ q ∧ q ≤ 24)
    (hk : 0 ≤ k ∧ k ≤ 3) :
    (100 * f + 4 * q + k + era * 400) / 400 = era ∧
      (100 * f + 4 * q + k + era * 400) % 400 = 100 * f + 4 * q + k ∧
      (100 * f + 4 * q + k) / 4 = 25 * f + q ∧ (100 * f + 4 * q + k) / 100 = f := by
  omega

/-- The year after the last of four is a leap year, at the end of a century only the fourth. -/
lemma isLeap_march {era f q : Int} (hq : 0 ≤ q ∧ q ≤ 24)
    (h : q ≠ 24 ∨ f = 3) : isLeap (100 * f + 4 * q + 3 + era * 400 + 1) := by
  have fourth : (100 * f + 4 * q + 3 + era * 400 + 1) % 4 = 0 := by omega
  have century : (100 * f + 4 * q + 3 + era * 400 + 1) % 100 ≠ 0 ∨
      (100 * f + 4 * q + 3 + era * 400 + 1) % 400 = 0 := by omega
  unfold isLeap
  simp only [fourth, beq_self_eq_true, Bool.true_and, Bool.or_eq_true, bne_iff_ne, beq_iff_eq]
  exact century

/-- The date of a number of days stands in a year from March. -/
lemma exists_ofMarch (n : Int) :
    ∃ y doy, ofDays n = ofMarch y doy ∧ 0 ≤ doy ∧ doy ≤ 365 ∧ (doy = 365 → isLeap (y + 1)) ∧
      y / 400 * 146097 + (y % 400 * 365 + y % 400 / 4 - y % 400 / 100 + doy) - 719468 = n := by
  obtain ⟨era, hera⟩ : ∃ era, (n + 719468) / 146097 = era := ⟨_, rfl⟩
  obtain ⟨doe, hdoe⟩ : ∃ doe, n + 719468 - era * 146097 = doe := ⟨_, rfl⟩
  obtain ⟨f, q, k, doy, hf, hf', hq, hq', hk, hk', hdoy, hdoy', leap, parts, hyear⟩ :=
    exists_yearOfEra doe (by omega) (by omega)
  obtain ⟨eras, years, fours, centuries⟩ :=
    march_year era ⟨hf, hf'⟩ ⟨hq, hq'⟩ ⟨hk, hk'⟩
  have divisions : ∀ a : Int, a.fdiv 4 = a / 4 ∧ a.fdiv 100 = a / 100 ∧ a.fdiv 365 = a / 365 ∧
      a.fdiv 1460 = a / 1460 ∧ a.fdiv 36524 = a / 36524 ∧ a.fdiv 146096 = a / 146096 ∧
        a.fdiv 146097 = a / 146097 := fun a => by
    simp only [Int.fdiv_eq_ediv]
    simp
  have day : doe - (365 * (100 * f + 4 * q + k) + (25 * f + q) - f) = doy := by
    rw [parts]
    ring
  refine ⟨100 * f + 4 * q + k + era * 400, doy, ?_, hdoy, hdoy', fun h => ?_, ?_⟩
  · unfold ofDays ofMarch
    simp only [divisions, hera, hdoe, hyear, fours, centuries, day]
  · obtain ⟨rfl, h⟩ := leap h
    exact isLeap_march ⟨hq, hq'⟩ h
  · rw [eras, years, fours, centuries]
    linarith only [hdoe, parts]

/-- The date of a number of days is one of the calendar. -/
lemma ofParts?_ofDays (n : Int) :
    ofParts? (ofDays n).year (ofDays n).month (ofDays n).day = some (ofDays n) := by
  obtain ⟨y, doy, date, first, last, leap, -⟩ := exists_ofMarch n
  rw [date]
  exact if_pos (ofMarch_valid first last leap)

/-- A number of days is that of its date. -/
lemma toDays_ofDays (n : Int) : (ofDays n).toDays = n := by
  obtain ⟨y, doy, date, first, last, -, days⟩ := exists_ofMarch n
  rw [date, toDays_ofMarch first last, days]

/-! ## The order of dates -/

variable {d e f : Date}

/-- An earlier year, or an earlier month of one year, or an earlier day of one month. -/
def Before (d e : Date) : Prop :=
  d.year < e.year ∨ d.year = e.year ∧ (d.month < e.month ∨ d.month = e.month ∧ d.day < e.day)

/-- Dates are compared by year, then by month, then by day. -/
lemma compare_eq (d e : Date) : compare d e =
    ((compare d.year e.year).then (compare d.month e.month)).then (compare d.day e.day) :=
  rfl

/-- What comes out smaller is before. -/
lemma compare_eq_lt : compare d e = .lt ↔ d.Before e := by
  rw [compare_eq, Ordering.then_eq_lt, Ordering.then_eq_lt, Ordering.then_eq_eq]
  simp only [Int.compare_eq_lt, Int.compare_eq_eq, Nat.compare_eq_lt, Nat.compare_eq_eq]
  unfold Before
  omega

/-- Dates compare as equal only if they are. -/
lemma compare_eq_eq : compare d e = .eq ↔ d = e := by
  rw [compare_eq, Ordering.then_eq_eq, Ordering.then_eq_eq]
  simp only [Int.compare_eq_eq, Nat.compare_eq_eq]
  cases d
  cases e
  simp [and_assoc]

/-- A date before another one is before what that is before. -/
lemma Before.trans (h : d.Before e) (h' : e.Before f) : d.Before f := by
  unfold Before at *
  omega

/-- Of two dates at most one is before the other. -/
lemma Before.asymm (h : d.Before e) : ¬ e.Before d := by
  unfold Before at *
  omega

/-- Of two dates one is earlier, or they are the same. -/
lemma before_cases (d e : Date) : d.Before e ∨ d = e ∨ e.Before d := by
  cases d
  cases e
  simp only [Before, mk.injEq]
  omega

section

variable {y y' doy doy' : Int}

/-- The number of the first day of a year from March. -/
def marchStart (y : Int) : Int :=
  365 * y + y / 4 - y / 100 + y / 400 - 719468

/-- The days before a year that starts in March, counted by periods of 400 years. -/
lemma marchStart_eq (y : Int) :
    y / 400 * 146097 + (y % 400 * 365 + y % 400 / 4 - y % 400 / 100) - 719468 = marchStart y := by
  unfold marchStart
  omega

/-- A day of a year from March comes before the next year. -/
lemma lt_marchStart_succ (last : doy ≤ 365) (leap : doy = 365 → isLeap (y + 1)) :
    marchStart y + doy < marchStart (y + 1) := by
  unfold marchStart
  by_cases h : doy = 365
  · have year := leap h
    unfold isLeap at year
    simp only [Bool.and_eq_true, beq_iff_eq, Bool.or_eq_true, bne_iff_ne] at year
    omega
  · omega

/-- Later years start no earlier. -/
lemma marchStart_mono (h : y ≤ y') : marchStart y ≤ marchStart y' := by
  unfold marchStart
  omega

/-- Days of one year from March have dates in the same order. -/
lemma ofMarch_before (first : 0 ≤ doy) (h : doy < doy') (last : doy' ≤ 365) :
    (ofMarch y doy).Before (ofMarch y doy') := by
  obtain ⟨m, hm⟩ : ∃ m, (5 * doy + 2) / 153 = m := ⟨_, rfl⟩
  obtain ⟨m', hm'⟩ : ∃ m, (5 * doy' + 2) / 153 = m := ⟨_, rfl⟩
  rw [ofMarch_eq hm, ofMarch_eq hm']
  unfold Before
  dsimp only
  omega

/-- The dates of an earlier year from March are earlier. -/
lemma ofMarch_before_of_year (h : y < y') (first : 0 ≤ doy) (last : doy ≤ 365)
    (first' : 0 ≤ doy') (last' : doy' ≤ 365) : (ofMarch y doy).Before (ofMarch y' doy') := by
  obtain ⟨m, hm⟩ : ∃ m, (5 * doy + 2) / 153 = m := ⟨_, rfl⟩
  obtain ⟨m', hm'⟩ : ∃ m, (5 * doy' + 2) / 153 = m := ⟨_, rfl⟩
  rw [ofMarch_eq hm, ofMarch_eq hm']
  unfold Before
  dsimp only
  omega

end

/-- An earlier day has an earlier date. -/
lemma ofDays_before {m n : Int} (h : m < n) : (ofDays m).Before (ofDays n) := by
  obtain ⟨y, doy, date, first, last, leap, days⟩ := exists_ofMarch m
  obtain ⟨y', doy', date', first', last', leap', days'⟩ := exists_ofMarch n
  have start := marchStart_eq y
  have start' := marchStart_eq y'
  rw [date, date']
  rcases Int.lt_trichotomy y y' with earlier | rfl | later
  · exact ofMarch_before_of_year earlier first last first' last'
  · exact ofMarch_before first (by omega) last'
  · -- a day of a later year would be the later day
    have next := lt_marchStart_succ last' leap'
    have mono := marchStart_mono (show y' + 1 ≤ y from later)
    omega

end ShipReport.Calendar.Date
