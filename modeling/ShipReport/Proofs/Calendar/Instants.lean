import Mathlib.Tactic.Lemma
import ShipReport.Calendar.Instant
import ShipReport.Proofs.Calendar.Days
import ShipReport.Proofs.Number.Texts

/-!
# Texts of instants

The text of an instant gives the instant back when it is read, for the years 0 to 9999.
-/

namespace ShipReport.Calendar

/-! ## Digits -/

/-- Digits of a number to a width that holds it. -/
lemma padded_spec {w n : Nat} (hw : 0 < w) (h : n < 10 ^ w) :
    (padded w n).toList.length = w ∧ (∀ c ∈ (padded w n).toList, c.isDigit) ∧
      Number.ofDigits (padded w n).toList = n := by
  have short : (Nat.toDigits 10 n).length ≤ w :=
    (Nat.length_toDigits_le_iff (by decide) hw).mpr h
  unfold padded
  rw [String.toList_ofList]
  refine ⟨?_, fun c hc => ?_, ?_⟩
  · rw [List.length_append, List.length_replicate]
    omega
  · rcases List.mem_append.mp hc with hc | hc
    · obtain rfl := List.eq_of_mem_replicate hc
      rfl
    · exact Number.isDigit_of_digits c hc
  · exact (Number.ofDigits_zeros _ _).trans (Number.ofDigits_digits n)

namespace Instant

/-- A text has at least as many bytes as characters. -/
lemma length_le_byteCount (cs : List Char) : cs.length ≤ byteCount cs := by
  unfold byteCount
  induction cs with
  | nil => exact Nat.zero_le _
  | cons c cs ih =>
    rw [String.ofList_cons, String.utf8ByteSize_append, String.utf8ByteSize_singleton,
      List.length_cons]
    have := c.utf8Size_pos
    omega

/-- Readings go on with what the first one left. -/
lemma bind_read {α β : Type} {x : Reading α} {f : α → Reading β} {a : α} {cs rest : List Char}
    (h : x cs = .ok (a, rest)) : (x >>= f) cs = f a rest := by
  simp only [bind, StateT.bind, h, Except.bind]

/-- A number of a fixed number of digits is read. -/
lemma fixedNumber_padded {w n : Nat} (hw : 0 < w) (h : n < 10 ^ w) (rest : List Char) :
    fixedNumber w ((padded w n).toList ++ rest) = .ok (n, rest) := by
  obtain ⟨length, digits, value⟩ := padded_spec hw h
  have front : ((padded w n).toList ++ rest).take w = (padded w n).toList :=
    List.take_left' length
  have back : ((padded w n).toList ++ rest).drop w = rest := List.drop_left' length
  unfold fixedNumber
  simp only [front, back, length, value, List.all_eq_true.mpr digits, and_self, if_true]

/-- A character of a kind is taken from the front. -/
lemma oneOf_cons {accept : Char → Bool} {c : Char} (h : accept c) (rest : List Char) :
    oneOf accept (c :: rest) = .ok ((), rest) := by
  rw [oneOf, if_pos h]

/-- A padded date is read as it was written. -/
lemma fixedDate_read {y m d : Nat} (hy : y < 10000) (hm : m < 100) (hd : d < 100)
    (valid : (Date.ofParts? y m d).isSome) (rest : List Char) :
    fixedDate ((padded 4 y).toList ++ '-' :: ((padded 2 m).toList ++ '-' ::
      ((padded 2 d).toList ++ rest))) = .ok ((y, m, d), rest) := by
  unfold fixedDate
  rw [bind_read (fixedNumber_padded (by decide) hy _), bind_read (oneOf_cons rfl _),
    bind_read (fixedNumber_padded (by decide) hm _), bind_read (oneOf_cons rfl _),
    bind_read (fixedNumber_padded (by decide) hd _)]
  have here : (Date.ofParts? y m d).isNone = false := by
    rw [← Option.not_isSome, valid]; rfl
  rw [here]
  rfl

/-- A padded time of day is read as it was written. -/
lemma fixedTime_read {h m s : Nat} (hh : h < 100) (hm : m < 100) (hs : s < 100)
    (rest : List Char) :
    fixedTime ((padded 2 h).toList ++ ':' :: ((padded 2 m).toList ++ ':' ::
      ((padded 2 s).toList ++ rest))) = .ok ((h, m, s), rest) := by
  unfold fixedTime
  rw [bind_read (fixedNumber_padded (by decide) hh _), bind_read (oneOf_cons rfl _),
    bind_read (fixedNumber_padded (by decide) hm _), bind_read (oneOf_cons rfl _),
    bind_read (fixedNumber_padded (by decide) hs _)]
  rfl

/-- The offset of universal time as it is written. -/
def zeroOffset : List Char :=
  ['+', '0', '0', ':', '0', '0']

/-- Decimals of a second are read as nanoseconds. -/
lemma fraction_padded {w n : Nat} (hw : 0 < w) (hw' : w ≤ 9) (h : n < 10 ^ w) :
    fraction ('.' :: ((padded w n).toList ++ zeroOffset)) =
      .ok (n * 10 ^ (9 - w), zeroOffset) := by
  obtain ⟨length, digits, value⟩ := padded_spec hw h
  have taken : (((padded w n).toList ++ zeroOffset).take 9).takeWhile Char.isDigit =
      (padded w n).toList := by
    rw [List.take_append, length, List.take_of_length_le (by omega),
      List.takeWhile_append_of_pos digits]
    cases 9 - w with
    | zero => exact List.append_nil _
    | succ k => exact List.append_nil _
  have long : ¬ byteCount ((padded w n).toList ++ zeroOffset) < 1 := by
    have := length_le_byteCount ((padded w n).toList ++ zeroOffset)
    rw [List.length_append, length] at this
    omega
  have dropped : ((padded w n).toList ++ zeroOffset).drop w = zeroOffset := List.drop_left' length
  have read : number 1 9 ((padded w n).toList ++ zeroOffset) = .ok (n, zeroOffset) := by
    unfold number
    simp only [if_neg long, taken, length, value, dropped]
    rw [if_neg (by omega)]
  have used : ((padded w n).toList ++ zeroOffset).length - zeroOffset.length = w := by
    rw [List.length_append, length]
    omega
  unfold fraction
  simp only [read, bind, Except.bind, used]
  rfl

/-- The written nanoseconds are read as they were, also when there are none. -/
lemma fraction_read {nanos : Nat} (h : nanos < 10 ^ 9) :
    fraction ((fractionText nanos).toList ++ zeroOffset) = .ok (nanos, zeroOffset) := by
  unfold fractionText
  split
  · next none => subst none; rfl
  split
  · next millis =>
    rw [String.toList_append]
    refine (fraction_padded (by decide) (by decide) (by omega)).trans ?_
    congr 2
    omega
  split
  · next micros =>
    rw [String.toList_append]
    refine (fraction_padded (by decide) (by decide) (by omega)).trans ?_
    congr 2
    omega
  · rw [String.toList_append]
    exact (fraction_padded (by decide) (by decide) h).trans (by rw [Nat.sub_self]; simp)

/-- An instant of a year with four digits, and of no leap second. -/
structure Plain (t : Instant) : Prop where
  year : 0 ≤ (Date.ofDays t.day).year ∧ (Date.ofDays t.day).year ≤ 9999
  second : t.second < 86400
  nanos : t.nanos < 10 ^ 9

/-- The parts of the text of an instant. -/
lemma text_toList {t : Instant} (plain : t.Plain) :
    t.text.toList =
      (padded 4 (Date.ofDays t.day).year.toNat).toList ++ '-' ::
        ((padded 2 (Date.ofDays t.day).month).toList ++ '-' ::
          ((padded 2 (Date.ofDays t.day).day).toList ++ 'T' ::
            ((padded 2 (t.second / 3600)).toList ++ ':' ::
              ((padded 2 (t.second / 60 % 60)).toList ++ ':' ::
                ((padded 2 (t.second % 60)).toList ++
                  ((fractionText t.nanos).toList ++ zeroOffset)))))) := by
  have leap : ¬ 1000000000 ≤ t.nanos := by
    have := plain.nanos
    omega
  unfold text localText Date.text yearText
  simp [leap, plain.year, zeroOffset]

/-- The parts of an instant make it up again. -/
lemma ofParts_ofDays {t : Instant} (second : t.second < 86400) :
    ofParts (Date.ofDays t.day).year (Date.ofDays t.day).month (Date.ofDays t.day).day
      (t.second / 3600) (t.second / 60 % 60) (t.second % 60) t.nanos 0 = .ok t := by
  have whole : ((t.second / 3600 : Nat) : Int) * 3600 + ((t.second / 60 % 60 : Nat) : Int) * 60 +
      ((t.second % 60 : Nat) : Int) - 0 * 60 = t.second := by omega
  have leap : t.second % 60 ≠ 60 := by omega
  have day : (t.second : Int).fdiv 86400 = 0 := by
    rw [Int.fdiv_eq_ediv_of_nonneg _ (by decide)]
    omega
  have rest : ((t.second : Int).fmod 86400).toNat = t.second := by
    rw [Int.fmod_eq_emod_of_nonneg _ (by decide)]
    omega
  unfold ofParts
  simp only [Date.ofParts?_ofDays, if_neg leap, whole, day, rest, Date.toDays_ofDays, Int.add_zero]

/-- The text of an instant has at least the fixed part. -/
lemma fixedLength_le_text {t : Instant} (plain : t.Plain)
    (bounds : (Date.ofDays t.day).month < 100 ∧ (Date.ofDays t.day).day < 100) :
    fixedLength ≤ t.text.toList.length := by
  have second := plain.second
  have year : (Date.ofDays t.day).year.toNat < 10000 := by
    have := plain.year
    omega
  have digits {w n : Nat} (hw : 0 < w) (h : n < 10 ^ w) : (padded w n).toList.length = w :=
    (padded_spec hw h).1
  rw [text_toList plain]
  simp only [List.length_append, List.length_cons, digits (w := 4) (by decide) year,
    digits (w := 2) (by decide) bounds.1, digits (w := 2) (by decide) bounds.2,
    digits (w := 2) (by decide) (show t.second / 3600 < 10 ^ 2 by omega),
    digits (w := 2) (by decide) (show t.second / 60 % 60 < 10 ^ 2 by omega),
    digits (w := 2) (by decide) (show t.second % 60 < 10 ^ 2 by omega)]
  unfold fixedLength
  omega

/-- No month has more than 31 days. -/
lemma daysIn_le (year : Int) (month : Nat) : daysIn year month ≤ 31 := by
  unfold daysIn
  split
  · split <;> decide
  · split <;> decide

/-- Months and days have two digits at most. -/
lemma date_bounds (n : Int) : (Date.ofDays n).month < 100 ∧ (Date.ofDays n).day < 100 := by
  have parts := Date.ofParts?_ofDays n
  unfold Date.ofParts? at parts
  split at parts
  · next found =>
    have := daysIn_le (Date.ofDays n).year (Date.ofDays n).month
    omega
  · cases parts

/-- The text of an instant is read as the instant. -/
theorem read_text {t : Instant} (plain : t.Plain) : read t.text = .ok t := by
  have valid := Date.ofParts?_ofDays t.day
  have second := plain.second
  obtain ⟨year, hyear⟩ : ∃ y : Nat, (Date.ofDays t.day).year = y :=
    Int.eq_ofNat_of_zero_le plain.year.1
  have hy : year < 10000 := by
    have := plain.year.2
    omega
  have bounds := date_bounds t.day
  have length : ¬ byteCount t.text.toList < fixedLength :=
    Nat.not_lt.mpr ((fixedLength_le_text plain bounds).trans (length_le_byteCount _))
  have toList := text_toList plain
  have parts := ofParts_ofDays second
  rw [hyear] at valid toList parts
  have got : (get : Reading (List Char)) t.text.toList = .ok (t.text.toList, t.text.toList) := rfl
  have whole : rfc3339 t.text.toList = .ok (t, []) := by
    unfold rfc3339
    rw [bind_read got, if_neg length, toList, Int.toNat_natCast]
    dsimp only
    rw [bind_read (fixedDate_read hy bounds.1 bounds.2 (by rw [valid]; rfl) _)]
    dsimp only
    rw [bind_read (oneOf_cons rfl _), bind_read (fixedTime_read (by omega) (by omega) (by omega) _)]
    dsimp only
    rw [bind_read (fraction_read plain.nanos), if_neg (by omega)]
    have zero : offset (oneOf (· == ':')) zeroOffset = .ok (0, []) := rfl
    rw [bind_read zero, if_neg (by decide), parts]
    rfl
  unfold read
  exact congrArg (·.map (·.1)) whole

end Instant
end ShipReport.Calendar
