import ShipReport.Calendar.Serial
import ShipReport.Proofs.Number.Decimals

/-!
# Seconds of a serial

The seconds of a serial can be counted as long as the serial is not too large: below a hundred
million days they take fewer bits than a number has.
-/

namespace ShipReport.Calendar.Serial

open Float.Model Float.Model.UnpackedFloat
open Number (Canonical Form)

/-- The serials below this one have seconds that can be counted. -/
def bound : Float := 100000000

/-- The binary form of the bound. -/
lemma unpack_bound :
    bound.toModel.unpack = .finite .positive (100000000 * 2 ^ 26) (-26) (by decide) := rfl

/-- The number of seconds in a day. -/
lemma unpack_day :
    (86400 : Float).toModel.unpack = .finite .positive (86400 * 2 ^ 36) (-36) (by decide) := rfl

/-- A number below the bound that is not negative is zero, or it has places enough. -/
lemma unpack_of_lt_bound {x : Float} (nonneg : 0 ≤ x) (hlt : x < bound) :
    (∃ s, x.toModel.unpack = .zero s) ∨
      ∃ m e, ∃ h : Canonical m e, e ≤ -26 ∧ x.toModel.unpack = .finite .positive m e h.pos := by
  have below : (x.toModel.unpack.compare bound.toModel.unpack == some .lt) = true :=
    decide_eq_true_iff.mp hlt
  have above : ((Float.toModel 0).unpack.compare x.toModel.unpack).any (·.isLE) = true :=
    decide_eq_true_iff.mp nonneg
  have zero : (Float.toModel 0).unpack = .zero .positive := rfl
  rw [unpack_bound] at below
  rw [zero] at above
  cases hx : x.toModel.unpack with
  | notANumber => rw [hx] at below; cases below
  | infinity s =>
    rw [hx] at above below
    cases s with
    | positive => cases below
    | negative => cases above
  | zero s => exact .inl ⟨s, rfl⟩
  | finite s m e h =>
    rw [hx] at above below
    cases s with
    | negative => cases above
    | positive =>
      refine .inr ⟨m, e, Number.canonical_of_unpack hx, ?_, rfl⟩
      by_contra large
      have exponents : compare e (-26) = .gt := compare_gt_iff_gt.mpr (by omega)
      change ((some ((compare e (-26)).then (compare m _)) == some Ordering.lt) = true) at below
      rw [exponents] at below
      cases below

/-- The product of a number with places enough and the seconds of a day is zero, or it has places
too. -/
lemma unpack_mul_day {x : Float} {m : Nat} {e : Int} (h : Canonical m e) (he : e ≤ -26)
    (hx : x.toModel.unpack = .finite .positive m e h.pos) :
    (x * 86400).toModel.unpack = .zero .positive ∨
      ∃ M E, ∃ H : Canonical M E, E ≤ -8 ∧
        (x * 86400).toModel.unpack = .finite .positive M E H.pos := by
  have product : (x * 86400).toModel.unpack =
      (Float.Model.pack (roundWithAccuracy .binary64 .positive (m * (86400 * 2 ^ 36)) (e + -36)
        .exact)).unpack := by
    change (Float.Model.pack (UnpackedFloat.mul _ x.toModel.unpack _)).unpack = _
    rw [hx, unpack_day]
    rfl
  have few : (m * (86400 * 2 ^ 36)).log2 ≤ 105 := by
    refine Nat.le_of_lt_succ ((Nat.log2_lt (Nat.mul_pos h.pos (by decide)).ne').mpr ?_)
    have := h.lt
    omega
  have many : 52 ≤ (m * (86400 * 2 ^ 36)).log2 := by
    refine (Nat.le_log2 (Nat.mul_pos h.pos (by decide)).ne').mpr ?_
    have := h.pos
    omega
  have low := h.low
  rw [product]
  rcases Number.roundWithAccuracy_form (m := m * (86400 * 2 ^ 36)) (e := e + -36) rfl (by omega)
    (by omega) .positive with zero | ⟨M, E, H, hE, finite⟩
  · rw [zero]
    exact .inl (Number.unpack_pack_form (.zero .positive))
  · rw [finite]
    exact .inr ⟨M, E, H, by omega, Number.unpack_pack_form (.finite .positive H)⟩

/-- A number with places enough is rounded to an integer of fewer than 53 bits. -/
lemma toInt64_roundHalfAway {x : Float} {m : Nat} {e : Int} (h : Canonical m e) (he : e ≤ -8)
    (hx : x.toModel.unpack = .finite .positive m e h.pos) :
    Number.toInt64 (Number.roundHalfAway x) < 2 ^ 53 := by
  have rounded : Number.roundHalfAway x =
      Float.ofNat ((2 * m + 2 ^ (-e).toNat) / (2 * 2 ^ (-e).toNat)) := by
    unfold Number.roundHalfAway
    rw [hx]
    dsimp only
    rw [if_neg (by omega)]
    rfl
  have unit : 0 < 2 ^ (-e).toNat := Nat.two_pow_pos _
  have small : (2 * m + 2 ^ (-e).toNat) / (2 * 2 ^ (-e).toNat) < 2 ^ 53 := by
    rw [Nat.div_lt_iff_lt_mul (by omega)]
    have := h.lt
    have wide : 2 ^ 8 ≤ 2 ^ (-e).toNat := Nat.pow_le_pow_right (by decide) (by omega)
    omega
  rw [rounded]
  generalize (2 * m + 2 ^ (-e).toNat) / (2 * 2 ^ (-e).toNat) = n at small
  rcases Nat.eq_zero_or_pos n with rfl | pos
  · decide +kernel
  · rw [Number.toInt64_ofNat pos small]
    omega

/-- A serial that is not negative and below the bound has a date and a time, or is too late for the
calendar; its seconds can be counted. -/
theorem dateTime?_ok {x : Float} (nonneg : 0 ≤ x) (hlt : x < bound) :
    ∃ t, dateTime? x = .ok t := by
  have few : seconds x ≤ maxSeconds := by
    unfold seconds maxSeconds
    have zero : ∀ {y : Float} {s : Sign}, y.toModel.unpack = .zero s →
        Number.toInt64 (Number.roundHalfAway y) = 0 := fun {y s} hy => by
      unfold Number.roundHalfAway
      rw [hy]
      change (Int64.ofIntClamp (y.toModel.unpack.toInt _ _)).toInt = 0
      rw [hy]
      rfl
    rcases unpack_of_lt_bound nonneg hlt with ⟨s, hx⟩ | ⟨m, e, h, he, hx⟩
    · have product : (x * 86400).toModel.unpack = .zero (s * .positive) := by
        change (Float.Model.pack (UnpackedFloat.mul _ x.toModel.unpack _)).unpack = _
        rw [hx, unpack_day]
        exact Number.unpack_pack_form (.zero _)
      rw [zero product]
      decide
    · rcases unpack_mul_day h he hx with product | ⟨M, E, H, hE, product⟩
      · rw [zero product]
        decide
      · have := toInt64_roundHalfAway H hE product
        omega
  unfold dateTime?
  split
  · exact ⟨none, rfl⟩
  · dsimp only
    rw [if_neg (Int.not_lt.mpr few)]
    split
    · exact ⟨none, rfl⟩
    · exact ⟨some _, rfl⟩

end ShipReport.Calendar.Serial
