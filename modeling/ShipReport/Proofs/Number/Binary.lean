import Mathlib
import ShipReport.Number.Rounding

/-!
# Binary forms of numbers

A finite number unpacks to a mantissa and an exponent of which no other pair of the format has the
same value. Packing and unpacking undo each other on such forms. Rounding leaves them as they are,
and what it gives has such a form if there were bits enough.
-/

namespace ShipReport.Number

open Float.Model Float.Model.UnpackedFloat

/-- The mantissa and the exponent of a finite number: 53 bits, or fewer with the least exponent. -/
structure Canonical (m : Nat) (e : Int) : Prop where
  pos : 0 < m
  size : m.log2 ≤ 52
  low : -1074 ≤ e
  full : m.log2 = 52 ∨ e = -1074
  high : e ≤ 971

/-- A mantissa has at most 53 bits. -/
lemma Canonical.lt {m : Nat} {e : Int} (h : Canonical m e) : m < 2 ^ 53 :=
  (Nat.log2_lt h.pos.ne').mp (Nat.lt_succ_of_le h.size)

/-- What numbers unpack to. -/
inductive Form : UnpackedFloat → Prop where
  | infinity (s : Sign) : Form (.infinity s)
  | notANumber : Form .notANumber
  | zero (s : Sign) : Form (.zero s)
  | finite (s : Sign) {m : Nat} {e : Int} (h : Canonical m e) : Form (.finite s m e h.pos)

/-! ## Packing -/

/-- A sign comes back from its bit. -/
lemma ofBitVec_toBitVec (s : Sign) : Sign.ofBitVec s.toBitVec = s := by
  cases s <;> rfl

/-- A bit comes back from its sign. -/
lemma toBitVec_ofBitVec (b : BitVec 1) : (Sign.ofBitVec b).toBitVec = b := by
  revert b
  decide

/-- The sign is unpacked as it was packed. -/
lemma unpackSign_pack (s : Sign) (exponent : BitVec 11) (mantissa : BitVec 52) :
    unpackSign (packComponents .binary64 s exponent mantissa) = s.toBitVec := by
  ext i hi
  obtain rfl : i = 0 := by omega
  have top : (s.toBitVec ++ exponent ++ mantissa).getLsbD 63 = s.toBitVec[0] := by
    rw [BitVec.getLsbD_append, BitVec.getLsbD_append]
    rfl
  simp only [unpackSign, packComponents, BitVec.getElem_cast, BitVec.extractLsb,
    BitVec.getElem_extractLsb']
  exact top

/-- Bits are put together from their parts. -/
lemma packComponents_unpack (b : BitVec Format.binary64.numBits) :
    packComponents .binary64 (Sign.ofBitVec (unpackSign b)) (unpackExponent b)
      (unpackMantissa b) = b := by
  have bound : b.toNat < 2 ^ 64 := b.isLt
  unfold packComponents
  rw [toBitVec_ofBitVec]
  apply BitVec.eq_of_toNat_eq
  simp only [unpackSign, unpackExponent, unpackMantissa, BitVec.toNat_append, BitVec.toNat_cast,
    BitVec.extractLsb_toNat]
  rw [← Nat.shiftLeft_add_eq_or_of_lt (Nat.mod_lt _ (Nat.two_pow_pos _)),
    ← Nat.shiftLeft_add_eq_or_of_lt (Nat.mod_lt _ (Nat.two_pow_pos _))]
  simp only [Nat.shiftLeft_eq, Nat.shiftRight_eq_div_pow]
  omega

/-- Bits with the least exponent are a number of no more bits than their mantissa. -/
lemma unpack_subnormal (s : Sign) {M : BitVec 52} (hM : 0 < M.toNat) :
    UnpackedFloat.unpack .binary64 (packComponents .binary64 s 0#11 M) =
      .finite s M.toNat (-1074) hM := by
  have ne : M ≠ 0#52 := fun h => by simp [h] at hM
  unfold UnpackedFloat.unpack
  simp only [unpackMantissa_packComponents, unpackExponent_packComponents, unpackSign_pack,
    ofBitVec_toBitVec]
  rw [if_neg (by decide), dif_neg ne]
  rfl

/-- Bits with any other exponent than the greatest are a number of one bit more. -/
lemma unpack_normal (s : Sign) {E : BitVec 11} (M : BitVec 52) (hlow : 0 < E.toNat)
    (hhigh : E.toNat < 2047) :
    UnpackedFloat.unpack .binary64 (packComponents .binary64 s E M) =
      .finite s (2 ^ 52 + M.toNat) (E.toNat - 1075) (by omega) := by
  have notTop : E ≠ -1#11 := fun h => absurd (h ▸ hhigh) (by decide)
  have notZero : E ≠ 0#11 := fun h => by simp [h] at hlow
  have bias : (E.toNat : Int) - (Format.binary64.exponentBias + (52 : Nat)) = E.toNat - 1075 := by
    change (E.toNat : Int) - ((1023 : Nat) + (52 : Nat)) = _
    omega
  have implicit : (1#1 ++ M).toNat = 2 ^ 52 + M.toNat := by
    rw [BitVec.toNat_append, ← Nat.shiftLeft_add_eq_or_of_lt M.isLt]
    rfl
  unfold UnpackedFloat.unpack
  simp only [unpackMantissa_packComponents, unpackExponent_packComponents, unpackSign_pack,
    ofBitVec_toBitVec]
  rw [if_neg notTop, if_neg notZero]
  simp only [bias, implicit]

/-- The bits of a finite number. -/
lemma pack_canonical {m : Nat} {e : Int} (h : Canonical m e) (s : Sign) :
    UnpackedFloat.pack .binary64 (.finite s m e h.pos) =
      packComponents .binary64 s
        (if m.log2 = 52 then BitVec.ofNat 11 (e + 1075).toNat else 0#11) (BitVec.ofNat 52 m) := by
  have low := h.low
  have high := h.high
  have biased : (e + Format.binary64.exponentBias +
      Format.binary64.mantissaBitsWithoutImplicit : Int).toNat = (e + 1075).toNat := by
    change (e + 1023 + 52 : Int).toNat = _
    omega
  have finite : ¬ 2 ^ Format.binary64.exponentBits ≤ (e + 1075).toNat + 1 := by
    change ¬ 2048 ≤ _
    omega
  have normal : m.log2 + 1 = Format.binary64.mantissaBits ↔ m.log2 = 52 := by
    change m.log2 + 1 = 53 ↔ _
    omega
  rw [UnpackedFloat.pack, biased]
  dsimp only
  rw [if_neg finite, if_congr normal rfl rfl]
  split <;> rfl

/-- A form is unpacked as it was packed. -/
theorem unpack_pack_form {f : UnpackedFloat} (h : Form f) : (Float.Model.pack f).unpack = f := by
  change UnpackedFloat.unpack .binary64 (UnpackedFloat.pack .binary64 f) = f
  cases h with
  | infinity s => cases s <;> rfl
  | notANumber => rfl
  | zero s => cases s <;> rfl
  | @finite s m e h =>
    have low := h.low
    have high := h.high
    have lt := h.lt
    rw [pack_canonical h]
    -- the first bit of a normal mantissa is not stored
    by_cases normal : m.log2 = 52
    · have range := (Nat.log2_eq_iff h.pos.ne').mp normal
      have exponent : (BitVec.ofNat 11 (e + 1075).toNat).toNat = (e + 1075).toNat := by
        rw [BitVec.toNat_ofNat]
        omega
      rw [if_pos normal, unpack_normal _ _ (by omega) (by omega)]
      congr 1
      · rw [BitVec.toNat_ofNat]
        omega
      · omega
    · obtain rfl := h.full.resolve_left normal
      have size := h.size
      have small : m < 2 ^ 52 := (Nat.log2_lt h.pos.ne').mp (by omega)
      have mantissa : (BitVec.ofNat 52 m).toNat = m := by
        rw [BitVec.toNat_ofNat]
        omega
      rw [if_neg normal, unpack_subnormal _ (by rw [mantissa]; exact h.pos)]
      simp only [mantissa]

/-- Every number is packed from a form. -/
theorem exists_form (x : Float.Model) : ∃ f, Form f ∧ x = Float.Model.pack f := by
  have bits : ∀ x y : Float.Model, x.toBits.toBitVec = y.toBits.toBitVec → x = y :=
    fun ⟨⟨_⟩, _⟩ ⟨⟨_⟩, _⟩ h => by cases h; rfl
  suffices ∃ f, Form f ∧ x.toBits.toBitVec = UnpackedFloat.pack .binary64 f from
    this.imp fun f => .imp_right (bits x (.pack f))
  have parts := packComponents_unpack x.toBits.toBitVec
  have invalid := x.valid.eq_packedNaN
  generalize Sign.ofBitVec (@unpackSign .binary64 x.toBits.toBitVec) = s at parts
  generalize @unpackExponent .binary64 x.toBits.toBitVec = E at parts invalid
  generalize @unpackMantissa .binary64 x.toBits.toBitVec = M at parts invalid
  have hM : M.toNat < 2 ^ 52 := M.isLt
  -- the greatest exponent is for what is not finite, the least for zeros and subnormal numbers
  by_cases top : E = -1#11
  · by_cases none : M = 0#52
    · exact ⟨_, .infinity s, by rw [← parts, top, none]; rfl⟩
    · exact ⟨_, .notANumber, invalid top none⟩
  by_cases zero : E = 0#11
  · by_cases none : M = 0#52
    · exact ⟨_, .zero s, by rw [← parts, zero, none]; rfl⟩
    · have pos : 0 < M.toNat := by simpa [BitVec.toNat_pos, BitVec.pos_iff_ne_zero] using none
      have small : M.toNat.log2 < 52 := (Nat.log2_lt pos.ne').mpr hM
      have form : Canonical M.toNat (-1074) := ⟨pos, small.le, by decide, .inr rfl, by decide⟩
      refine ⟨_, .finite s form, ?_⟩
      rw [pack_canonical form, if_neg small.ne, BitVec.ofNat_toNat, BitVec.setWidth_eq, ← zero,
        parts]
  · have low : 0 < E.toNat := by simpa [BitVec.toNat_pos, BitVec.pos_iff_ne_zero] using zero
    have hE : E.toNat < 2 ^ 11 := E.isLt
    have high : E.toNat ≠ 2047 := fun h => top (BitVec.eq_of_toNat_eq h)
    have log : (2 ^ 52 + M.toNat).log2 = 52 := (Nat.log2_eq_iff (by omega)).mpr (by omega)
    have form : Canonical (2 ^ 52 + M.toNat) (E.toNat - 1075) :=
      ⟨by omega, log.le, by omega, .inl log, by omega⟩
    have exponent : BitVec.ofNat 11 (E.toNat - 1075 + 1075 : Int).toNat = E :=
      BitVec.eq_of_toNat_eq (by rw [BitVec.toNat_ofNat]; omega)
    have mantissa : BitVec.ofNat 52 (2 ^ 52 + M.toNat) = M :=
      BitVec.eq_of_toNat_eq (by rw [BitVec.toNat_ofNat]; omega)
    refine ⟨_, .finite s form, ?_⟩
    rw [pack_canonical form, if_pos log, exponent, mantissa, parts]

/-- A number unpacks to a form. -/
lemma form_unpack (x : Float.Model) : Form x.unpack := by
  obtain ⟨f, hf, rfl⟩ := exists_form x
  rwa [unpack_pack_form hf]

/-- A number is packed as it was unpacked. -/
lemma pack_unpack (x : Float.Model) : Float.Model.pack x.unpack = x := by
  obtain ⟨f, hf, rfl⟩ := exists_form x
  rw [unpack_pack_form hf]

/-- A finite number unpacks to its mantissa and its exponent. -/
lemma canonical_of_unpack {x : Float.Model} {s : Sign} {m : Nat} {e : Int} {h : 0 < m}
    (hx : x.unpack = .finite s m e h) : Canonical m e := by
  have form := form_unpack x
  rw [hx] at form
  cases form with
  | finite _ h => exact h

/-! ## Rounding -/

/-- The logarithm of a number with zeros appended. -/
lemma log2_mul_two_pow {n : Nat} (hn : 0 < n) (j : Nat) : (n * 2 ^ j).log2 = n.log2 + j := by
  have hne : n * 2 ^ j ≠ 0 := (Nat.mul_pos hn (Nat.two_pow_pos j)).ne'
  rw [Nat.log2_eq_iff hne]
  constructor
  · rw [Nat.pow_add]
    exact Nat.mul_le_mul_right _ (Nat.log2_self_le hn.ne')
  · rw [Nat.add_right_comm, Nat.pow_add]
    exact Nat.mul_lt_mul_of_pos_right Nat.lt_log2_self (Nat.two_pow_pos j)

/-- Shifting out zeros loses nothing. -/
lemma shiftRight_exact (m j : Nat) :
    (⟨m * 2 ^ j, false, false⟩ : ExtendedMantissa) >>> j = ⟨m, false, false⟩ := by
  induction j generalizing m with
  | zero => rw [Nat.pow_zero, Nat.mul_one]; rfl
  | succ j ih =>
    have step : (⟨m * 2 * 2 ^ j, false, false⟩ : ExtendedMantissa) >>> (j + 1) =
        ((⟨m * 2 * 2 ^ j, false, false⟩ : ExtendedMantissa) >>> j).shiftRightOne := rfl
    rw [Nat.pow_succ', ← Nat.mul_assoc, step, ih]
    simp [ExtendedMantissa.shiftRightOne]

/-- Shifting a mantissa divides it by a power of two. -/
lemma shiftRight_mantissa (em : ExtendedMantissa) (j : Nat) :
    (em >>> j).mantissa = em.mantissa / 2 ^ j := by
  induction j with
  | zero => rw [Nat.pow_zero, Nat.div_one]; rfl
  | succ j ih =>
    change (em >>> j).shiftRightOne.mantissa = _
    rw [ExtendedMantissa.shiftRightOne, ih, Nat.div_div_eq_div_mul, Nat.pow_succ]

/-- Rounding a mantissa adds at most one. -/
lemma roundedMantissa_bounds (em : ExtendedMantissa) :
    em.mantissa ≤ em.roundedMantissa ∧ em.roundedMantissa ≤ em.mantissa + 1 := by
  unfold ExtendedMantissa.roundedMantissa
  cases em.accuracy with
  | exact => exact ⟨Nat.le_refl _, Nat.le_succ _⟩
  | inexact o => cases o <;> simp only [Accuracy.roundToNearestEven] <;> omega

/-- The exponent to which a number is shifted. -/
lemma targetExponent_eq (m : Nat) (e : Int) :
    Format.binary64.targetExponent (totalExponent m e) = max (m.log2 - 52 + e) (-1074) := by
  simp only [Format.targetExponent, totalExponent, Format.mantissaBits, Format.minExponent]
  omega

/-- A finite number has the exponent to which it would be shifted. -/
lemma Canonical.target {m : Nat} {e : Int} (h : Canonical m e) :
    max (m.log2 - 52 + e : Int) (-1074) = e := by
  have low := h.low
  have size := h.size
  rcases h.full with hm | rfl <;> omega

/-- A number is shifted to the exponent that fits its mantissa. -/
lemma shiftToTargetExponent_eq {m j : Nat} {e : Int}
    (ht : max (m.log2 - 52 + e : Int) (-1074) = e + j) :
    shiftToTargetExponent .binary64 m e .exact =
      ((⟨m, false, false⟩ : ExtendedMantissa) >>> j, e + j) := by
  have amount : (e + j - e).toNat = j := by omega
  rw [shiftToTargetExponent, targetExponent_eq, ht, shiftToExponent, amount]
  rfl

/-- A finite number with zeros appended is shifted to its own exponent. -/
lemma Canonical.target_zeros {m j : Nat} {e : Int} (h : Canonical m (e + j)) :
    max ((m * 2 ^ j).log2 - 52 + e : Int) (-1074) = e + j := by
  have := h.target
  rw [log2_mul_two_pow h.pos]
  omega

/-- Zeros at the end of a mantissa are shifted out. -/
lemma shiftToTargetExponent_exact {m j : Nat} {e : Int} (h : Canonical m (e + j)) :
    shiftToTargetExponent .binary64 (m * 2 ^ j) e .exact = (⟨m, false, false⟩, e + j) := by
  rw [shiftToTargetExponent_eq h.target_zeros, shiftRight_exact]

/-- A number is rounded to what a second shift leaves of its rounded mantissa. -/
lemma roundWithAccuracy_of_rounded {m j R k : Nat} {e E : Int}
    (ht : max (m.log2 - 52 + e : Int) (-1074) = e + j)
    (hR : ((⟨m, false, false⟩ : ExtendedMantissa) >>> j).roundedMantissa = R * 2 ^ k)
    (hE : e + j + k = E) (form : Canonical R E) (s : Sign) :
    roundWithAccuracy .binary64 s m e .exact = .finite s R E form.pos := by
  subst hE
  rw [roundWithAccuracy, shiftToTargetExponent_eq ht]
  dsimp only
  rw [hR, shiftToTargetExponent_exact form]
  simp [form.pos.ne']

/-- A number whose mantissa is rounded to nothing is rounded to zero. -/
lemma roundWithAccuracy_of_zero {m j : Nat} {e : Int}
    (ht : max (m.log2 - 52 + e : Int) (-1074) = e + j)
    (zero : ((⟨m, false, false⟩ : ExtendedMantissa) >>> j).roundedMantissa = 0) (s : Sign) :
    roundWithAccuracy .binary64 s m e .exact = .zero s := by
  rw [roundWithAccuracy, shiftToTargetExponent_eq ht]
  dsimp only
  rw [zero]
  unfold shiftToTargetExponent shiftToExponent
  simp only [shiftRight_mantissa, ExtendedMantissa.ofMantissaAndAccuracy, Nat.zero_div, dif_pos]

/-- A finite number with zeros appended is rounded to itself. -/
theorem roundWithAccuracy_exact {m j : Nat} {e : Int} (h : Canonical m (e + j)) (s : Sign) :
    roundWithAccuracy .binary64 s (m * 2 ^ j) e .exact = .finite s m (e + j) h.pos := by
  have whole : ((⟨m * 2 ^ j, false, false⟩ : ExtendedMantissa) >>> j).roundedMantissa =
      m * 2 ^ 0 := by
    rw [shiftRight_exact, Nat.pow_zero, Nat.mul_one]
    rfl
  exact roundWithAccuracy_of_rounded h.target_zeros whole (Int.add_zero _) h s

/-- What is left of a mantissa is rounded to one of the bits that a number has, or to the next power
of two. -/
lemma roundedMantissa_le {m j : Nat} {e : Int}
    (ht : max (m.log2 - 52 + e : Int) (-1074) = e + j) :
    ((⟨m, false, false⟩ : ExtendedMantissa) >>> j).roundedMantissa ≤ 2 ^ 53 := by
  have bound : m / 2 ^ j < 2 ^ 53 := by
    rw [Nat.div_lt_iff_lt_mul (Nat.two_pow_pos j), ← Nat.pow_add]
    exact Nat.lt_log2_self.trans_le (Nat.pow_le_pow_right (by decide) (by omega))
  have upper := (roundedMantissa_bounds ((⟨m, false, false⟩ : ExtendedMantissa) >>> j)).2
  rw [shiftRight_mantissa] at upper
  exact upper.trans bound

/-- What is left of a mantissa has all bits that a number has, unless the exponent is the least. -/
lemma roundedMantissa_full {m j : Nat} {e : Int}
    (ht : max (m.log2 - 52 + e : Int) (-1074) = e + j) :
    2 ^ 52 ≤ ((⟨m, false, false⟩ : ExtendedMantissa) >>> j).roundedMantissa ∨ e + j = -1074 := by
  by_cases least : e + j = -1074
  · exact .inr least
  · have lower := (roundedMantissa_bounds ((⟨m, false, false⟩ : ExtendedMantissa) >>> j)).1
    rw [shiftRight_mantissa] at lower
    refine .inl (Nat.le_trans ?_ lower)
    have log : 52 + j = m.log2 := by omega
    rw [Nat.le_div_iff_mul_le (Nat.two_pow_pos j), ← Nat.pow_add, log]
    exact Nat.log2_self_le fun hm => by simp [hm] at log

/-- A mantissa without a bit too many is that of a finite number. -/
lemma canonical_of_lt {R : Nat} {t : Int} (hR : R ≠ 0) (small : R < 2 ^ 53)
    (full : 2 ^ 52 ≤ R ∨ t = -1074) (low : -1074 ≤ t) (high : t ≤ 971) : Canonical R t := by
  have size : R.log2 ≤ 52 := Nat.le_of_lt_succ ((Nat.log2_lt hR).mpr small)
  refine ⟨Nat.pos_of_ne_zero hR, size, low, full.imp_left fun h => ?_, high⟩
  have := (Nat.le_log2 hR).mpr h
  omega

/-- A mantissa with bits enough is rounded to zero, or to a finite number whose exponent is at most
one above that to which it is shifted. -/
theorem roundWithAccuracy_form {m : Nat} {e t : Int} (ht : max (m.log2 - 52 + e : Int) (-1074) = t)
    (enough : e ≤ t) (high : t < 971) (s : Sign) :
    roundWithAccuracy .binary64 s m e .exact = .zero s ∨
      ∃ M E, ∃ h : Canonical M E, E ≤ t + 1 ∧
        roundWithAccuracy .binary64 s m e .exact = .finite s M E h.pos := by
  obtain ⟨j, rfl⟩ : ∃ j : Nat, t = e + j := ⟨(t - e).toNat, by omega⟩
  by_cases zero : ((⟨m, false, false⟩ : ExtendedMantissa) >>> j).roundedMantissa = 0
  · exact .inl (roundWithAccuracy_of_zero ht zero s)
  right
  rcases (roundedMantissa_le ht).lt_or_eq with small | carry
  · have form := canonical_of_lt zero small (roundedMantissa_full ht) (by omega) high.le
    exact ⟨_, _, form, by omega,
      roundWithAccuracy_of_rounded ht (Nat.mul_one _).symm (Int.add_zero _) form s⟩
  · -- rounding up has carried into one bit more, which the second shift takes back
    have form : Canonical (2 ^ 52) (e + j + 1) :=
      canonical_of_lt (by decide) (by decide) (.inl (Nat.le_refl _)) (by omega) (by omega)
    exact ⟨_, _, form, Int.le_refl _, roundWithAccuracy_of_rounded (k := 1) ht carry rfl form s⟩

end ShipReport.Number
