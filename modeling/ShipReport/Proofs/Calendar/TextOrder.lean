import ShipReport.Proofs.Calendar.Instants

/-!
# The order of texts of instants

Texts of instants of the years 0 to 9999 are in the order of the instants. Numbers have a fixed
number of digits in them, the greatest unit first; only the fraction of a second has as many groups
of digits as it needs. Where one fraction goes on and the other ends, the sign of the offset stands
against a digit, or against the point if there is no fraction at all, and comes before both.
-/

namespace ShipReport.Calendar

/-! ## Digits in order -/

section

variable {xs ys us vs : List Char} {c : Char} {cs : List Char}

/-- After texts of one length, what follows decides only if these are equal. -/
lemma append_lt_append (length : xs.length = ys.length) :
    xs ++ us < ys ++ vs ↔ xs < ys ∨ xs = ys ∧ us < vs := by
  induction xs generalizing ys with
  | nil =>
    obtain rfl := List.length_eq_zero_iff.mp length.symm
    simp
  | cons x xs ih =>
    match ys, length with
    | y :: ys, length =>
      rw [List.cons_append, List.cons_append, List.cons_lt_cons_iff, List.cons_lt_cons_iff,
        ih (Nat.succ.inj length), List.cons.injEq, and_or_left, or_assoc, and_assoc]

/-- The first digit counts as often as the others have places. -/
lemma ofDigits_cons (c : Char) (cs : List Char) :
    Number.ofDigits (c :: cs) = 10 ^ cs.length * (c.toNat - '0'.toNat) + Number.ofDigits cs := by
  have digits : ∀ ds, Number.ofDigits ds = Nat.ofDigitChars 10 ds 0 := fun _ => rfl
  rw [digits, digits, Nat.ofDigitChars_cons, Nat.ofDigitChars_eq_ofDigitChars_zero]
  simp

/-- The bounds of a digit. -/
lemma digit_bounds (h : c.isDigit) : 48 ≤ c.toNat ∧ c.toNat ≤ 57 :=
  Char.isDigit_iff_toNat.mp h

/-- Digits denote a number below the power of ten of their places. -/
lemma ofDigits_lt_pow (digits : ∀ c ∈ cs, c.isDigit) : Number.ofDigits cs < 10 ^ cs.length := by
  induction cs with
  | nil => exact Nat.one_pos
  | cons c cs ih =>
    obtain ⟨first, digits⟩ := List.forall_mem_cons.mp digits
    have bounds := digit_bounds first
    have rest := ih digits
    have top : 10 ^ cs.length * (c.toNat - '0'.toNat) ≤ 10 ^ cs.length * 9 :=
      Nat.mul_le_mul_left _ (show c.toNat - 48 ≤ 9 by omega)
    rw [ofDigits_cons, List.length_cons, Nat.pow_succ]
    omega

/-- Digits of one length are in the order of the numbers that they denote. -/
lemma ofDigits_lt (length : xs.length = ys.length) (digits : ∀ c ∈ xs, c.isDigit)
    (digits' : ∀ c ∈ ys, c.isDigit) (h : xs < ys) : Number.ofDigits xs < Number.ofDigits ys := by
  induction xs generalizing ys with
  | nil =>
    obtain rfl := List.length_eq_zero_iff.mp length.symm
    exact absurd h (List.lt_irrefl _)
  | cons x xs ih =>
    match ys, length with
    | y :: ys, length =>
      have same : xs.length = ys.length := Nat.succ.inj length
      obtain ⟨first, digits⟩ := List.forall_mem_cons.mp digits
      have rest := (List.forall_mem_cons.mp digits').2
      rw [ofDigits_cons, ofDigits_cons, same]
      rcases List.cons_lt_cons_iff.mp h with less | ⟨rfl, less⟩
      · have bound := ofDigits_lt_pow digits
        have lower := digit_bounds first
        have less : x.toNat < y.toNat := less
        have step : 10 ^ ys.length * (x.toNat - '0'.toNat + 1) ≤
            10 ^ ys.length * (y.toNat - '0'.toNat) :=
          Nat.mul_le_mul_left _ (show x.toNat - 48 + 1 ≤ y.toNat - 48 by omega)
        rw [Nat.mul_add, Nat.mul_one] at step
        rw [same] at bound
        omega
      · exact Nat.add_lt_add_left (ih same digits rest less) _

/-- Numbers written to one width are in their order. -/
lemma padded_lt {w m n : Nat} (hw : 0 < w) (hn : n < 10 ^ w) (h : m < n) :
    (padded w m).toList < (padded w n).toList := by
  obtain ⟨length, digits, value⟩ := padded_spec hw (h.trans hn)
  obtain ⟨length', digits', value'⟩ := padded_spec hw hn
  rcases lt_trichotomy (padded w m).toList (padded w n).toList with less | same | less
  · exact less
  · rw [same] at value
    omega
  · have := ofDigits_lt (length'.trans length.symm) digits' digits less
    omega

/-- Numbers written to one width are in their order whatever follows, and what follows decides where
they are the same. -/
lemma padded_append_lt {w m n : Nat} {P : Prop} (hw : 0 < w) (hm : m < 10 ^ w) (hn : n < 10 ^ w)
    (h : m < n ∨ m = n ∧ P) (rest : P → us < vs) :
    (padded w m).toList ++ us < (padded w n).toList ++ vs := by
  rw [append_lt_append ((padded_spec hw hm).1.trans (padded_spec hw hn).1.symm)]
  rcases h with less | ⟨rfl, same⟩
  · exact .inl (padded_lt hw hn less)
  · exact .inr ⟨rfl, rest same⟩

/-- The same with a mark after the numbers. -/
lemma field_lt {w m n : Nat} {mark : Char} {P : Prop} (hw : 0 < w) (hm : m < 10 ^ w)
    (hn : n < 10 ^ w) (h : m < n ∨ m = n ∧ P) (rest : P → us < vs) :
    (padded w m).toList ++ mark :: us < (padded w n).toList ++ mark :: vs :=
  padded_append_lt hw hm hn h fun same => List.cons_lt_cons_iff.mpr (.inr ⟨rfl, rest same⟩)

end

namespace Instant

/-! ## Fractions -/

section

variable {xs ys : List Char}

/-- No digits come before zeros. -/
lemma not_lt_zeros (length : xs.length = ys.length) (digits : ∀ c ∈ xs, c.isDigit)
    (zeros : ∀ c ∈ ys, c = '0') : ¬ xs < ys := by
  induction xs generalizing ys with
  | nil =>
    obtain rfl := List.length_eq_zero_iff.mp length.symm
    exact List.lt_irrefl _
  | cons x xs ih =>
    match ys, length with
    | y :: ys, length =>
      obtain ⟨first, digits⟩ := List.forall_mem_cons.mp digits
      obtain ⟨zero, zeros⟩ := List.forall_mem_cons.mp zeros
      rw [List.cons_lt_cons_iff, zero]
      rintro (less | ⟨-, less⟩)
      · have less : x.toNat < 48 := less
        have := digit_bounds first
        omega
      · exact ih (Nat.succ.inj length) digits zeros less

/-- The sign of the offset comes before digits. -/
lemma zeroOffset_lt {c : Char} (h : c.isDigit) (cs : List Char) : zeroOffset < c :: cs := by
  refine List.cons_lt_cons_iff.mpr (.inl ?_)
  have := digit_bounds h
  exact show 43 < c.toNat by omega

/-- Digits stay in their order when zeros at their ends are left out before the offset. -/
lemma take_append_lt {j k : Nat} (length : xs.length = ys.length) (digits : ∀ c ∈ xs, c.isDigit)
    (digits' : ∀ c ∈ ys, c.isDigit) (zeros : ∀ c ∈ xs.drop j, c = '0')
    (zeros' : ∀ c ∈ ys.drop k, c = '0') (h : xs < ys) :
    xs.take j ++ zeroOffset < ys.take k ++ zeroOffset := by
  induction xs generalizing ys j k with
  | nil =>
    obtain rfl := List.length_eq_zero_iff.mp length.symm
    exact absurd h (List.lt_irrefl _)
  | cons x xs ih =>
    match ys, length with
    | y :: ys, length =>
      cases k with
      | zero => exact absurd h (not_lt_zeros length digits zeros')
      | succ k =>
        have last := List.forall_mem_cons.mp digits'
        cases j with
        | zero => exact zeroOffset_lt last.1 _
        | succ j =>
          rw [List.take_succ_cons, List.take_succ_cons, List.cons_append, List.cons_append]
          refine List.cons_lt_cons_iff.mpr ((List.cons_lt_cons_iff.mp h).imp_right ?_)
          exact And.imp_right (ih (Nat.succ.inj length) (List.forall_mem_cons.mp digits).2 last.2
            zeros zeros')

end

/-- Zeros at the end of a number stand at the end of its digits. -/
lemma toDigits_mul_pow {a : Nat} (ha : 0 < a) (j : Nat) :
    Nat.toDigits 10 (a * 10 ^ j) = Nat.toDigits 10 a ++ List.replicate j '0' := by
  induction j with
  | zero => simp
  | succ j ih =>
    have pos : 0 < a * 10 ^ j := Nat.mul_pos ha (Nat.pow_pos (by decide))
    have step := Nat.toDigits_append_toDigits (b := 10) (d := 0) (by decide) pos (by decide)
    rw [show a * 10 ^ (j + 1) = 10 * (a * 10 ^ j) + 0 by ring, ← step, ih, List.append_assoc,
      List.replicate_succ']
    rfl

/-- The first digits of nanoseconds, where the others are zeros. -/
lemma padded_div {n k j : Nat} (hn : 0 < n) (h : n < 10 ^ 9) (hk : 0 < k) (width : k + j = 9)
    (zeros : 10 ^ j ∣ n) :
    ("." ++ padded k (n / 10 ^ j)).toList = '.' :: (padded 9 n).toList.take k ∧
      ∀ c ∈ (padded 9 n).toList.drop k, c = '0' := by
  obtain ⟨a, rfl⟩ := zeros
  have scale : 0 < 10 ^ j := Nat.pow_pos (by decide)
  have ha : 0 < a := Nat.pos_of_mul_pos_left hn
  have short : a < 10 ^ k := by
    rw [← width, Nat.pow_add, Nat.mul_comm (10 ^ k)] at h
    exact Nat.lt_of_mul_lt_mul_left h
  have split : (padded 9 (10 ^ j * a)).toList = (padded k a).toList ++ List.replicate j '0' := by
    unfold padded
    rw [String.toList_ofList, String.toList_ofList, Nat.mul_comm, toDigits_mul_pow ha,
      List.length_append, List.length_replicate, ← width, Nat.add_sub_add_right, List.append_assoc]
  have length := (padded_spec hk short).1
  rw [split, List.take_left' length, List.drop_left' length, Nat.mul_div_cancel_left a scale,
    String.toList_append]
  exact ⟨rfl, fun c hc => List.eq_of_mem_replicate hc⟩

/-- A fraction has the digits of its nanoseconds up to some zeros. -/
lemma fractionText_toList {n : Nat} (hn : 0 < n) (h : n < 10 ^ 9) :
    ∃ k, (fractionText n).toList = '.' :: (padded 9 n).toList.take k ∧
      ∀ c ∈ (padded 9 n).toList.drop k, c = '0' := by
  unfold fractionText
  rw [if_neg hn.ne']
  split
  · next millis =>
    exact ⟨3, padded_div (j := 6) hn h (by decide) rfl (Nat.dvd_of_mod_eq_zero millis)⟩
  split
  · next micros =>
    exact ⟨6, padded_div (j := 3) hn h (by decide) rfl (Nat.dvd_of_mod_eq_zero micros)⟩
  · have whole := padded_div (j := 0) hn h (by decide) rfl (Nat.one_dvd n)
    rw [Nat.pow_zero, Nat.div_one] at whole
    exact ⟨9, whole⟩

/-- Fractions before the offset are in their order. -/
lemma fractionText_lt {m n : Nat} (hn : n < 10 ^ 9) (h : m < n) :
    (fractionText m).toList ++ zeroOffset < (fractionText n).toList ++ zeroOffset := by
  obtain ⟨k, text, zeros⟩ := fractionText_toList (show 0 < n by omega) hn
  rw [text, List.cons_append]
  rcases Nat.eq_zero_or_pos m with rfl | hm
  · exact List.cons_lt_cons_iff.mpr (.inl (by decide))
  · obtain ⟨j, text', zeros'⟩ := fractionText_toList hm (h.trans hn)
    obtain ⟨length, digits, -⟩ := padded_spec (by decide) (h.trans hn)
    obtain ⟨length', digits', -⟩ := padded_spec (by decide) hn
    rw [text', List.cons_append, List.cons_lt_cons_iff]
    exact .inr ⟨rfl, take_append_lt (length.trans length'.symm) digits digits' zeros' zeros
      (padded_lt (by decide) hn h)⟩

/-! ## Instants in order -/

/-- The number of nanoseconds since the first of January 1970. -/
def toNanos (t : Instant) : Int :=
  (t.day * 86400 + t.second) * 1000000000 + t.nanos

variable {t u : Instant}

/-- The text of an earlier instant comes first. -/
lemma text_lt (plain : t.Plain) (plain' : u.Plain) (h : t.toNanos < u.toNanos) :
    t.text < u.text := by
  have year := plain.year
  have year' := plain'.year
  have second := plain.second
  have second' := plain'.second
  have nanos := plain.nanos
  have nanos' := plain'.nanos
  obtain ⟨month, day⟩ := date_bounds t.day
  obtain ⟨month', day'⟩ := date_bounds u.day
  unfold toNanos at h
  rw [String.lt_iff_toList_lt, text_toList plain, text_toList plain']
  by_cases same : t.day = u.day
  · -- the date is the same, and the first field of the time that differs decides
    rw [same]
    refine field_lt (by decide) (by omega) (by omega) (.inr ⟨rfl, trivial⟩) fun _ => ?_
    refine field_lt (by decide) month' month' (.inr ⟨rfl, trivial⟩) fun _ => ?_
    refine field_lt (by decide) day' day' (.inr ⟨rfl, trivial⟩) fun _ => ?_
    have time : t.second / 3600 < u.second / 3600 ∨ t.second / 3600 = u.second / 3600 ∧
      (t.second / 60 % 60 < u.second / 60 % 60 ∨ t.second / 60 % 60 = u.second / 60 % 60 ∧
        (t.second % 60 < u.second % 60 ∨ t.second % 60 = u.second % 60 ∧ t.nanos < u.nanos)) := by
      omega
    refine field_lt (by decide) (by omega) (by omega) time fun time => ?_
    refine field_lt (by decide) (by omega) (by omega) time fun time => ?_
    exact padded_append_lt (by decide) (by omega) (by omega) time (fractionText_lt nanos')
  · -- the first field of the date that differs decides
    have before : (Date.ofDays t.day).Before (Date.ofDays u.day) := Date.ofDays_before (by omega)
    unfold Date.Before at before
    have date : (Date.ofDays t.day).year.toNat < (Date.ofDays u.day).year.toNat ∨
        (Date.ofDays t.day).year.toNat = (Date.ofDays u.day).year.toNat ∧
          ((Date.ofDays t.day).month < (Date.ofDays u.day).month ∨
            (Date.ofDays t.day).month = (Date.ofDays u.day).month ∧
              (Date.ofDays t.day).day < (Date.ofDays u.day).day) := by
      omega
    refine field_lt (by decide) (by omega) (by omega) date fun date => ?_
    refine field_lt (by decide) month month' date fun date => ?_
    exact field_lt (by decide) day day' (.inl date) False.elim

/-- An instant is earlier than another exactly if its text comes before the other's. -/
lemma text_lt_iff (plain : t.Plain) (plain' : u.Plain) :
    t.text < u.text ↔ t.toNanos < u.toNanos := by
  refine ⟨fun h => ?_, text_lt plain plain'⟩
  rcases lt_trichotomy t.toNanos u.toNanos with less | same | less
  · exact less
  · have := plain.second
    have := plain'.second
    have := plain.nanos
    have := plain'.nanos
    obtain ⟨day, second, nanos⟩ := t
    obtain ⟨day', second', nanos'⟩ := u
    unfold toNanos at same
    dsimp only at *
    obtain ⟨rfl, rfl, rfl⟩ : day = day' ∧ second = second' ∧ nanos = nanos' := by omega
    exact absurd h (lt_irrefl _)
  · exact absurd h (lt_asymm (text_lt plain' plain less))

/-- An instant is not later than another exactly if its text does not come after the other's. -/
lemma text_le_iff (plain : t.Plain) (plain' : u.Plain) :
    t.text ≤ u.text ↔ t.toNanos ≤ u.toNanos := by
  rw [← not_lt, ← not_lt, text_lt_iff plain' plain]

end Instant

end ShipReport.Calendar
