import ShipReport.Number.Text
import ShipReport.Proofs.Number.Decimals

/-!
# Texts that read back

The text of a number reads back as the number. Where cells show whole numbers as integers, the text
reads back as a number with the same text.
-/

namespace ShipReport.Number

open Float.Model Float.Model.UnpackedFloat

/-! ## Reading digits -/

variable {ds fs rest : List Char}

/-- Characters of a kind are split off up to the first that is not of the kind. -/
lemma span_append {kind : Char → Bool} (same : ∀ c ∈ ds, kind c)
    (last : ∀ c, rest.head? = some c → kind c = false) :
    (ds ++ rest).span kind = (ds, rest) := by
  rw [List.span_eq_takeWhile_dropWhile]
  have none : rest.takeWhile kind = [] ∧ rest.dropWhile kind = rest := by
    cases rest with
    | nil => exact ⟨rfl, rfl⟩
    | cons c cs => simp [last c rfl]
  rw [List.takeWhile_append_of_pos same, List.dropWhile_append_of_pos same, none.1, none.2,
    List.append_nil]

/-- Digits are split off up to the first character that is none. -/
lemma spanDigits_append (digits : ∀ c ∈ ds, c.isDigit)
    (last : ∀ c, rest.head? = some c → c.isDigit = false) :
    spanDigits (ds ++ rest) = (ds, rest) :=
  span_append digits last

/-- Digits are read as a natural number. -/
lemma readUnsigned?_digits (digits : ∀ c ∈ ds, c.isDigit) (present : ds ≠ []) :
    readUnsigned? ds = some (ofDecimal (ofDigits ds) 0) := by
  have whole : spanDigits ds = (ds, []) := by
    have split : spanDigits (ds ++ []) = (ds, []) := spanDigits_append digits nofun
    rwa [List.append_nil] at split
  unfold readUnsigned?
  rw [whole]
  simp [present, readExponent?]

/-- Digits with a point are read as a decimal with as many places as there are digits behind it. -/
lemma readUnsigned?_point (digits : ∀ c ∈ ds, c.isDigit) (places : ∀ c ∈ fs, c.isDigit)
    (present : ds ≠ []) :
    readUnsigned? (ds ++ '.' :: fs) = some (ofDecimal (ofDigits (ds ++ fs)) (-fs.length)) := by
  have whole : spanDigits (ds ++ '.' :: fs) = (ds, '.' :: fs) :=
    spanDigits_append digits fun c hc => by cases hc; rfl
  have fraction : spanDigits fs = (fs, []) := by
    have split : spanDigits (fs ++ []) = (fs, []) := spanDigits_append places nofun
    rwa [List.append_nil] at split
  unfold readUnsigned?
  rw [whole]
  simp [fraction, present, readExponent?]

/-- The digits of a number are digits. -/
lemma isDigit_of_digits {n : Nat} : ∀ c ∈ digits n, c.isDigit :=
  fun _ hc => Nat.isDigit_of_mem_toDigits (by decide) (by decide) hc

/-- Each number has a digit. -/
lemma digits_ne_nil (n : Nat) : digits n ≠ [] :=
  Nat.toDigits_ne_nil

/-- The digits of a number denote it. -/
lemma ofDigits_digits (n : Nat) : ofDigits (digits n) = n :=
  Nat.ofDigitChars_toDigits (by decide) (by decide)

/-- Zeros before a number do not count. -/
lemma ofDigits_zeros (k : Nat) (cs : List Char) :
    ofDigits (List.replicate k '0' ++ cs) = ofDigits cs := by
  induction k with
  | zero => rfl
  | succ k ih => exact ih

/-! ## Positional texts -/

/-- Digits, with at most a point among them, but not before them. -/
structure Positional (cs : List Char) : Prop where
  chars : ∀ c ∈ cs, c.isDigit ∨ c = '.'
  head : ∃ c, cs.head? = some c ∧ c.isDigit

/-- A number that is written without places is read as a natural number. -/
lemma read_positional_whole (n : Nat) :
    readUnsigned? (positional n 0).toList = some (ofDecimal n 0) := by
  have text : (positional n 0).toList = digits n := by
    rw [positional, if_pos (Int.le_refl 0), String.toList_ofList]
    exact List.append_nil _
  rw [text, readUnsigned?_digits isDigit_of_digits (digits_ne_nil n), ofDigits_digits]

/-- The digits around the point of a number with places. -/
lemma positional_places (n : Nat) {k : Nat} (hk : 0 < k) :
    ∃ ds fs, (positional n (-k)).toList = ds ++ '.' :: fs ∧ (∀ c ∈ ds, c.isDigit) ∧
      (∀ c ∈ fs, c.isDigit) ∧ ds ≠ [] ∧ fs.length = k ∧ ofDigits (ds ++ fs) = n := by
  have negative : ¬ 0 ≤ (-k : Int) := by omega
  have places : (- -(k : Int)).toNat = k := by omega
  have zeros : ∀ c ∈ List.replicate (k + 1 - (digits n).length) '0' ++ digits n, c.isDigit := by
    intro c hc
    rcases List.mem_append.mp hc with hc | hc
    · rw [List.eq_of_mem_replicate hc]
      rfl
    · exact isDigit_of_digits c hc
  have length : k + 1 ≤ (List.replicate (k + 1 - (digits n).length) '0' ++ digits n).length := by
    rw [List.length_append, List.length_replicate]
    omega
  rw [positional]
  dsimp only
  rw [if_neg negative, places, String.toList_ofList]
  have value := ofDigits_zeros (k + 1 - (digits n).length) (digits n)
  rw [ofDigits_digits] at value
  generalize List.replicate (k + 1 - (digits n).length) '0' ++ digits n = padded at *
  refine ⟨_, _, rfl, fun c hc => zeros c (List.mem_of_mem_take hc),
    fun c hc => zeros c (List.mem_of_mem_drop hc), ?_, ?_, ?_⟩
  · intro hnil
    have := congrArg List.length hnil
    rw [List.length_take, List.length_nil] at this
    omega
  · rw [List.length_drop]
    omega
  · rw [List.take_append_drop]
    exact value

/-- A number that is written with places is read as a decimal with as many places. -/
lemma read_positional_places (n : Nat) {k : Nat} (hk : 0 < k) :
    readUnsigned? (positional n (-k)).toList = some (ofDecimal n (-k)) := by
  obtain ⟨ds, fs, text, digits, places, present, length, value⟩ := positional_places n hk
  rw [text, readUnsigned?_point digits places present, value, length]

/-- Positional texts consist of digits with at most a point among them. -/
lemma positional_spec (n : Nat) (e : Int) : Positional (positional n e).toList := by
  rcases Int.lt_or_le e 0 with negative | whole
  · obtain ⟨k, hk, rfl⟩ : ∃ k : Nat, 0 < k ∧ e = -k := ⟨(-e).toNat, by omega, by omega⟩
    obtain ⟨ds, fs, text, digits, places, present, -⟩ := positional_places n hk
    rw [text]
    refine ⟨fun c hc => ?_, ?_⟩
    · rcases List.mem_append.mp hc with hc | hc
      · exact .inl (digits c hc)
      · rcases List.mem_cons.mp hc with rfl | hc
        · exact .inr rfl
        · exact .inl (places c hc)
    · obtain ⟨d, ds, rfl⟩ := List.exists_cons_of_ne_nil present
      exact ⟨d, rfl, digits d List.mem_cons_self⟩
  · rw [positional]
    dsimp only
    rw [if_pos whole, String.toList_ofList]
    refine ⟨fun c hc => .inl ?_, ?_⟩
    · rcases List.mem_append.mp hc with hc | hc
      · exact isDigit_of_digits c hc
      · rw [List.eq_of_mem_replicate hc]
        rfl
    · obtain ⟨d, ds, hd⟩ := List.exists_cons_of_ne_nil (digits_ne_nil n)
      rw [hd]
      exact ⟨d, rfl, isDigit_of_digits d (hd ▸ List.mem_cons_self)⟩

/-- A positional text has no sign. -/
lemma splitSign_positional {cs : List Char} (h : Positional cs) : splitSign cs = (false, cs) := by
  obtain ⟨c, hc, digit⟩ := h.head
  cases cs with
  | nil => cases hc
  | cons d ds =>
    obtain rfl := Option.some.inj hc
    unfold splitSign
    split
    · next heq => cases heq; cases digit
    · next heq => cases heq; cases digit
    · rfl

/-- A minus before a positional text negates the number. -/
lemma read_minus {s : String} (h : Positional s.toList) :
    read? ("-" ++ s) = (read? s).map (-·) := by
  have sign : splitSign ("-" ++ s).toList = (true, s.toList) := by
    rw [String.toList_append]
    rfl
  unfold read?
  rw [sign, splitSign_positional h]
  dsimp only
  cases (readUnsigned? s.toList).or (readWord? s.toList) <;> rfl

/-- The number that a positional text is read as. -/
lemma read_positional {s : String} (h : Positional s.toList) {x : Float}
    (hx : readUnsigned? s.toList = some x) : read? s = some x := by
  unfold read?
  rw [splitSign_positional h]
  dsimp only
  rw [hx]
  rfl

/-! ## The text of a number -/

/-- Rounded texts consist of digits with at most a point among them. -/
lemma roundedText_positional (count mantissa : Nat) (exponent : Int) :
    Positional (roundedText count mantissa exponent).toList := by
  unfold roundedText
  split <;> exact positional_spec _ _

/-- The shortest text that is found reads back. -/
lemma shortest?_spec {x : Float} {m : Nat} {e : Int} {t : String} (h : shortest? x m e = some t) :
    Positional t.toList ∧ read? t = some x := by
  unfold shortest? at h
  obtain ⟨k, -, found⟩ := List.exists_of_findSome?_eq_some h
  have readsBack : decide (read? t = some x) = true :=
    List.find?_some (p := fun t => decide (read? t = some x)) found
  obtain ⟨q, -, rfl⟩ := List.mem_map.mp (List.mem_of_find?_eq_some found)
  exact ⟨roundedText_positional _ _ _, of_decide_eq_true readsBack⟩

/-- The exact text of a positive number reads back. -/
lemma exactText_spec {x : Float} {m : Nat} {e : Int} (h : Canonical m e)
    (hx : x.toModel.unpack = .finite .positive m e h.pos) :
    Positional (exactText m e).toList ∧ read? (exactText m e) = some x := by
  have positional : Positional (exactText m e).toList := by
    unfold exactText
    split <;> exact positional_spec _ _
  refine ⟨positional, read_positional positional ?_⟩
  rcases Int.lt_or_le e 0 with negative | whole
  · obtain ⟨k, hk, rfl⟩ : ∃ k : Nat, 0 < k ∧ e = -k := ⟨(-e).toNat, by omega, by omega⟩
    have places : (- -(k : Int)).toNat = k := by omega
    have value : ((m * 5 ^ k : Nat) : ℚ) = 10 ^ k * (m * 2 ^ (-k : Int)) := by
      rw [zpow_neg, zpow_natCast, show (10 : ℚ) = 5 * 2 by norm_num, mul_pow]
      push_cast
      field_simp
    rw [exactText, if_neg (by omega), places, read_positional_places _ hk]
    exact congrArg some (eq_of_unpack ((ofDecimal_places hk h value).trans hx.symm))
  · obtain ⟨k, rfl⟩ : ∃ k : Nat, e = k := ⟨e.toNat, by omega⟩
    rw [exactText, if_pos whole, Int.toNat_natCast, read_positional_whole]
    exact congrArg some (eq_of_unpack ((ofDecimal_whole h).trans hx.symm))

/-- The text of a positive number reads back as the number. -/
lemma magnitudeText_spec {x : Float} {m : Nat} {e : Int} (h : Canonical m e)
    (hx : x.toModel.unpack = .finite .positive m e h.pos) :
    Positional (magnitudeText x m e).toList ∧ read? (magnitudeText x m e) = some x := by
  unfold magnitudeText
  cases hs : shortest? x m e with
  | some t => exact shortest?_spec hs
  | none => exact exactText_spec h hx

/-- The absolute value has the same form without the sign. -/
lemma unpack_abs {x : Float} {s : Sign} {m : Nat} {e : Int} {h : 0 < m}
    (hx : x.toModel.unpack = .finite s m e h) : x.abs.toModel.unpack = .finite .positive m e h := by
  change (Float.Model.pack x.toModel.unpack.abs).unpack = _
  rw [hx]
  exact unpack_pack_form (.finite .positive (canonical_of_unpack hx))

/-- The text of a number reads back as the number. -/
theorem read_text (x : Float) : read? (text x) = some x := by
  unfold text
  cases hx : x.toModel.unpack with
  | notANumber =>
    have word : read? "NaN" = some (0 / 0) := by decide +kernel
    exact word.trans (congrArg some (eq_of_unpack hx.symm))
  | infinity s =>
    have words : read? "inf" = some (1 / 0) ∧ read? "-inf" = some (-(1 / 0)) := by decide +kernel
    cases s with
    | positive => exact words.1.trans (congrArg some (eq_of_unpack hx.symm))
    | negative => exact words.2.trans (congrArg some (eq_of_unpack hx.symm))
  | zero s =>
    have words : read? "0" = some 0 ∧ read? "-0" = some (-0) := by decide +kernel
    cases s with
    | positive => exact words.1.trans (congrArg some (eq_of_unpack hx.symm))
    | negative => exact words.2.trans (congrArg some (eq_of_unpack hx.symm))
  | finite s m e h =>
    have magnitude := unpack_abs hx
    obtain ⟨positional, readsBack⟩ := magnitudeText_spec (canonical_of_unpack hx) magnitude
    dsimp only
    cases s with
    | positive =>
      rw [signText, String.empty_append, readsBack]
      exact congrArg some (eq_of_unpack (magnitude.trans hx.symm))
    | negative =>
      rw [signText, read_minus positional, readsBack]
      refine congrArg some (eq_of_unpack ?_)
      rw [unpack_neg, magnitude, hx]
      rfl

/-! ## The text that cells show -/

/-- The text of a natural number is positional without places. -/
lemma toString_eq_positional (n : Nat) : toString n = positional n 0 := by
  rw [positional]
  dsimp only
  rw [if_pos (Int.le_refl 0)]
  exact congrArg String.ofList (List.append_nil _).symm

/-- An integer reads back as its conversion. -/
lemma read_toString (n : Int) : read? (toString n) = some (Float.ofInt n) := by
  have natural : ∀ m : Nat, read? (toString m) = some (Float.ofNat m) := fun m => by
    rw [toString_eq_positional]
    exact read_positional (positional_spec m 0) (read_positional_whole m)
  cases n with
  | ofNat m => exact natural m
  | negSucc m =>
    have digits : Positional (toString (m + 1)).toList := by
      rw [toString_eq_positional]
      exact positional_spec (m + 1) 0
    change read? ("-" ++ toString (m + 1)) = some (-Float.ofNat (m + 1))
    rw [read_minus digits, natural]
    rfl

/-- A natural number below 2 ^ 53 is shown as the integer that it is. -/
lemma integer?_ofNat {n : Nat} (hlt : n < 2 ^ 53) : integer? (Float.ofNat n) = some (n : Int) := by
  rcases Nat.eq_zero_or_pos n with rfl | pos
  · rfl
  have log := log2_le hlt
  unfold integer?
  rw [unpack_ofNat pos hlt, exactForm]
  dsimp only
  split
  · next whole =>
    have none : 52 - n.log2 = 0 := by omega
    have scale : ((n.log2 : Int) - 52).toNat = 0 := by omega
    rw [fullMantissa, none, scale]
    exact congrArg some (congrArg Int.ofNat (by simp))
  · have places : (-((n.log2 : Int) - 52)).toNat = 52 - n.log2 := by omega
    have unit : 0 < Nat.pow 2 (52 - n.log2) := Nat.two_pow_pos _
    rw [places, fullMantissa]
    change (if n * Nat.pow 2 (52 - n.log2) % Nat.pow 2 (52 - n.log2) = 0 then _ else _) = _
    rw [if_pos (Nat.mul_mod_left _ _)]
    have back : n * 2 ^ (52 - n.log2) / Nat.pow 2 (52 - n.log2) = n := Nat.mul_div_cancel n unit
    exact congrArg some (congrArg Int.ofNat back)

/-- The negative of a number is the negative integer. -/
lemma integer?_neg (x : Float) : integer? (-x) = (integer? x).map (-·) := by
  unfold integer?
  rw [unpack_neg]
  cases x.toModel.unpack with
  | infinity s => rfl
  | notANumber => rfl
  | zero s => rfl
  | finite s m e h =>
    have flipped : ∀ k : Int, (-s).apply k = -s.apply k := fun k => by
      cases s
      · exact (Int.neg_neg k).symm
      · rfl
    dsimp only [UnpackedFloat.neg]
    split
    · rw [flipped]; rfl
    · split
      · rw [flipped]; rfl
      · rfl

/-- The conversion of an integer of 53 bits equals it. -/
lemma integer?_ofInt {n : Int} (h : n.natAbs < 2 ^ 53) : integer? (Float.ofInt n) = some n := by
  cases n with
  | ofNat m => exact integer?_ofNat h
  | negSucc m =>
    change integer? (-Float.ofNat (m + 1)) = _
    rw [integer?_neg, integer?_ofNat (n := m + 1) h]
    rfl

/-- What the text that cells show for a number reads back as has the same text. -/
theorem cellText_of_read {x y : Float} (h : read? (cellText x) = some y) :
    cellText y = cellText x := by
  have same : read? (text x) = some y → cellText y = cellText x := fun h => by
    rw [read_text] at h
    rw [Option.some.inj h]
  cases hx : integer? x with
  | none =>
    apply same
    rwa [cellText, hx] at h
  | some n =>
    by_cases small : n.natAbs < 1000000000000000
    · have shown : cellText x = toString n := by
        rw [cellText, hx]
        exact if_pos small
      rw [shown, read_toString] at h
      rw [shown, ← Option.some.inj h, cellText, integer?_ofInt (small.trans (by decide))]
      exact if_pos small
    · apply same
      rw [cellText, hx] at h
      dsimp only at h
      rwa [if_neg small] at h

/-- Decides whether a character can stand in the text of a number. -/
def isTextChar (c : Char) : Bool :=
  c.isDigit || ['.', '-', 'N', 'a', 'i', 'n', 'f'].contains c

/-- Digits and points can stand in the text of a number. -/
lemma isTextChar_of_positional {cs : List Char} (h : Positional cs) : ∀ c ∈ cs, isTextChar c := by
  intro c hc
  rcases h.chars c hc with digit | rfl
  · rw [isTextChar, digit, Bool.true_or]
  · rfl

/-- So can signs. -/
lemma isTextChar_signText (s : Sign) : ∀ c ∈ (signText s).toList, isTextChar c := by
  -- A decision of the quantifier itself would run over all characters.
  apply List.all_eq_true.mp
  cases s <;> rfl

/-- The text that cells show for a number consists of digits, a point, a sign, and the letters of
two words. -/
lemma isTextChar_cellText (x : Float) : ∀ c ∈ (cellText x).toList, isTextChar c := by
  have signed : ∀ (s : Sign) (t : String), (∀ c ∈ t.toList, isTextChar c) →
      ∀ c ∈ (signText s ++ t).toList, isTextChar c := by
    intro s t ht c hc
    rw [String.toList_append] at hc
    exact (List.mem_append.mp hc).elim (isTextChar_signText s c) (ht c)
  have magnitude : ∀ c ∈ (text x).toList, isTextChar c := by
    unfold text
    cases hx : x.toModel.unpack with
    | notANumber => exact List.all_eq_true.mp (show "NaN".toList.all isTextChar = true from rfl)
    | infinity s => exact signed s "inf" (List.all_eq_true.mp rfl)
    | zero s => exact signed s "0" (List.all_eq_true.mp rfl)
    | finite s m e h =>
      exact signed s _ (isTextChar_of_positional
        (magnitudeText_spec (canonical_of_unpack hx) (unpack_abs hx)).1)
  have natural : ∀ n : Nat, ∀ c ∈ (toString n).toList, isTextChar c := fun n => by
    rw [toString_eq_positional]
    exact isTextChar_of_positional (positional_spec n 0)
  have integer : ∀ n : Int, ∀ c ∈ (toString n).toList, isTextChar c := fun n =>
    match n with
    | .ofNat m => natural m
    | .negSucc m => signed .negative (toString (m + 1)) (natural (m + 1))
  unfold cellText
  split
  · split
    · exact integer _
    · exact magnitude
  · exact magnitude

end ShipReport.Number
