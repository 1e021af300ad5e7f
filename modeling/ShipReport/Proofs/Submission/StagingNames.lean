import Mathlib.Data.List.Basic
import ShipReport.Proofs.Store.Frames
import ShipReport.Submission.Staging

/-!
# Names of staging tables

The name of a staging table tells the sheet, and of the vessel only what is left of its short code
in lower case, without the characters that names do not keep.
-/

namespace ShipReport.Submission

open Report (ReportSheet)
open Store (sameName sameName_iff)

/-- The part of the names of staging tables that comes from the short code of a vessel. -/
def tableCode (shortCode : String) : String :=
  let code := Text.lowercase (sanitized shortCode)
  if code.isEmpty then "vessel" else code

variable {a b : String} {j k : ReportSheet}

/-- The parts of the name of a staging table. -/
lemma stagingTable_eq (a : String) (k : ReportSheet) :
    stagingTable a k = "stg_" ++ tableCode a ++ "_" ++ k.fileStem :=
  rfl

/-! ## Lower case -/

/-- What a character becomes can stand in a name. -/
lemma isNameChar_nameChar (c : Char) : isNameChar (nameChar c) := by
  unfold nameChar
  split
  · assumption
  · decide

/-- Writing runs of underscores as one adds no character. -/
lemma mem_of_mem_collapsed {c : Char} : ∀ {cs : List Char}, c ∈ collapsed cs → c ∈ cs
  | [], h => h
  | [_], h => h
  | d :: e :: cs, h => by
    unfold collapsed at h
    split at h
    · exact List.mem_cons_of_mem _ (mem_of_mem_collapsed h)
    · rcases List.mem_cons.mp h with rfl | h
      · exact List.mem_cons_self
      · exact List.mem_cons_of_mem _ (mem_of_mem_collapsed h)

/-- Stripping adds no characters. -/
lemma mem_of_mem_stripped {c : Char} {cs : List Char} (h : c ∈ stripped cs) : c ∈ cs := by
  unfold stripped at h
  have h := (List.dropWhile_sublist _).mem (List.mem_reverse.mp h)
  exact (List.dropWhile_sublist _).mem (List.mem_reverse.mp h)

/-- Names hold only characters that names keep. -/
lemma isNameChar_of_mem_sanitized {c : Char} {raw : String} (h : c ∈ (sanitized raw).toList) :
    isNameChar c := by
  unfold sanitized at h
  rw [String.toList_ofList] at h
  obtain ⟨d, -, rfl⟩ := List.mem_map.mp (mem_of_mem_collapsed (mem_of_mem_stripped h))
  exact isNameChar_nameChar d

/-- Names are ASCII texts. -/
lemma isNameChar_lt {c : Char} (h : isNameChar c) : c.toNat < 128 := by
  have upto : ∀ {last : Char}, c.val ≤ last.val → last.toNat < 128 → c.toNat < 128 :=
    fun hle hlast => Nat.lt_of_le_of_lt (UInt32.le_iff_toNat_le.mp hle) hlast
  have one : (((c.isUpper || c.isLower) || c.isDigit) || c == '_') || c == '#' := h
  simp only [Bool.or_eq_true, beq_iff_eq] at one
  rcases one with ((((upper | lower) | digit) | rfl) | rfl)
  · exact upto (of_decide_eq_true upper).2 (by decide : 'Z'.toNat < 128)
  · exact upto (of_decide_eq_true (Bool.and_eq_true_iff.mp lower).2) (by decide : 'z'.toNat < 128)
  · exact upto (of_decide_eq_true (Bool.and_eq_true_iff.mp digit).2) (by decide : '9'.toNat < 128)
  · decide
  · decide

/-- Lower case of ASCII characters is that of each. -/
lemma lowerAfter_ascii (before : List Char) {cs : List Char} (h : ∀ c ∈ cs, c.toNat < 128) :
    Text.lowerAfter before cs = cs.map Char.toLower := by
  induction cs generalizing before with
  | nil => rfl
  | cons c cs ih =>
    have hc := h c List.mem_cons_self
    have small : c ≠ 'Σ' := by
      rintro rfl
      exact absurd hc (by decide)
    rw [Text.lowerAfter, if_neg small, ih _ fun d hd => h d (List.mem_cons_of_mem _ hd)]
    simp [Text.lowerChar, hc]

/-- The lower case of two texts is that of each. -/
lemma asciiLowercase_append (s t : String) :
    Text.asciiLowercase (s ++ t) = Text.asciiLowercase s ++ Text.asciiLowercase t := by
  simp [Text.asciiLowercase]

/-- The lower case of an ASCII character is in lower case. -/
lemma toLower_toLower {c : Char} (h : c.toNat < 128) : c.toLower.toLower = c.toLower := by
  have each : ∀ n < 128, (Char.ofNat n).toLower.toLower = (Char.ofNat n).toLower := by decide
  have hc := each c.toNat h
  rwa [Char.ofNat_toNat] at hc

/-- The lower case of a name is that of each of its characters. -/
lemma toList_lowercase_sanitized (a : String) :
    (Text.lowercase (sanitized a)).toList = (sanitized a).toList.map Char.toLower := by
  unfold Text.lowercase
  rw [String.toList_ofList, lowerAfter_ascii []]
  exact fun c hc => isNameChar_lt (isNameChar_of_mem_sanitized hc)

/-- The part for the vessel is in lower case. -/
lemma asciiLowercase_tableCode (a : String) :
    Text.asciiLowercase (tableCode a) = tableCode a := by
  unfold tableCode
  dsimp only
  split
  · decide
  · unfold Text.asciiLowercase
    rw [toList_lowercase_sanitized, List.map_map, ← String.toList_inj, String.toList_ofList,
      toList_lowercase_sanitized]
    exact List.map_congr_left fun c hc =>
      toLower_toLower (isNameChar_lt (isNameChar_of_mem_sanitized hc))

/-- The names of staging tables are in lower case. -/
lemma asciiLowercase_stagingTable (a : String) (k : ReportSheet) :
    Text.asciiLowercase (stagingTable a k) = stagingTable a k := by
  have stem : Text.asciiLowercase k.fileStem = k.fileStem := by cases k <;> decide
  rw [stagingTable_eq, asciiLowercase_append, asciiLowercase_append, asciiLowercase_append,
    asciiLowercase_tableCode, stem]
  rfl

/-! ## Names in statements -/

/-- The lower case of a character that names keep has another number than zero. -/
lemma toLower_ne_zero {c : Char} (h : isNameChar c) : c.toLower ≠ '\x00' := by
  have each : ∀ n < 128, isNameChar (Char.ofNat n) → (Char.ofNat n).toLower ≠ '\x00' := by decide
  have hc := each c.toNat (isNameChar_lt h)
  rw [Char.ofNat_toNat] at hc
  exact hc h

/-- The names of staging tables are read in statements. -/
lemma isReadable_stagingTable (a : String) (k : ReportSheet) :
    Store.IsReadable (stagingTable a k) := by
  have code : '\x00' ∉ (tableCode a).toList := by
    unfold tableCode
    dsimp only
    split
    · decide
    · rw [toList_lowercase_sanitized, List.mem_map]
      rintro ⟨c, hc, zero⟩
      exact toLower_ne_zero (isNameChar_of_mem_sanitized hc) zero
  have stem : '\x00' ∉ k.fileStem.toList := by cases k <;> decide
  unfold Store.IsReadable
  rw [stagingTable_eq]
  simp only [String.toList_append, List.mem_append, not_or]
  exact ⟨⟨⟨by decide, code⟩, by decide⟩, stem⟩

/-! ## Which names are the same -/

/-- The stems of two sheets end differently. -/
lemma fileStem_getLast_inj (h : j.fileStem.toList.getLast? = k.fileStem.toList.getLast?) :
    j = k := by
  revert h
  cases j <;> cases k <;> decide

/-- Two staging tables have one name only if they are for the same sheet and nothing else is left
of the short codes. -/
theorem sameName_stagingTable :
    sameName (stagingTable a j) (stagingTable b k) ↔ tableCode a = tableCode b ∧ j = k := by
  rw [sameName_iff, asciiLowercase_stagingTable, asciiLowercase_stagingTable]
  constructor
  · intro h
    have lists := congrArg String.toList h
    simp only [stagingTable_eq, String.toList_append] at lists
    have last := congrArg List.getLast? lists
    have hj : j.fileStem.toList ≠ [] := by cases j <;> decide
    have hk : k.fileStem.toList ≠ [] := by cases k <;> decide
    rw [List.getLast?_append_of_ne_nil _ hj, List.getLast?_append_of_ne_nil _ hk] at last
    obtain rfl := fileStem_getLast_inj last
    refine ⟨?_, rfl⟩
    rw [← String.toList_inj]
    exact List.append_cancel_left (List.append_cancel_right (List.append_cancel_right lists))
  · rintro ⟨h, rfl⟩
    rw [stagingTable_eq, stagingTable_eq, h]

/-- Staging tables are no tables whose names begin with another letter. -/
lemma not_sameName_stagingTable {name : String}
    (h : (Text.asciiLowercase name).toList.head? ≠ some 's') :
    ¬ sameName (stagingTable a k) name := by
  rw [sameName_iff, asciiLowercase_stagingTable]
  intro hs
  rw [← hs] at h
  simp [stagingTable_eq] at h

end ShipReport.Submission
