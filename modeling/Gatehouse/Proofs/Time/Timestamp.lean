import Gatehouse.Proofs.Steps
import Gatehouse.Proofs.Time.Calendar
import Gatehouse.Time.Timestamp
import Mathlib.Data.List.Induction
import Mathlib.Data.Nat.Digits.Defs

/-! # Timestamps read back

A moment that the calendar shows is read back from its timestamp, and every
text that is read at all stands for such a moment. The parts of a timestamp are
read one by one, each up to where its digits end.
-/

namespace Gatehouse

namespace Text

variable {width n : Nat} {c : Char}

theorem toList_padded (width n : Nat) : (padded width n).toList =
    List.replicate (width - (Nat.toDigits 10 n).length) '0' ++ Nat.toDigits 10 n := by
  simp [padded]

theorem decimalValue_padded (width n : Nat) : decimalValue (padded width n).toList = n := by
  have hdigits : decimalValue (Nat.toDigits 10 n) = n :=
    Nat.ofDigitChars_toDigits (by decide) (by decide)
  rw [toList_padded]
  generalize width - _ = zeros
  induction zeros with
  | zero => exact hdigits
  | succ zeros ih => exact ih

theorem isDigit_of_mem_padded (h : c ∈ (padded width n).toList) : c.isDigit := by
  rw [toList_padded, List.mem_append, List.mem_replicate] at h
  rcases h with ⟨-, rfl⟩ | h
  · decide
  · exact Nat.isDigit_of_mem_toDigits (by decide) (by decide) h

theorem length_padded (hwidth : 0 < width) (hn : n < 10 ^ width) :
    (padded width n).toList.length = width := by
  have := (Nat.length_toDigits_le_iff (b := 10) (by decide) hwidth).mpr hn
  rw [toList_padded, List.length_append, List.length_replicate]
  omega

theorem padded_ne_nil (width n : Nat) : (padded width n).toList ≠ [] := by
  have := Nat.length_toDigits_pos (b := 10) (n := n)
  rw [toList_padded]
  intro h
  simp_all

theorem toNat_of_isDigit (h : c.isDigit) : 48 ≤ c.toNat ∧ c.toNat ≤ 57 := by
  simpa [Char.isDigit, UInt32.le_iff_toNat_le] using h

theorem decimalValue_lt {digits : List Char} (h : ∀ c ∈ digits, c.isDigit) :
    decimalValue digits < 10 ^ digits.length := by
  induction digits using List.reverseRecOn with
  | nil => decide
  | append_singleton digits c ih =>
      have hc := toNat_of_isDigit (h c (by simp))
      have hlt := ih fun d hd => h d (by simp [hd])
      have heq : decimalValue (digits ++ [c]) = 10 * decimalValue digits + digitValue c := by
        simp [decimalValue]
      rw [List.length_append, List.length_singleton, Nat.pow_succ, heq, digitValue]
      omega

theorem not_isBlank_of_isDigit (h : c.isDigit) : isBlank c = false := by
  have := toNat_of_isDigit h
  simp [isBlank]
  omega

theorem trimStart_cons (h : isBlank c = false) (cs : List Char) :
    trimStart (c :: cs) = c :: cs := by
  simp [trimStart, h]

theorem trimStart_padded (width n : Nat) (rest : List Char) :
    trimStart ((padded width n).toList ++ rest) = (padded width n).toList ++ rest := by
  have hdigit := @isDigit_of_mem_padded width n
  cases hcs : (padded width n).toList with
  | nil => exact absurd hcs (padded_ne_nil width n)
  | cons c cs => exact trimStart_cons (not_isBlank_of_isDigit (hdigit (by simp [hcs]))) _

end Text

namespace Moment

/-- The count that the clock shows at a moment. A leap second shows that of the second before it. -/
def shownNanos (t : Moment) : Int :=
  if t.leap then t.nanos - 1000000000 else t.nanos

/-- The calendar reaches a moment, and a leap second is the last of its minute. -/
def Shown (t : Moment) : Prop :=
  Representable t.shownNanos ∧ (t.leap → t.shownNanos / 1000000000 % 60 = 59)

instance (t : Moment) : Decidable t.Shown :=
  inferInstanceAs (Decidable (_ ∧ _))

end Moment

namespace Timestamp

open Text

variable {atMost width n : Nat} {c : Char} {cs rest : List Char}

theorem lt_pow2_63 (h : n < 1000000000) : n < pow2 63 :=
  h.trans (by decide)

/-! ## Reading what was written -/

theorem number_padded (hn : n < pow2 63) (hfits : (padded width n).toList.length ≤ atMost)
    (hends : (padded width n).toList.length = atMost ∨ ∃ c cs, rest = c :: cs ∧ ¬ c.isDigit) :
    number atMost ((padded width n).toList ++ rest) = .ok (n, rest) := by
  have hdigits : (((padded width n).toList ++ rest).take atMost).takeWhile Char.isDigit =
      (padded width n).toList := by
    have hall := fun c => @isDigit_of_mem_padded width n c
    rw [List.take_append, List.take_of_length_le hfits, List.takeWhile_append_of_pos hall]
    rcases hends with hfull | ⟨c, cs, rfl, hc⟩
    · simp [hfull]
    · cases atMost - (padded width n).toList.length <;> simp [hc]
  have hne := padded_ne_nil width n
  simp [number, hdigits, decimalValue_padded, hne, Nat.not_le.mpr hn]

theorem field_padded {low high : Nat} (hlow : low ≤ n) (hhigh : n ≤ high) (hn : n < 100)
    (rest : List Char) : field 2 low high ((padded 2 n).toList ++ rest) = .ok (n, rest) := by
  have hlength : (padded 2 n).toList.length = 2 := length_padded (by decide) hn
  have hnumber : number 2 ((padded 2 n).toList ++ rest) = .ok (n, rest) :=
    number_padded (lt_pow2_63 (by omega)) hlength.le (.inl hlength)
  rw [field, trimStart_padded]
  exact bind_eq_ok_iff.mpr ⟨(n, rest), hnumber, if_pos ⟨hlow, hhigh⟩⟩

theorem checkYear_eq {y : Int} (hlow : -1000000 < y) (hhigh : y < 1000000) :
    checkYear y = .ok y := by
  have hword : pow2 31 = 2147483648 := rfl
  rw [checkYear, hword, if_pos (by omega)]

theorem year_of_isDigit (hc : c.isDigit) (cs : List Char) :
    year (c :: cs) = (do
      let (n, rest) ← number 4 (c :: cs)
      .ok (← checkYear n, rest)) := by
  unfold year
  rw [trimStart_cons (not_isBlank_of_isDigit hc)]
  split
  next heq => exact absurd hc (by simp [(List.cons.inj heq).1])
  next heq => exact absurd hc (by simp [(List.cons.inj heq).1])
  next => rfl

theorem year_padded (hn : n ≤ 9999) (rest : List Char) :
    year ((padded 4 n).toList ++ rest) = .ok (n, rest) := by
  have hlength : (padded 4 n).toList.length = 4 := length_padded (by decide) (by omega)
  have hnumber : number 4 ((padded 4 n).toList ++ rest) = .ok (n, rest) :=
    number_padded (lt_pow2_63 (by omega)) hlength.le (.inl hlength)
  have hdigit := @isDigit_of_mem_padded 4 n
  cases hcs : (padded 4 n).toList with
  | nil => exact absurd hcs (padded_ne_nil 4 n)
  | cons d ds =>
      rw [hcs, List.cons_append] at hnumber
      rw [List.cons_append, year_of_isDigit (hdigit (by simp [hcs]))]
      exact bind_eq_ok_iff.mpr ⟨(n, rest), hnumber,
        bind_eq_ok_iff.mpr ⟨n, checkYear_eq (by omega) (by omega), rfl⟩⟩

theorem year_signed (hn : n < 1000000) (hc : ¬ c.isDigit) (rest : List Char) :
    year ('-' :: (padded 4 n).toList ++ c :: rest) = .ok (-(n : Int), c :: rest) ∧
      year ('+' :: (padded 4 n).toList ++ c :: rest) = .ok ((n : Int), c :: rest) := by
  have hnumber : number ((padded 4 n).toList ++ c :: rest).length
      ((padded 4 n).toList ++ c :: rest) = .ok (n, c :: rest) :=
    number_padded (lt_pow2_63 (by omega)) (by simp) (.inr ⟨c, rest, rfl, hc⟩)
  constructor
  · rw [List.cons_append, year, trimStart_cons (by decide)]
    exact bind_eq_ok_iff.mpr ⟨(n, c :: rest), hnumber,
      bind_eq_ok_iff.mpr ⟨-(n : Int), checkYear_eq (by omega) (by omega), rfl⟩⟩
  · rw [List.cons_append, year, trimStart_cons (by decide)]
    exact bind_eq_ok_iff.mpr ⟨(n, c :: rest), hnumber,
      bind_eq_ok_iff.mpr ⟨(n : Int), checkYear_eq (by omega) (by omega), rfl⟩⟩

theorem year_yearText {y : Int} (hlow : -1000000 < y) (hhigh : y < 1000000) (hc : ¬ c.isDigit)
    (rest : List Char) : year ((yearText y).toList ++ c :: rest) = .ok (y, c :: rest) := by
  obtain ⟨hminus, hplus⟩ := year_signed (n := y.natAbs) (by omega) hc rest
  unfold yearText
  split_ifs with hplain hneg
  · rw [year_padded (by omega), Int.toNat_of_nonneg hplain.1]
  · rw [Int.ofNat_natAbs_of_nonpos hneg.le, neg_neg] at hminus
    simpa using hminus
  · rw [Int.natAbs_of_nonneg (by omega)] at hplus
    simpa using hplus

theorem fraction_point (hwidth : 0 < width) (hle : width ≤ 9) (hn : n < 10 ^ width)
    (hc : ¬ c.isDigit) (rest : List Char) :
    fraction (("." ++ padded width n).toList ++ c :: rest) =
      .ok (n * pow10 (9 - width), c :: rest) := by
  have hlength := length_padded hwidth hn
  have hpow : 10 ^ width ≤ 10 ^ 9 := Nat.pow_le_pow_right (by decide) hle
  have hnumber : number 9 ((padded width n).toList ++ c :: rest) = .ok (n, c :: rest) :=
    number_padded (lt_pow2_63 (hn.trans_le hpow)) (by omega) (.inr ⟨c, rest, rfl, hc⟩)
  rw [String.toList_append, List.append_assoc]
  refine bind_eq_ok_iff.mpr ⟨(n, c :: rest), hnumber, ?_⟩
  simp [hlength, hc]

theorem fraction_fractionText (hn : n < 1000000000) (hc : ¬ c.isDigit) (hpoint : c ≠ '.')
    (rest : List Char) : fraction ((fractionText n).toList ++ c :: rest) = .ok (n, c :: rest) := by
  unfold fractionText
  split_ifs with hzero hmillis hmicros
  · subst hzero
    unfold fraction
    split
    next heq => exact absurd (List.cons.inj heq).1 hpoint
    next => rfl
  · have hscale : pow10 (9 - 3) = 1000000 := rfl
    rw [fraction_point (by decide) (by decide) (by omega) hc, hscale,
      Nat.div_mul_cancel (Nat.dvd_of_mod_eq_zero hmillis)]
  · have hscale : pow10 (9 - 6) = 1000 := rfl
    rw [fraction_point (by decide) (by decide) (by omega) hc, hscale,
      Nat.div_mul_cancel (Nat.dvd_of_mod_eq_zero hmicros)]
  · have hscale : pow10 (9 - 9) = 1 := rfl
    rw [fraction_point (by decide) (by decide) (by omega) hc, hscale, Nat.mul_one]

theorem literal_cons (hc : isBlank c = false) (rest : List Char) :
    literal c (c :: rest) = .ok ((), rest) := by
  simp [literal, trimStart_cons hc]

theorem separator_cons (rest : List Char) : separator ('T' :: rest) = .ok ((), rest) :=
  rfl

theorem offset_z : offset ['Z'] = .ok (0, []) := by
  simp [offset, lowerAscii]

theorem parse_parts {y : Int} {month day hour minute second nanos : Nat} {t : Moment}
    (hlow : -1000000 < y) (hhigh : y < 1000000) (hmonth : 1 ≤ month ∧ month ≤ 12)
    (hday : 1 ≤ day ∧ day ≤ 31) (hhour : hour ≤ 23) (hminute : minute ≤ 59)
    (hsecond : second ≤ 60) (hnanos : nanos < 1000000000)
    (hassemble : assemble ⟨y, month, day⟩ hour minute second nanos 0 = .ok t) :
    parse (yearText y ++ "-" ++ padded 2 month ++ "-" ++ padded 2 day ++ "T" ++
      padded 2 hour ++ ":" ++ padded 2 minute ++ ":" ++ padded 2 second ++
        fractionText nanos ++ "Z") = .ok t := by
  have hdash : "-".toList = ['-'] := rfl
  have hcolon : ":".toList = [':'] := rfl
  have hseparator : "T".toList = ['T'] := rfl
  have hzulu : "Z".toList = ['Z'] := rfl
  unfold parse
  simp only [String.toList_append, List.append_assoc, hdash, hcolon, hseparator, hzulu,
    List.cons_append, List.nil_append]
  refine bind_eq_ok_iff.mpr ⟨(y, _), year_yearText hlow hhigh (by decide) _, ?_⟩
  refine bind_eq_ok_iff.mpr ⟨((), _), literal_cons (by decide) _, ?_⟩
  refine bind_eq_ok_iff.mpr ⟨(month, _), field_padded hmonth.1 hmonth.2 (by omega) _, ?_⟩
  refine bind_eq_ok_iff.mpr ⟨((), _), literal_cons (by decide) _, ?_⟩
  refine bind_eq_ok_iff.mpr ⟨(day, _), field_padded hday.1 hday.2 (by omega) _, ?_⟩
  refine bind_eq_ok_iff.mpr ⟨((), _), separator_cons _, ?_⟩
  refine bind_eq_ok_iff.mpr ⟨(hour, _), field_padded (by omega) hhour (by omega) _, ?_⟩
  refine bind_eq_ok_iff.mpr ⟨((), _), literal_cons (by decide) _, ?_⟩
  refine bind_eq_ok_iff.mpr ⟨(minute, _), field_padded (by omega) hminute (by omega) _, ?_⟩
  refine bind_eq_ok_iff.mpr ⟨((), _), literal_cons (by decide) _, ?_⟩
  refine bind_eq_ok_iff.mpr ⟨(second, _), field_padded (by omega) hsecond (by omega) _, ?_⟩
  refine bind_eq_ok_iff.mpr
    ⟨(nanos, _), fraction_fractionText hnanos (by decide) (by decide) _, ?_⟩
  exact bind_eq_ok_iff.mpr ⟨(0, []), offset_z, hassemble⟩

theorem assemble_eq {date : Date} {hour minute second nanos : Nat} {instant : Int}
    (hdate : date.IsValid) (hyear : -262143 ≤ date.year ∧ date.year ≤ 262142)
    (hinstant : instant = (date.toDays * 86400 +
      (hour * 3600 + minute * 60 + (min second 59 : Nat) : Int)) * 1000000000)
    (hshown : Moment.Representable instant) :
    assemble date hour minute second nanos 0 =
      .ok (if second = 60 then ⟨instant + 1000000000 + nanos, true⟩
        else ⟨instant + nanos, false⟩) := by
  have hreached : ¬ (¬ date.IsValid ∨ date.year < -262143 ∨ 262142 < date.year) := by
    rintro (hinvalid | hearly | hlate)
    · exact hinvalid hdate
    all_goals omega
  rw [assemble, if_neg hreached, if_neg (by decide)]
  simp only [Int.sub_zero, ← hinstant, if_pos hshown]
  split <;> rfl

/-- What the clock shows of a second: hour, minute and second of the day, a leap second counting as
the one before it. -/
theorem clock_eq {seconds : Int} {leap : Bool} (hleap : leap → seconds % 60 = 59) :
    seconds = seconds / 86400 * 86400 +
      (((seconds % 86400).toNat / 3600 : Nat) * 3600 +
        ((seconds % 86400).toNat / 60 % 60 : Nat) * 60 +
        (min ((seconds % 86400).toNat % 60 + if leap then 1 else 0) 59 : Nat) : Int) := by
  cases leap with
  | false =>
      simp only [Bool.false_eq_true, if_false]
      omega
  | true =>
      have := hleap rfl
      simp only [if_true]
      omega

/-- A moment that the calendar shows is read back from its timestamp. -/
theorem parse_text {t : Moment} (h : t.Shown) : parse t.text = .ok t := by
  obtain ⟨nanos, leap⟩ := t
  obtain ⟨⟨hfirst, hlast⟩, hleap⟩ := h
  unfold Moment.text render
  dsimp only [Moment.shownNanos, Moment.firstNanos, Moment.lastNanos] at hfirst hlast hleap ⊢
  obtain ⟨count, hcount⟩ : ∃ count, count = if leap then nanos - 1000000000 else nanos := ⟨_, rfl⟩
  rw [← hcount] at hfirst hlast hleap ⊢
  obtain ⟨seconds, hseconds⟩ : ∃ seconds, seconds = count / 1000000000 := ⟨_, rfl⟩
  rw [← hseconds] at hleap ⊢
  have hyear : -262143 ≤ (Date.ofDays (seconds / 86400)).year ∧
      (Date.ofDays (seconds / 86400)).year ≤ 262142 :=
    Date.year_ofDays_mem (by omega) (by omega)
  have hvalid := Date.isValid_ofDays (seconds / 86400)
  have hshown : Moment.Representable (seconds * 1000000000) := by
    constructor
    · unfold Moment.firstNanos
      omega
    · unfold Moment.lastNanos
      omega
  refine parse_parts (by omega) (by omega) ⟨hvalid.1, hvalid.2.1⟩ ⟨hvalid.2.2.1, hvalid.day_le⟩
    (by omega) (by omega) (by split <;> omega) (by omega) ?_
  rw [assemble_eq hvalid hyear (by rw [Date.toDays_ofDays, ← clock_eq hleap]) hshown]
  cases leap with
  | false =>
      simp only [Bool.false_eq_true, if_false] at hcount ⊢
      rw [if_neg (by omega)]
      congr
      omega
  | true =>
      have := hleap rfl
      simp only [if_true] at hcount ⊢
      rw [if_pos (by omega)]
      congr
      omega

/-! ## What can be read -/

theorem number_lt (h : number atMost cs = .ok (n, rest)) :
    n < 10 ^ (cs.length - rest.length) ∧ cs.length - rest.length ≤ atMost := by
  unfold number at h
  dsimp only at h
  split_ifs at h with hempty hnone hlarge
  obtain ⟨rfl, rfl⟩ := Prod.mk.inj (Except.ok.inj h)
  have hdigits : ∀ c ∈ (cs.take atMost).takeWhile Char.isDigit, c.isDigit :=
    List.all_eq_true.mp List.all_takeWhile
  have hlength := (List.takeWhile_prefix (l := cs.take atMost) Char.isDigit).length_le
  rw [List.length_take] at hlength
  rw [List.length_drop, Nat.sub_sub_self (by omega)]
  exact ⟨decimalValue_lt hdigits, by omega⟩

theorem fraction_lt (h : fraction cs = .ok (n, rest)) : n < 1000000000 := by
  unfold fraction at h
  split at h
  next digits =>
    obtain ⟨⟨m, after⟩, hnumber, hscaled⟩ := bind_eq_ok_iff.mp h
    obtain ⟨hlt, hle⟩ := number_lt hnumber
    obtain ⟨rfl, -⟩ := Prod.mk.inj (Except.ok.inj hscaled)
    calc m * pow10 (9 - (digits.length - after.length))
        < 10 ^ (digits.length - after.length) * 10 ^ (9 - (digits.length - after.length)) :=
          Nat.mul_lt_mul_of_pos_right hlt (pow10_pos _)
      _ = 1000000000 := by rw [← Nat.pow_add, Nat.add_sub_cancel' hle]
  next =>
    obtain ⟨rfl, -⟩ := Prod.mk.inj (Except.ok.inj h)
    decide

/-- Offsets are whole minutes. -/
theorem offset_mod {seconds : Int} (h : offset cs = .ok (seconds, rest)) : seconds % 60 = 0 := by
  unfold offset at h
  split at h
  next => contradiction
  split at h
  next =>
    obtain ⟨rfl, -⟩ := Prod.mk.inj (Except.ok.inj h)
    rfl
  split at h
  next =>
    obtain ⟨rfl, -⟩ := Prod.mk.inj (Except.ok.inj h)
    rfl
  split at h
  next =>
    obtain ⟨⟨⟨h1, h2⟩, after⟩, -, h⟩ := bind_eq_ok_iff.mp h
    obtain ⟨⟨⟨m1, m2⟩, last⟩, -, h⟩ := bind_eq_ok_iff.mp h
    dsimp only at h
    split at h
    next => contradiction
    next =>
      obtain ⟨rfl, -⟩ := Prod.mk.inj (Except.ok.inj h)
      split <;> omega
  next => contradiction

theorem shown_of_assemble {date : Date} {hour minute second nanos : Nat} {offset : Int}
    {t : Moment} (hnanos : nanos < 1000000000) (hoffset : offset % 60 = 0)
    (h : assemble date hour minute second nanos offset = .ok t) : t.Shown := by
  unfold assemble at h
  dsimp only at h
  split_ifs at h with hdate hday hinstant hsecond
  · obtain rfl := Except.ok.inj h
    simp only [Moment.Shown, Moment.shownNanos, if_true, Moment.Representable,
      Moment.firstNanos, Moment.lastNanos] at hinstant ⊢
    omega
  · obtain rfl := Except.ok.inj h
    simp only [Moment.Shown, Moment.shownNanos, Bool.false_eq_true, if_false, false_imp_iff,
      and_true, Moment.Representable, Moment.firstNanos, Moment.lastNanos] at hinstant ⊢
    omega

theorem shown_of_parse {s : String} {t : Moment} (h : parse s = .ok t) : t.Shown := by
  unfold parse at h
  obtain ⟨⟨year, cs⟩, -, h⟩ := bind_eq_ok_iff.mp h
  obtain ⟨⟨_, cs⟩, -, h⟩ := bind_eq_ok_iff.mp h
  obtain ⟨⟨month, cs⟩, -, h⟩ := bind_eq_ok_iff.mp h
  obtain ⟨⟨_, cs⟩, -, h⟩ := bind_eq_ok_iff.mp h
  obtain ⟨⟨day, cs⟩, -, h⟩ := bind_eq_ok_iff.mp h
  obtain ⟨⟨_, cs⟩, -, h⟩ := bind_eq_ok_iff.mp h
  obtain ⟨⟨hour, cs⟩, -, h⟩ := bind_eq_ok_iff.mp h
  obtain ⟨⟨_, cs⟩, -, h⟩ := bind_eq_ok_iff.mp h
  obtain ⟨⟨minute, cs⟩, -, h⟩ := bind_eq_ok_iff.mp h
  obtain ⟨⟨_, cs⟩, -, h⟩ := bind_eq_ok_iff.mp h
  obtain ⟨⟨second, cs⟩, -, h⟩ := bind_eq_ok_iff.mp h
  obtain ⟨⟨nanos, cs⟩, hfraction, h⟩ := bind_eq_ok_iff.mp h
  obtain ⟨⟨seconds, cs⟩, hoffset, h⟩ := bind_eq_ok_iff.mp h
  dsimp only at h
  split_ifs at h
  exact shown_of_assemble (fraction_lt hfraction) (offset_mod hoffset) h

/-- The moments that can be read are those that the calendar shows. -/
theorem shown_iff {t : Moment} : t.Shown ↔ ∃ s, parse s = .ok t :=
  ⟨fun h => ⟨t.text, parse_text h⟩, fun ⟨_, h⟩ => shown_of_parse h⟩

end Timestamp

end Gatehouse
