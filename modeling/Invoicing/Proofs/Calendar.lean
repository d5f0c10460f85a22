import Invoicing.Lifecycle
import Mathlib.Tactic.IntervalCases
import Mathlib.Tactic.SplitIfs
import Mathlib.Data.List.TakeWhile

/-!
# Days and their texts

`Date.ofDays` turns a day number back into the day that `Date.toDays` numbers
(`toDays_ofDays`), and the day it gives exists whenever its year is one the calendar supports
(`ofDays_isValid`). The text of an existing day reads back as that day (`parse?_text`,
`parseDate_text`), also with blanks around it, since a date is trimmed before it is read
(`trimBlanks_pad`, `parseDate_padded_text`).

The day number is split the way the algorithm splits it: into a 400-year era and a day of the
era, then into a year of the era counted from March and a day of that year
(`yearOfEra_spec`). The last day of the era and the last day of a four-year cycle whose last
year no century ends are the only 366th days of a year, so the 29th of February falls in leap
years only.
-/

namespace Invoicing

namespace Date


theorem yearOfEra_spec {doe yoe doy : Int} (h0 : 0 ≤ doe) (h1 : doe < 146097)
    (hyoe : yoe = (doe - doe / 1460 + doe / 36524 - doe / 146096) / 365)
    (hdoy : doy = doe - (365 * yoe + yoe / 4 - yoe / 100)) :
    0 ≤ yoe ∧ yoe ≤ 399 ∧ 0 ≤ doy ∧ doy ≤ 365 ∧
      (doy = 365 → (4 ∣ yoe + 1 ∧ ¬ 100 ∣ yoe + 1) ∨ 400 ∣ yoe + 1) := by
  by_cases hlast : doe = 146096
  · -- the last day of the era is the 29th of February of a year divisible by 400
    subst hlast
    have hy : yoe = 399 := by rw [hyoe]; norm_num
    subst hy
    refine ⟨by omega, by omega, by omega, by omega, fun _ => .inr (by norm_num)⟩
  -- a century of the era, a four-year cycle of the century and a day of the cycle
  obtain ⟨D, R, hdoe, hR0, hR1, hD0, hD1⟩ :
      ∃ D R, doe = 36524 * D + R ∧ 0 ≤ R ∧ R < 36524 ∧ 0 ≤ D ∧ D ≤ 3 :=
    ⟨doe / 36524, doe % 36524, by omega, by omega, by omega, by omega, by omega⟩
  obtain ⟨Q, S, hR, hS0, hS1, hQ0, hQ1⟩ :
      ∃ Q S, R = 1461 * Q + S ∧ 0 ≤ S ∧ S < 1461 ∧ 0 ≤ Q ∧ Q ≤ 24 :=
    ⟨R / 1461, R % 1461, by omega, by omega, by omega, by omega, by omega⟩
  have hlastQ : Q = 24 → S < 1460 := by omega
  subst hdoe hR
  clear hR0 hR1 hlast h0 h1
  -- the divisor 1460 counts a cycle's leap day at most one day early
  obtain ⟨T, hT0, hT1, hT⟩ : ∃ T, 0 ≤ T ∧ T ≤ 1 ∧ 1460 * T ≤ 24 * D + Q + S ∧
      24 * D + Q + S < 1460 * (T + 1) :=
    ⟨(24 * D + Q + S) / 1460, by omega, by omega, by omega, by omega⟩
  have h1460 : (36524 * D + (1461 * Q + S)) / 1460 = 25 * D + Q + T := by omega
  have h36524 : (36524 * D + (1461 * Q + S)) / 36524 = D := by omega
  have h146096 : (36524 * D + (1461 * Q + S)) / 146096 = 0 := by omega
  rw [h1460, h36524, h146096] at hyoe
  -- the year of the cycle
  obtain ⟨u, hu0, hu3, hu⟩ :
      ∃ u, 0 ≤ u ∧ u ≤ 3 ∧ 365 * u ≤ S - T ∧ S - T < 365 * (u + 1) :=
    ⟨(S - T) / 365, by omega, by omega, by omega, by omega⟩
  have hy : yoe = 100 * D + 4 * Q + u := by omega
  subst hy
  have h4 : (100 * D + 4 * Q + u) / 4 = 25 * D + Q := by omega
  have h100 : (100 * D + 4 * Q + u) / 100 = D := by omega
  rw [h4, h100] at hdoy
  have hdoy' : doy = S - 365 * u := by omega
  subst hdoy'
  refine ⟨by omega, by omega, by omega, by omega, fun h365 => .inl ?_⟩
  -- day 365 is the last day of a cycle: the year before a leap year that no century ends
  obtain ⟨rfl, rfl⟩ : S = 1460 ∧ u = 3 := by omega
  have hQ : Q < 24 := by omega
  constructor <;> omega


/-- `ofDays z` through the quantities its algorithm computes: the era, the year and the day of
the era's year counted from March, and the month counted from March. -/
theorem ofDays_eq (z : Int) : ∃ era yoe doy mp : Int,
    0 ≤ yoe ∧ yoe ≤ 399 ∧ 0 ≤ doy ∧ doy ≤ 365 ∧
    (doy = 365 → (4 ∣ yoe + 1 ∧ ¬ 100 ∣ yoe + 1) ∨ 400 ∣ yoe + 1) ∧
    z + 719468 = era * 146097 + (365 * yoe + yoe / 4 - yoe / 100 + doy) ∧
    mp = (5 * doy + 2) / 153 ∧
    ofDays z =
      ⟨if (if mp < 10 then mp + 3 else mp - 9) ≤ 2 then yoe + era * 400 + 1
        else yoe + era * 400,
        (if mp < 10 then mp + 3 else mp - 9).toNat, (doy - (153 * mp + 2) / 5 + 1).toNat⟩ := by
  have h0 : 0 ≤ z + 719468 - (z + 719468) / 146097 * 146097 := by omega
  have h1 : z + 719468 - (z + 719468) / 146097 * 146097 < 146097 := by omega
  obtain ⟨hy0, hy1, hd0, hd1, hleap⟩ := yearOfEra_spec h0 h1 rfl rfl
  exact ⟨_, _, _, _, hy0, hy1, hd0, hd1, hleap, by omega, rfl, rfl⟩

theorem toDays_ofDays (z : Int) : (ofDays z).toDays = z := by
  obtain ⟨era, yoe, doy, mp, hy0, hy1, hd0, hd1, -, hz, hmp, heq⟩ := ofDays_eq z
  rw [heq]
  have hmp0 : 0 ≤ mp ∧ mp ≤ 11 := by omega
  have hstart : (153 * mp + 2) / 5 ≤ doy := by omega
  have hera : (yoe + era * 400) / 400 = era := by omega
  have hera1 : (yoe + era * 400 + 1 - 1) / 400 = era := by omega
  have hday : (((doy - (153 * mp + 2) / 5 + 1).toNat : Nat) : Int) =
      doy - (153 * mp + 2) / 5 + 1 := by
    omega
  by_cases hm : mp < 10
  · -- March to December: the year as it is
    have hmonth : (((mp + 3).toNat + 9) % 12 : Nat) = mp.toNat := by omega
    have hle : ¬ (mp + 3).toNat ≤ 2 := by omega
    simp only [hm, if_true, show ¬ mp + 3 ≤ 2 by omega, if_false, toDays, hle, hmonth, hera,
      hday]
    omega
  · -- January and February: counted with the year before
    have hmonth : (((mp - 9).toNat + 9) % 12 : Nat) = mp.toNat := by omega
    have hle : (mp - 9).toNat ≤ 2 := by omega
    simp only [hm, if_false, show mp - 9 ≤ 2 by omega, if_true, toDays, hle, hmonth, hera1, hday]
    omega


/-- A year before a leap year, moved by whole 400-year eras, is still before a leap year. -/
theorem isLeapYear_add_era {y era : Int}
    (h : (4 ∣ y ∧ ¬ 100 ∣ y) ∨ 400 ∣ y) : isLeapYear (y + era * 400) = true := by
  rw [isLeapYear_iff]
  omega

/-- Every day number gives an existing day, once its year is one the calendar supports. -/
theorem ofDays_isValid (z : Int) (hlo : minYear ≤ (ofDays z).year)
    (hhi : (ofDays z).year ≤ maxYear) : (ofDays z).isValid = true := by
  obtain ⟨era, yoe, doy, mp, hy0, hy1, hd0, hd1, hleap, hz, hmp, heq⟩ := ofDays_eq z
  rw [heq] at hlo hhi ⊢
  have hmp0 : 0 ≤ mp ∧ mp ≤ 11 := by omega
  have hstart : (153 * mp + 2) / 5 ≤ doy := by omega
  simp only [isValid, Bool.and_eq_true, decide_eq_true_eq]
  have hmonth0 : 1 ≤ (if mp < 10 then mp + 3 else mp - 9).toNat := by split_ifs <;> omega
  have hmonth1 : (if mp < 10 then mp + 3 else mp - 9).toNat ≤ 12 := by split_ifs <;> omega
  refine ⟨⟨⟨⟨⟨hlo, hhi⟩, hmonth0⟩, hmonth1⟩, by omega⟩, ?_⟩
  -- the day fits its month: one case per month, February by the leap day
  by_cases hm : mp < 10
  · simp only [hm, if_true, show ¬ mp + 3 ≤ 2 by omega, if_false]
    obtain ⟨hmp0, hmp1⟩ := hmp0
    interval_cases mp <;> simp [daysInMonth] <;> omega
  · simp only [hm, if_false, show mp - 9 ≤ 2 by omega, if_true]
    have hcases : mp = 10 ∨ mp = 11 := by omega
    rcases hcases with rfl | rfl
    · simp [daysInMonth]
      omega
    · by_cases h365 : doy = 365
      · have hl : isLeapYear (yoe + era * 400 + 1) = true := by
          rw [add_right_comm]
          exact isLeapYear_add_era (hleap h365)
        norm_num [daysInMonth, hl]
        omega
      · simp only [daysInMonth]
        split_ifs <;> omega


/-! ## Reading a date's text back -/

theorem padded_toList (w n : Nat) :
    (padded w n).toList =
      List.replicate (w - (Nat.toDigits 10 n).length) '0' ++ Nat.toDigits 10 n := by
  simp [padded]

theorem isDigit_of_mem_padded {w n : Nat} {c : Char} (hc : c ∈ (padded w n).toList) :
    c.isDigit = true := by
  rw [padded_toList, List.mem_append] at hc
  rcases hc with hc | hc
  · rw [List.eq_of_mem_replicate hc]
    decide
  · exact Nat.isDigit_of_mem_toDigits (by decide) (by decide) hc

theorem length_padded {w n : Nat} (hw : 0 < w) (hn : n < 10 ^ w) :
    (padded w n).toList.length = w := by
  have hlen := (Nat.length_toDigits_le_iff (by decide) hw).mpr hn
  rw [padded_toList, List.length_append, List.length_replicate]
  omega

theorem exists_cons_padded (w n : Nat) : ∃ c cs, (padded w n).toList = c :: cs :=
  List.exists_cons_of_length_pos (by simp [padded_toList, Nat.length_toDigits_pos])

theorem four_le_length_padded (n : Nat) : 4 ≤ (padded 4 n).toList.length := by
  rw [padded_toList, List.length_append, List.length_replicate]
  omega

/-- Reading digits adds them up as decimal digits. -/
theorem foldl_digits (ds : List Char) :
    ds.foldl (fun acc c => acc * 10 + (c.toNat - 48)) 0 = Nat.ofDigitChars 10 ds 0 := by
  rw [Nat.ofDigitChars_eq_foldl]
  congr 1
  funext acc c
  simp [Nat.mul_comm]

theorem ofDigitChars_padded (w n : Nat) : Nat.ofDigitChars 10 (padded w n).toList 0 = n := by
  rw [padded_toList, Nat.ofDigitChars_append, Nat.ofDigitChars_replicate_zero, Nat.mul_zero,
    Nat.ofDigitChars_ten_toDigits]

/-- Digits followed by a character that is not a digit are read as a number, within the bounds
on their count. -/
theorem scanDigits_of_digits (lo hi : Nat) {ds rest : List Char}
    (hd : ∀ c ∈ ds, c.isDigit = true) (hr : ∀ c ∈ rest.head?, c.isDigit = false)
    (hlo : lo ≤ ds.length) (hhi : ds.length ≤ hi) :
    scanDigits lo hi (ds ++ rest) = some (Nat.ofDigitChars 10 ds 0, rest) := by
  have htake : (ds ++ rest).takeWhile Char.isDigit = ds := by
    rw [List.takeWhile_append_of_pos hd]
    cases rest with
    | nil => simp
    | cons c rest => simp [hr c rfl]
  simp only [scanDigits, htake, List.take_of_length_le hhi, show ¬ ds.length < lo by omega,
    if_false, foldl_digits, List.drop_left]


/-- A padded number followed by a character that is not a digit reads back as the number. -/
theorem scanDigits_padded (lo hi : Nat) {w n : Nat} {rest : List Char}
    (hr : ∀ c ∈ rest.head?, c.isDigit = false) (hlo : lo ≤ (padded w n).toList.length)
    (hhi : (padded w n).toList.length ≤ hi) :
    scanDigits lo hi ((padded w n).toList ++ rest) = some (n, rest) := by
  rw [scanDigits_of_digits lo hi (fun _ => isDigit_of_mem_padded) hr hlo hhi, ofDigitChars_padded]

/-- A digit is no blank. -/
theorem isBlank_of_isDigit {c : Char} (h : c.isDigit = true) : isBlank c = false := by
  simp only [Char.isDigit, Bool.and_eq_true, decide_eq_true_eq, UInt32.le_iff_toNat_le] at h
  simp only [isBlank, Bool.or_eq_false_iff, Bool.and_eq_false_iff, decide_eq_false_iff_not]
  have h1 : 48 ≤ c.toNat := h.1
  have h2 : c.toNat ≤ 57 := h.2
  omega

/-- A text that starts with a character that is no blank loses nothing to `dropBlanks`. -/
theorem dropBlanks_of_head {c : Char} {cs : List Char} (h : isBlank c = false) :
    dropBlanks (c :: cs) = c :: cs := by
  simp [dropBlanks, h]

theorem scanTwo_padded {n : Nat} (hn : n < 100) (rest : List Char)
    (hr : ∀ c ∈ rest.head?, c.isDigit = false) :
    scanTwo ((padded 2 n).toList ++ rest) = some (n, rest) := by
  have hlen := length_padded (by decide)
    (show n < 10 ^ 2 by rw [show (10 : Nat) ^ 2 = 100 by rfl]; omega)
  obtain ⟨c, ds, hcs⟩ := exists_cons_padded 2 n
  have hc : c.isDigit = true := isDigit_of_mem_padded (by rw [hcs]; exact List.mem_cons_self)
  rw [scanTwo, hcs, List.cons_append, dropBlanks_of_head (isBlank_of_isDigit hc),
    ← List.cons_append,
    ← hcs, scanDigits_padded 1 2 hr (by omega) (by omega)]

theorem scanYear_yearText (y : Int) (rest : List Char)
    (hr : ∀ c ∈ rest.head?, c.isDigit = false) :
    scanYear ((yearText y).toList ++ rest) = some (y, rest) := by
  unfold yearText
  split_ifs with hy hneg
  · -- four digits
    have hlen := length_padded (by decide)
      (show y.toNat < 10 ^ 4 by rw [show (10 : Nat) ^ 4 = 10000 by rfl]; omega)
    obtain ⟨c, ds, hcs⟩ := exists_cons_padded 4 y.toNat
    have hc : c.isDigit = true := isDigit_of_mem_padded (by rw [hcs]; exact List.mem_cons_self)
    have hscan : scanDigits 1 4 ((padded 4 y.toNat).toList ++ rest) = some (y.toNat, rest) :=
      scanDigits_padded 1 4 hr (by omega) (by omega)
    unfold scanYear
    rw [hcs, List.cons_append, dropBlanks_of_head (isBlank_of_isDigit hc)]
    split
    · rename_i heq
      simp only [List.cons.injEq] at heq
      rw [heq.1] at hc
      exact absurd hc (by decide)
    · rename_i heq
      simp only [List.cons.injEq] at heq
      rw [heq.1] at hc
      exact absurd hc (by decide)
    · rw [← List.cons_append, ← hcs, hscan]
      simp only [Option.map_some, Option.some.injEq, Prod.mk.injEq, and_true]
      omega
  · -- a minus sign and the digits of the magnitude
    have hscan : scanDigits 1 ((padded 4 y.natAbs).toList ++ rest).length
        ((padded 4 y.natAbs).toList ++ rest) = some (y.natAbs, rest) :=
      scanDigits_padded 1 _ hr (by have := four_le_length_padded y.natAbs; omega) (by simp)
    have hlist : (("-" ++ padded 4 y.natAbs).toList ++ rest) =
        '-' :: ((padded 4 y.natAbs).toList ++ rest) := by simp
    rw [hlist, scanYear, dropBlanks_of_head (by decide)]
    simp only [hscan, Option.map_some, Option.some.injEq, Prod.mk.injEq, and_true]
    omega
  · -- a plus sign and the digits
    have hscan : scanDigits 1 ((padded 4 y.natAbs).toList ++ rest).length
        ((padded 4 y.natAbs).toList ++ rest) = some (y.natAbs, rest) :=
      scanDigits_padded 1 _ hr (by have := four_le_length_padded y.natAbs; omega) (by simp)
    have hlist : (("+" ++ padded 4 y.natAbs).toList ++ rest) =
        '+' :: ((padded 4 y.natAbs).toList ++ rest) := by simp
    rw [hlist, scanYear, dropBlanks_of_head (by decide)]
    simp only [hscan, Option.map_some, Option.some.injEq, Prod.mk.injEq, and_true]
    omega


/-- The text of an existing day reads back as that day. -/
theorem parse?_text {d : Date} (hv : d.isValid = true) : parse? d.text = some d := by
  have hv' := hv
  simp only [isValid, Bool.and_eq_true, decide_eq_true_eq] at hv'
  have hdays : daysInMonth d.year d.month ≤ 31 := by
    simp only [daysInMonth]
    split_ifs <;> omega
  have htext : d.text.toList = (yearText d.year).toList ++
      '-' :: ((padded 2 d.month).toList ++ '-' :: ((padded 2 d.day).toList ++ [])) := by
    have hdash : "-".toList = ['-'] := rfl
    simp only [text, String.toList_append, List.append_assoc, List.append_nil, hdash,
      List.cons_append, List.nil_append]
  have hyear := scanYear_yearText d.year
    ('-' :: ((padded 2 d.month).toList ++ '-' :: ((padded 2 d.day).toList ++ []))) (by simp)
  have hmonth := scanTwo_padded (show d.month < 100 by omega)
    ('-' :: ((padded 2 d.day).toList ++ [])) (by simp)
  have hday := scanTwo_padded (show d.day < 100 by omega) [] (by simp)
  simp only [parse?, htext, hyear, bind, Option.bind, hmonth, hday, List.isEmpty_nil, if_true,
    make?, hv]


theorem dropBlanks_of_head? {cs : List Char} (h : ∀ c ∈ cs.head?, isBlank c = false) :
    dropBlanks cs = cs := by
  cases cs with
  | nil => rfl
  | cons c cs => exact dropBlanks_of_head (h c rfl)

/-- A text that neither starts nor ends with a blank is its own trimmed form. -/
theorem trimBlanks_of_ends {s : String} (hhead : ∀ c ∈ s.toList.head?, isBlank c = false)
    (hlast : ∀ c ∈ s.toList.getLast?, isBlank c = false) : trimBlanks s = s := by
  have hrev : ∀ c ∈ s.toList.reverse.head?, isBlank c = false := by
    rw [List.head?_reverse]
    exact hlast
  rw [trimBlanks, dropBlanks_of_head? hhead, dropBlanks_of_head? hrev, List.reverse_reverse,
    String.ofList_toList]

theorem trimBlanks_text (d : Date) : trimBlanks d.text = d.text := by
  obtain ⟨c, cs, hcs⟩ := exists_cons_padded 2 d.day
  apply trimBlanks_of_ends
  · -- a year starts with a digit or a sign
    simp only [text, yearText, String.toList_append]
    split_ifs
    · obtain ⟨y, ys, hys⟩ := exists_cons_padded 4 d.year.toNat
      have hy : y.isDigit = true := isDigit_of_mem_padded (by rw [hys]; exact List.mem_cons_self)
      simp [hys, isBlank_of_isDigit hy]
    · simp [isBlank]
    · simp [isBlank]
  · -- the text ends with the last digit of the day
    intro x hx
    simp only [text, String.toList_append, List.getLast?_append] at hx
    have hd : ∀ y ∈ (padded 2 d.day).toList.getLast?, isBlank y = false := fun y hy =>
      isBlank_of_isDigit (isDigit_of_mem_padded (List.mem_of_getLast? hy))
    rw [hcs] at hx hd
    simp only [List.getLast?_cons, Option.some_or] at hx hd
    exact hd x hx

theorem parseDate_text (field : String) {d : Date} (hv : d.isValid = true) :
    parseDate field d.text = .ok d := by
  simp only [parseDate, trimBlanks_text, parse?_text hv]

/-- Blanks in front are dropped whatever follows them. -/
theorem dropBlanks_blanks_append {w : List Char} (hw : ∀ c ∈ w, isBlank c = true)
    (cs : List Char) : dropBlanks (w ++ cs) = dropBlanks cs := by
  have hnil : w.dropWhile isBlank = [] := List.dropWhile_eq_nil_iff.mpr hw
  rw [dropBlanks, List.dropWhile_append, hnil]
  rfl

/-- Blanks around a text do not change its trimmed form. -/
theorem trimBlanks_pad {w₁ w₂ : String} (h₁ : ∀ c ∈ w₁.toList, isBlank c = true)
    (h₂ : ∀ c ∈ w₂.toList, isBlank c = true) (s : String) :
    trimBlanks (w₁ ++ s ++ w₂) = trimBlanks s := by
  have h₂' : ∀ c ∈ w₂.toList.reverse, isBlank c = true := fun c hc => h₂ c (List.mem_reverse.mp hc)
  -- the blanks in front go first; those behind go with the text's own trailing blanks
  have hback : dropBlanks (dropBlanks (s.toList ++ w₂.toList)).reverse =
      dropBlanks (dropBlanks s.toList).reverse := by
    have hsplit : dropBlanks (s.toList ++ w₂.toList) =
        if (dropBlanks s.toList).isEmpty then dropBlanks w₂.toList
        else dropBlanks s.toList ++ w₂.toList := List.dropWhile_append
    rw [hsplit]
    split
    · rename_i hempty
      have hw : dropBlanks w₂.toList = [] := List.dropWhile_eq_nil_iff.mpr h₂
      rw [List.isEmpty_iff.mp hempty, hw]
    · rw [List.reverse_append, dropBlanks_blanks_append h₂']
  rw [trimBlanks, trimBlanks, String.toList_append, String.toList_append, List.append_assoc,
    dropBlanks_blanks_append h₁, hback]

/-- What is left after dropping blanks in front starts with no blank. -/
theorem dropBlanks_head? (cs : List Char) : ∀ c ∈ (dropBlanks cs).head?, isBlank c = false := by
  intro c hc
  have h := List.head?_dropWhile_not isBlank cs
  rw [← dropBlanks, Option.mem_def.mp hc] at h
  exact h

/-- Trimming a trimmed text changes nothing: it neither starts nor ends with a blank. -/
theorem trimBlanks_trimBlanks (s : String) : trimBlanks (trimBlanks s) = trimBlanks s := by
  have hlist : (trimBlanks s).toList = (dropBlanks (dropBlanks s.toList).reverse).reverse := by
    rw [trimBlanks, String.toList_ofList]
  apply trimBlanks_of_ends
  · -- its first character is the last one kept from the back, the text's first non-blank
    rw [hlist, List.head?_reverse]
    intro c hc
    have hsplit : ((dropBlanks s.toList).reverse.takeWhile isBlank ++
        dropBlanks (dropBlanks s.toList).reverse) = (dropBlanks s.toList).reverse :=
      List.takeWhile_append_dropWhile
    have hlast : (dropBlanks s.toList).reverse.getLast? = some c := by
      rw [← hsplit, List.getLast?_append, Option.mem_def.mp hc]
      rfl
    rw [List.getLast?_reverse] at hlast
    exact dropBlanks_head? _ c hlast
  · rw [hlist, List.getLast?_reverse]
    exact dropBlanks_head? _

/-- The text of an existing day, with blanks around it, reads back as that day. -/
theorem parseDate_padded_text (field : String) {d : Date} (hv : d.isValid = true)
    {w₁ w₂ : String} (h₁ : ∀ c ∈ w₁.toList, isBlank c = true)
    (h₂ : ∀ c ∈ w₂.toList, isBlank c = true) :
    parseDate field (w₁ ++ d.text ++ w₂) = .ok d := by
  simp only [parseDate, trimBlanks_pad h₁ h₂, trimBlanks_text, parse?_text hv]

end Date

end Invoicing
