/-
Instants that are written and read back. The calendar counts the day that a date was found for (`civilOfDays_spec`), and
digits read as the number that they write. Main statement: what a written instant reads back as, if it can be read, is
written alike (`text_of_ofChars`).
-/
import HubSearch.Proofs.Json.Text
import HubSearch.Timestamp

namespace HubSearch.Timestamp

/-! ## The calendar -/

/-- The year and the day of the year of a day, counted in an era of 400 years. -/
theorem yearOfEra_bounds {day year : Int} (h0 : 0 ≤ day) (h1 : day ≤ 146096)
    (hyear : year = (day - day / 1460 + day / 36524 - day / 146096) / 365) :
    0 ≤ year ∧ year ≤ 399 ∧ 0 ≤ day - (365 * year + year / 4 - year / 100) ∧
      day - (365 * year + year / 4 - year / 100) ≤ 365 := by
  have hbounds : 0 ≤ year ∧ year ≤ 399 := by omega
  -- century by century the numbers of leap days are linear
  have hcentury : day / 36524 = 0 ∨ day / 36524 = 1 ∨ day / 36524 = 2 ∨ day / 36524 = 3 ∨ day / 36524 = 4 := by omega
  have hyears : year / 100 = 0 ∨ year / 100 = 1 ∨ year / 100 = 2 ∨ year / 100 = 3 := by omega
  have hlast : day / 146096 = 0 ∨ day = 146096 := by omega
  refine ⟨hbounds.1, hbounds.2, ?_⟩
  rcases hcentury with h | h | h | h | h <;> rcases hyears with hy | hy | hy | hy <;> rcases hlast with hl | hl <;>
    rw [h] at hyear <;> rw [hy] <;> omega

/-- The month and the day of a day of a year that begins in March. -/
theorem monthFromMarch_bounds {day month : Int} (h0 : 0 ≤ day) (h1 : day ≤ 365) (hmonth : month = (5 * day + 2) / 153) :
    0 ≤ month ∧ month ≤ 11 ∧ 0 ≤ day - (153 * month + 2) / 5 ∧ day - (153 * month + 2) / 5 ≤ 30 := by
  omega

/-- What `civilOfDays` finds: a month, a day of it, and the day that the calendar counts from them. -/
theorem civilOfDays_spec (days : Int) : ∃ year month day, civilOfDays days = (year, month, day) ∧
    (1 ≤ month ∧ month ≤ 12) ∧ (1 ≤ day ∧ day ≤ 31) ∧ daysOfCivil year month day = days := by
  refine ⟨_, _, _, rfl, ?_⟩
  simp only [daysOfCivil]
  generalize hera : (days + 719468).fdiv 146097 = era
  rw [Int.fdiv_eq_ediv_of_nonneg _ (by decide)] at hera
  generalize hdayOfEra : days + 719468 - era * 146097 = dayOfEra
  obtain ⟨hd0, hd1⟩ : 0 ≤ dayOfEra ∧ dayOfEra ≤ 146096 := by omega
  generalize hyear : (dayOfEra - dayOfEra / 1460 + dayOfEra / 36524 - dayOfEra / 146096) / 365 = year
  obtain ⟨hy0, hy1, hn0, hn1⟩ := yearOfEra_bounds hd0 hd1 hyear.symm
  generalize hdayOfYear : dayOfEra - (365 * year + year / 4 - year / 100) = dayOfYear at hn0 hn1 ⊢
  generalize hmonth : (5 * dayOfYear + 2) / 153 = month
  obtain ⟨hm0, hm1, hf0, hf1⟩ := monthFromMarch_bounds hn0 hn1 hmonth.symm
  generalize hcivil : (if month < 10 then month + 3 else month - 9).toNat = civilMonth
  have hcivilMonth : (1 ≤ civilMonth ∧ civilMonth ≤ 12) ∧ ((civilMonth : Int) + 9) % 12 = month := by
    split at hcivil <;> omega
  refine ⟨hcivilMonth.1, by omega, ?_⟩
  have hyears : (if civilMonth ≤ 2 then year + era * 400 + (if civilMonth ≤ 2 then 1 else 0) - 1
      else year + era * 400 + if civilMonth ≤ 2 then 1 else 0) = year + era * 400 := by
    split <;> omega
  rw [hyears, Int.fdiv_eq_ediv_of_nonneg _ (by decide), show (year + era * 400) / 400 = era by omega,
    Int.add_sub_cancel, hcivilMonth.2]
  omega

/-! ## Digits -/

theorem digitsValue_eq (ds : List Char) : digitsValue ds = Nat.ofDigitChars 10 ds 0 := by
  unfold digitsValue Nat.ofDigitChars
  congr 1
  funext n d
  rw [Nat.mul_comm]

theorem digitsValue_padded (zeros n : Nat) : digitsValue (List.replicate zeros '0' ++ Nat.toDigits 10 n) = n := by
  have hzeros : digitsValue (List.replicate zeros '0') = 0 := by
    induction zeros with
    | zero => rfl
    | succ zeros ih => exact ih
  rw [digitsValue, List.foldl_append, ← digitsValue, hzeros, ← digitsValue, digitsValue_eq,
    Nat.ofDigitChars_ten_toDigits]

theorem not_isBlank_of_isDigit {c : Char} (h : c.isDigit = true) : isBlank c = false := by
  simp only [Char.isDigit, Bool.and_eq_true, decide_eq_true_eq] at h
  have h0 : 48 ≤ c.toNat := h.1
  have h1 : c.toNat ≤ 57 := h.2
  simp only [isBlank, blankRanges, List.any_cons, List.any_nil, Bool.or_eq_false_iff, Bool.and_eq_false_iff,
    decide_eq_false_iff_not, Nat.not_le, and_true]
  omega

theorem trimStart_cons {c : Char} (h : isBlank c = false) (rest : List Char) : trimStart (c :: rest) = c :: rest := by
  rw [trimStart, List.dropWhile_cons, h]
  rfl

theorem trimStart_digits {ds rest : List Char} (hne : ds ≠ []) (hd : ∀ c ∈ ds, c.isDigit = true) :
    trimStart (ds ++ rest) = ds ++ rest := by
  cases ds with
  | nil => exact absurd rfl hne
  | cons d ds => exact trimStart_cons (not_isBlank_of_isDigit (hd d List.mem_cons_self)) _

/-- Digits are cut off as the number that they write. -/
theorem number_append {most : Nat} {ds rest : List Char} (hne : ds ≠ []) (hd : ∀ c ∈ ds, c.isDigit = true)
    (hlength : ds.length = most ∨ ds.length ≤ most ∧ EndsDigits rest) :
    number most (ds ++ rest) = .ok (digitsValue ds, rest) := by
  have hcut : ((ds ++ rest).take most).takeWhile Char.isDigit = ds := by
    rcases hlength with rfl | ⟨hle, hrest⟩
    · rw [List.take_left]
      have h := takeWhile_digits (r := []) hd fun c hc => nomatch hc
      rwa [List.append_nil] at h
    · rw [List.take_append, List.take_of_length_le hle]
      refine takeWhile_digits hd fun c hc => hrest c ?_
      cases hn : most - ds.length with
      | zero =>
        rw [hn] at hc
        cases hc
      | succ n =>
        rw [hn] at hc
        cases rest with
        | nil => cases hc
        | cons => exact hc
  rw [number, hcut]
  cases ds with
  | nil => exact absurd rfl hne
  | cons d ds =>
    show Except.ok (_, ((d :: ds) ++ rest).drop (d :: ds).length) = _
    rw [List.drop_left]

theorem digit_spec : ∀ d < 10, (Char.ofNat ('0'.toNat + d)).toNat - '0'.toNat = d ∧
    (Char.ofNat ('0'.toNat + d)).isDigit = true := by
  decide

theorem twoDigits_spec {n : Nat} (hn : n < 100) :
    digitsValue (twoDigits n) = n ∧ ∀ c ∈ twoDigits n, c.isDigit = true := by
  obtain ⟨htens, hisDigit⟩ := digit_spec (n / 10 % 10) (Nat.mod_lt _ (by decide))
  obtain ⟨hunits, hisDigit'⟩ := digit_spec (n % 10) (Nat.mod_lt _ (by decide))
  constructor
  · show (0 * 10 + ((Char.ofNat ('0'.toNat + n / 10 % 10)).toNat - '0'.toNat)) * 10 +
      ((Char.ofNat ('0'.toNat + n % 10)).toNat - '0'.toNat) = n
    rw [htens, hunits]
    omega
  · intro c hc
    rcases List.mem_cons.1 hc with rfl | hc
    · exact hisDigit
    · rw [List.mem_singleton.1 hc]
      exact hisDigit'

theorem ranged_twoDigits {n : Nat} (hn : n < 100) (least most : Nat) (rest : List Char) :
    ranged least most (twoDigits n ++ rest) = if least ≤ n ∧ n ≤ most then .ok (n, rest) else .error .outOfRange := by
  obtain ⟨hvalue, hd⟩ := twoDigits_spec hn
  have hne : twoDigits n ≠ [] := List.cons_ne_nil _ _
  have hlength : (twoDigits n).length = 2 := rfl
  have hnumber : number 2 (twoDigits n ++ rest) = .ok (n, rest) := by
    rw [number_append hne hd (.inl hlength), hvalue]
  rw [ranged, trimStart_digits hne hd, hnumber]
  rfl

/-- A year without a sign has four digits. -/
theorem year_of_digits {ds : List Char} (hd : ∀ c ∈ ds, c.isDigit = true) (hfour : ds.length = 4) (rest : List Char) :
    year (ds ++ '-' :: rest) =
      if Int32.minValue.toInt ≤ (digitsValue ds : Int) ∧ (digitsValue ds : Int) ≤ Int32.maxValue.toInt
        then .ok (digitsValue ds, '-' :: rest) else .error .outOfRange := by
  have hne : ds ≠ [] := by
    rintro rfl
    cases hfour
  have hnumber := @number_append 4 ds ('-' :: rest) hne hd (.inl hfour)
  have hhead : ∀ c more, ds ++ '-' :: rest = c :: more → c.isDigit = true := by
    intro c more hcons
    obtain ⟨d, ds, rfl⟩ := List.exists_cons_of_ne_nil hne
    obtain ⟨rfl, -⟩ := List.cons.inj hcons
    exact hd d List.mem_cons_self
  rw [year, trimStart_digits hne hd]
  split
  · rename_i hminus
    exact absurd (hhead _ _ hminus) (by decide)
  · rename_i hplus
    exact absurd (hhead _ _ hplus) (by decide)
  · simp only [hnumber, Except.map]
    rfl

/-- A year reads back as itself, if it is in the range of a reader. -/
theorem year_yearChars (y : Int) (rest : List Char) :
    year (yearChars y ++ '-' :: rest) =
      if Int32.minValue.toInt ≤ y ∧ y ≤ Int32.maxValue.toInt then .ok (y, '-' :: rest) else .error .outOfRange := by
  let padded := List.replicate (4 - (Nat.toDigits 10 y.natAbs).length) '0' ++ Nat.toDigits 10 y.natAbs
  have hne : padded ≠ [] := List.append_ne_nil_of_right_ne_nil _ Nat.toDigits_ne_nil
  have hd : ∀ c ∈ padded, c.isDigit = true := by
    intro c hc
    rcases List.mem_append.1 hc with hc | hc
    · rw [(List.mem_replicate.1 hc).2]
      rfl
    · exact Nat.isDigit_of_mem_toDigits (by decide) (by decide) hc
  have hvalue : digitsValue padded = y.natAbs := digitsValue_padded _ _
  have hend : EndsDigits ('-' :: rest) := endsDigits_cons rfl _
  -- after a sign any number of digits is read
  have hsigned : number (padded ++ '-' :: rest).length (padded ++ '-' :: rest) = .ok (y.natAbs, '-' :: rest) := by
    rw [number_append hne hd (.inr ⟨by simp, hend⟩), hvalue]
  by_cases hnegative : y < 0
  · have hy : -(y.natAbs : Int) = y := by omega
    have hchars : yearChars y = '-' :: padded := if_pos hnegative
    rw [year, hchars, List.cons_append, trimStart_cons (by decide)]
    simp only [hsigned, Except.map, hy]
    rfl
  · have hy : (y.natAbs : Int) = y := by omega
    by_cases hlong : 9999 < y
    · have hchars : yearChars y = '+' :: padded := (if_neg hnegative).trans (if_pos hlong)
      rw [year, hchars, List.cons_append, trimStart_cons (by decide)]
      simp only [hsigned, Except.map, hy]
      rfl
    · have hchars : yearChars y = padded := (if_neg hnegative).trans (if_neg hlong)
      have hfour : padded.length = 4 := by
        have hle : (Nat.toDigits 10 y.natAbs).length ≤ 4 :=
          (Nat.length_toDigits_le_iff (by decide) (by decide)).2 (by omega)
        simp only [padded, List.length_append, List.length_replicate]
        omega
      rw [hchars, year_of_digits hd hfour, hvalue, hy]

/-! ## Whole texts -/

theorem marked_cons {isMark : Char → Bool} {c : Char} (hmark : isMark c = true) (rest : List Char) :
    marked isMark (c :: rest) = .ok rest :=
  if_pos hmark

theorem date_append {y : Int} {month day : Nat} (hmonth : 1 ≤ month ∧ month ≤ 12) (hday : 1 ≤ day ∧ day ≤ 31)
    (rest : List Char) {found : (Int × Nat × Nat) × List Char}
    (h : date (yearChars y ++ '-' :: (twoDigits month ++ '-' :: (twoDigits day ++ rest))) = .ok found) :
    found = ((y, month, day), rest) := by
  have hdash : ∀ more, marked (· = '-') (trimStart ('-' :: more)) = .ok more := by
    intro more
    rw [trimStart_cons (by decide), marked_cons (by decide)]
  have hmonths : ∀ more, ranged 1 12 (twoDigits month ++ more) = .ok (month, more) := by
    intro more
    rw [ranged_twoDigits (by omega), if_pos hmonth]
  have hdays : ranged 1 31 (twoDigits day ++ rest) = .ok (day, rest) := by
    rw [ranged_twoDigits (by omega), if_pos hday]
  rw [date, year_yearChars] at h
  split at h
  · simp only [bind, Except.bind, hdash, hmonths, hdays] at h
    exact (Except.ok.inj h).symm
  · cases h

theorem time_append {hour minute second : Nat} (hhour : hour ≤ 23) (hminute : minute ≤ 59) (hsecond : second ≤ 60) :
    time (twoDigits hour ++ ':' :: (twoDigits minute ++ ':' :: (twoDigits second ++ ['Z']))) =
      .ok ((hour * 3600 + minute * 60 + Nat.min second 59, second = 60), ['Z']) := by
  have hcolon : ∀ more, marked (· = ':') (trimStart (':' :: more)) = .ok more := by
    intro more
    rw [trimStart_cons (by decide), marked_cons (by decide)]
  have hnumber : ∀ {n most : Nat} more, n ≤ most → most < 100 →
      ranged 0 most (twoDigits n ++ more) = .ok (n, more) := by
    intro n most more hle hmost
    rw [ranged_twoDigits (by omega), if_pos ⟨Nat.zero_le n, hle⟩]
  have hfraction : afterFraction ['Z'] = .ok ['Z'] := rfl
  simp only [time, bind, Except.bind, hcolon, hnumber _ hhour (by decide), hnumber _ hminute (by decide),
    hnumber _ hsecond (by decide), hfraction]
  rfl

/-- The text of a date and a time of day. -/
def partsChars (y : Int) (month day hour minute second : Nat) : List Char :=
  yearChars y ++ '-' :: (twoDigits month ++ '-' :: (twoDigits day ++ 'T' :: (twoDigits hour ++ ':' ::
    (twoDigits minute ++ ':' :: (twoDigits second ++ ['Z'])))))

theorem ofChars_parts {y : Int} {month day hour minute second : Nat} (hmonth : 1 ≤ month ∧ month ≤ 12)
    (hday : 1 ≤ day ∧ day ≤ 31) (hhour : hour ≤ 23) (hminute : minute ≤ 59) (hsecond : second ≤ 60) {t : Timestamp}
    (h : ofChars (partsChars y month day hour minute second) = .ok t) :
    t = ⟨daysOfCivil y month day * 86400 + (hour * 3600 + minute * 60 + Nat.min second 59 : Nat), second = 60⟩ := by
  unfold ofChars at h
  cases hdate : date (partsChars y month day hour minute second) with
  | error e =>
    rw [hdate] at h
    cases h
  | ok found =>
    obtain rfl := date_append hmonth hday _ hdate
    have hoffset : offset (trimStart ['Z']) = .ok (0, []) := rfl
    have hmark : ∀ more, marked (· ∈ ['T', 't', ' ']) ('T' :: more) = .ok more :=
      fun more => marked_cons (by decide) more
    rw [hdate] at h
    simp only [bind, Except.bind, hmark, time_append hhour hminute hsecond, hoffset] at h
    split at h
    · cases h
    · split at h
      · cases h
      · unfold ofSeconds at h
        split at h
        · cases h
          simp
        · cases h

theorem chars_eq_parts (t : Timestamp) {days : Int} {clock : Nat} {y : Int} {month day : Nat}
    (hdays : t.seconds.fdiv 86400 = days) (hclock : t.seconds - days * 86400 = clock)
    (hcivil : civilOfDays days = (y, month, day)) : t.chars = partsChars y month day (clock / 3600) (clock / 60 % 60)
      (clock % 60 + if t.isLeapSecond then 1 else 0) := by
  simp only [chars, hdays, hclock, hcivil, Int.toNat_natCast, partsChars]
  simp

/-- An instant that is made of parts is written with these parts. -/
theorem chars_of_parts {days y : Int} {month day hour minute second : Nat} (hcivil : civilOfDays days = (y, month, day))
    (hhour : hour ≤ 23) (hminute : minute ≤ 59) (hsecond : second ≤ 60) :
    chars ⟨days * 86400 + (hour * 3600 + minute * 60 + Nat.min second 59 : Nat), second = 60⟩ =
      partsChars y month day hour minute second := by
  have hmin : second = 60 ∧ Nat.min second 59 = 59 ∨ second ≠ 60 ∧ Nat.min second 59 = second := by
    show second = 60 ∧ min second 59 = 59 ∨ second ≠ 60 ∧ min second 59 = second
    omega
  generalize Nat.min second 59 = least at *
  generalize hclock : hour * 3600 + minute * 60 + least = clock
  have hparts : clock / 3600 = hour ∧ clock / 60 % 60 = minute ∧ clock % 60 = least := by omega
  have hdays : (days * 86400 + clock : Int).fdiv 86400 = days := by
    rw [Int.fdiv_eq_ediv_of_nonneg _ (by decide)]
    omega
  have hsame : days * 86400 + clock - days * 86400 = (clock : Int) := by omega
  rw [chars_eq_parts _ hdays hsame hcivil, hparts.1, hparts.2.1, hparts.2.2]
  rcases hmin with ⟨h60, hleast⟩ | ⟨h60, hleast⟩ <;> simp [h60, hleast]

/-- Every instant is written with the parts of a date and a time of day. -/
theorem exists_parts (t : Timestamp) : ∃ days y month day hour minute second,
    civilOfDays days = (y, month, day) ∧ (1 ≤ month ∧ month ≤ 12) ∧ (1 ≤ day ∧ day ≤ 31) ∧
      daysOfCivil y month day = days ∧ hour ≤ 23 ∧ minute ≤ 59 ∧ second ≤ 60 ∧
      t.chars = partsChars y month day hour minute second := by
  generalize hdays : t.seconds.fdiv 86400 = days
  obtain ⟨y, month, day, hcivil, hmonth, hday, hcount⟩ := civilOfDays_spec days
  obtain ⟨clock, hclock, hlt⟩ : ∃ clock : Nat, t.seconds - days * 86400 = clock ∧ clock < 86400 := by
    rw [Int.fdiv_eq_ediv_of_nonneg _ (by decide)] at hdays
    exact ⟨(t.seconds - days * 86400).toNat, by omega, by omega⟩
  have hsecond : (clock % 60 + if t.isLeapSecond then 1 else 0) ≤ 60 := by
    split <;> omega
  exact ⟨days, y, month, day, _, _, _, hcivil, hmonth, hday, hcount, by omega, by omega, hsecond,
    t.chars_eq_parts hdays hclock hcivil⟩

/-- What a written instant reads back as, if it can be read, is written alike. -/
theorem text_of_ofChars {t t' : Timestamp} (h : ofChars t.chars = .ok t') : t'.text = t.text := by
  obtain ⟨days, y, month, day, hour, minute, second, hcivil, hmonth, hday, hcount, hhour, hminute, hsecond, hchars⟩ :=
    t.exists_parts
  rw [hchars] at h
  rw [text, text, hchars, ofChars_parts hmonth hday hhour hminute hsecond h, hcount,
    chars_of_parts hcivil hhour hminute hsecond]

end HubSearch.Timestamp
