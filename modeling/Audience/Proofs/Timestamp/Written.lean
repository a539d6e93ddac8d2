import Audience.Proofs.Timestamp.Calendar
import Mathlib.Algebra.Group.Nat.Defs

/-!
# Written timestamps

Whatever a timestamp was read from, it shows a day of the calendar, a time of day
and an offset of less than a day.  Such a timestamp is read back from its written
form as it was.
-/

namespace Audience
namespace Text

/-- No character of ASCII stands for half of a surrogate pair. -/
theorem isEncodable_of_isAscii {text : String} (ascii : isAscii text = true) :
    isEncodable text = true := by
  simp only [isAscii, isEncodable, List.all_eq_true, decide_eq_true_eq]
    at ascii ⊢
  intro char member
  have low := ascii char member
  have shifted : char.toNat - standInShift = 0 := by
    simp only [standInShift]
    omega
  simp [half?, shifted, isHalf, isHighHalf, isLowHalf]

theorem isAscii_append (front back : String) :
    isAscii (front ++ back) = (isAscii front && isAscii back) := by
  simp [isAscii]

end Text

namespace Decimal

theorem digitValue?_digitChar {digit : Nat} (small : digit < 10) :
    digitValue? (Nat.digitChar digit) = some digit := by
  revert digit
  decide

theorem digitValue_le (char : Char) : (digitValue? char).getD 0 ≤ 9 := by
  unfold digitValue?
  split
  · rename_i digit
    have low : char.toNat ≤ '9'.toNat := digit.2
    show char.toNat - '0'.toNat ≤ 9
    exact Nat.sub_le_sub_right low '0'.toNat
  · exact Nat.zero_le 9

/-- So many digits have a value below the power of ten. -/
theorem valueFrom_lt (start : Nat) (chars : List Char) :
    valueFrom start chars < (start + 1) * 10 ^ chars.length := by
  induction chars generalizing start with
  | nil => simp [valueFrom]
  | cons char rest ih =>
      have small := digitValue_le char
      calc valueFrom start (char :: rest)
        _ < (10 * start + (digitValue? char).getD 0 + 1) *
            10 ^ rest.length := ih _
        _ ≤ (10 * (start + 1)) * 10 ^ rest.length :=
            Nat.mul_le_mul_right _ (by omega)
        _ = (start + 1) * 10 ^ (char :: rest).length := by
            rw [List.length_cons, Nat.pow_succ, Nat.mul_comm 10, Nat.mul_assoc,
              Nat.mul_comm 10]

end Decimal

namespace Timestamp

/-! ## Numbers of a fixed width -/

/-- So many digits, which have a value together. -/
structure Writes (chars : List Char) (width value : Nat) : Prop where
  length : chars.length = width
  digits : ∀ char ∈ chars, Decimal.isDigit char = true
  value : Decimal.valueFrom 0 chars = value

theorem Writes.snoc {chars : List Char} {width value digit : Nat}
    (writes : Writes chars width value) (small : digit < 10) :
    Writes (chars ++ [Nat.digitChar digit]) (width + 1) (10 * value + digit) where
  length := by simp [writes.length]
  digits := by
    intro char member
    rcases List.mem_append.mp member with earlier | last
    · exact writes.digits char earlier
    · obtain rfl := List.mem_singleton.mp last
      simp [Decimal.isDigit, Decimal.digitValue?_digitChar small]
  value := by
    have value := writes.value
    simp only [Decimal.valueFrom] at value ⊢
    simp [List.foldl_append, value, Decimal.digitValue?_digitChar small]

/-- One digit is written as it is. -/
theorem toList_padded_one {digit : Nat} (small : digit < 10) :
    (padded 1 digit).toList = [Nat.digitChar digit] := by
  simp [padded, Nat.toDigits_of_lt_base small]

/-- The last character of a padded number is its last digit. -/
theorem toList_padded_succ (width value : Nat) :
    (padded (width + 2) value).toList =
      (padded (width + 1) (value / 10)).toList ++
        [Nat.digitChar (value % 10)] := by
  simp only [padded, String.toList_ofList]
  by_cases small : value < 10
  · simp [Nat.toDigits_of_lt_base small, Nat.div_eq_of_lt small,
      Nat.mod_eq_of_lt small, List.replicate_succ']
  · have digits : Nat.toDigits 10 value =
        Nat.toDigits 10 (value / 10) ++ [Nat.digitChar (value % 10)] :=
      Nat.toDigits_of_base_le (by decide) (by omega)
    simp [digits]

/-- A number that has no more digits is padded to its width. -/
theorem writes_padded {width value : Nat} (fits : value < 10 ^ (width + 1)) :
    Writes (padded (width + 1) value).toList (width + 1) value := by
  induction width generalizing value with
  | zero =>
      have none : Writes [] 0 0 := ⟨rfl, by simp, rfl⟩
      have single := none.snoc fits
      rwa [List.nil_append, ← toList_padded_one fits, Nat.mul_zero,
        Nat.zero_add, Nat.zero_add] at single
  | succ width ih =>
      have front := @ih (value / 10) (by omega)
      have whole := front.snoc (Nat.mod_lt value (show 0 < 10 by decide))
      rwa [← toList_padded_succ, Nat.div_add_mod] at whole

/-- Four digits are two and two. -/
theorem toList_padded_four (value : Nat) :
    (padded 4 value).toList =
      (padded 2 (value / 100)).toList ++ (padded 2 (value % 100)).toList := by
  have hundreds : value / 10 / 10 = value / 100 := by omega
  have tens : value % 100 / 10 = value / 10 % 10 := by omega
  have ones : value % 100 % 10 = value % 10 := by omega
  rw [toList_padded_succ 2, toList_padded_succ 1, toList_padded_succ 0 (value % 100),
    toList_padded_one (show value % 100 / 10 < 10 by omega), hundreds, tens, ones]
  simp

theorem isAscii_padded (width value : Nat) :
    Text.isAscii (padded width value) = true := by
  simp only [Text.isAscii, padded, String.toList_ofList, List.all_append,
    Bool.and_eq_true, List.all_eq_true, decide_eq_true_eq]
  constructor
  · intro char member
    rw [List.eq_of_mem_replicate member]
    decide
  · intro char member
    have digit := Nat.isDigit_of_mem_toDigits (by decide) (by decide) member
    simp only [Char.isDigit, Bool.and_eq_true, decide_eq_true_eq] at digit
    have low : char.toNat ≤ '9'.toNat := digit.2
    exact Nat.lt_of_le_of_lt low (by decide)

/-! ## Reading the parts back -/

@[simp] theorem expect?_cons (expected : Char) (rest : List Char) :
    expect? expected (expected :: rest) = some rest := by
  simp [expect?]

theorem two?_append {chars : List Char} {value : Nat}
    (writes : Writes chars 2 value) (rest : List Char) :
    two? (chars ++ rest) = some (value, rest) := by
  obtain ⟨tens, ones, rfl⟩ : ∃ tens ones, chars = [tens, ones] := by
    match chars, writes.length with
    | [tens, ones], _ => exact ⟨tens, ones, rfl⟩
  obtain ⟨tensValue, isTens⟩ :=
    Option.isSome_iff_exists.mp (writes.digits tens (by simp))
  obtain ⟨onesValue, isOnes⟩ :=
    Option.isSome_iff_exists.mp (writes.digits ones (by simp))
  have value := writes.value
  simp only [Decimal.valueFrom, List.foldl_cons, List.foldl_nil, isTens, isOnes,
    Option.getD_some, Nat.mul_zero, Nat.zero_add] at value
  simp [two?, isTens, isOnes, value]

theorem two?_padded {value : Nat} (fits : value < 100) (rest : List Char) :
    two? ((padded 2 value).toList ++ rest) = some (value, rest) :=
  two?_append (writes_padded fits) rest

theorem two?_padded_alone {value : Nat} (fits : value < 100) :
    two? (padded 2 value).toList = some (value, []) := by
  simpa using two?_padded fits []

/-- The parts of a day have the widths that they are written in. -/
theorem lt_of_isDay {year month day : Nat}
    (calendar : isDay year month day = true) :
    year < 10000 ∧ month < 100 ∧ day < 100 := by
  have longest : daysInMonth year month ≤ 31 := by
    unfold daysInMonth
    split
    · split <;> decide
    all_goals decide
  simp only [isDay, Bool.and_eq_true, decide_eq_true_eq] at calendar
  omega

theorem date?_padded {year month day : Nat}
    (calendar : isDay year month day = true) (rest : List Char) :
    date? ((padded 4 year).toList ++ '-' :: ((padded 2 month).toList ++
        '-' :: ((padded 2 day).toList ++ rest))) =
      some ((year, month, day), rest) := by
  obtain ⟨year_lt, month_lt, day_lt⟩ := lt_of_isDay calendar
  have century : year / 100 < 100 := by omega
  have yearOfCentury : year % 100 < 100 := by omega
  have whole : 100 * (year / 100) + year % 100 = year := by omega
  simp [date?, toList_padded_four, two?_padded, whole, calendar, century,
    yearOfCentury, month_lt, day_lt]

/-- A zone starts neither with a digit nor with the mark of a fraction. -/
theorem head_of_zone {offset : Option Int} {mark : Char} {rest : List Char}
    (written : (zoneText offset).toList = mark :: rest) :
    mark = 'Z' ∨ mark = '-' ∨ mark = '+' := by
  unfold zoneText at written
  split at written
  · cases written
  · exact .inl (List.cons.inj written).1.symm
  · split at written <;> simp at written <;> simp [← written.1]

theorem microseconds_padded {microsecond : Nat} (small : microsecond < 1000000) :
    microseconds (padded 6 microsecond).toList = microsecond := by
  have writes : Writes (padded 6 microsecond).toList 6 microsecond :=
    writes_padded small
  have kept : (padded 6 microsecond).toList.take 6 =
      (padded 6 microsecond).toList :=
    List.take_of_length_le (Nat.le_of_eq writes.length)
  simp [microseconds, kept, writes.value, writes.length]

/-- The digits of a fraction end where the zone starts. -/
theorem span_fraction {microsecond : Nat} (small : microsecond < 1000000)
    (offset : Option Int) :
    ((padded 6 microsecond).toList ++
        (zoneText offset).toList).takeWhile Decimal.isDigit =
      (padded 6 microsecond).toList ∧
    ((padded 6 microsecond).toList ++
        (zoneText offset).toList).dropWhile Decimal.isDigit =
      (zoneText offset).toList := by
  have writes : Writes (padded 6 microsecond).toList 6 microsecond :=
    writes_padded small
  rw [List.takeWhile_append_of_pos writes.digits,
    List.dropWhile_append_of_pos writes.digits]
  cases written : (zoneText offset).toList with
  | nil => simp
  | cons mark rest =>
      have noDigit : Decimal.isDigit mark = false := by
        rcases head_of_zone written with rfl | rfl | rfl <;> decide
      simp [noDigit]

theorem seconds?_padded {second microsecond : Nat} (fits : second < 100)
    (small : microsecond < 1000000) (offset : Option Int) :
    seconds? (':' :: ((padded 2 second).toList ++
        ((if microsecond = 0 then "" else fractionText microsecond).toList ++
          (zoneText offset).toList))) =
      some ((second, microsecond), (zoneText offset).toList) := by
  by_cases whole : microsecond = 0
  · cases written : (zoneText offset).toList with
    | nil => simp [seconds?, two?_padded_alone fits, whole]
    | cons mark rest =>
        have noMark : mark ≠ '.' ∧ mark ≠ ',' := by
          rcases head_of_zone written with rfl | rfl | rfl <;> decide
        simp [seconds?, two?_padded fits, whole, noMark]
  · obtain ⟨digits, rest⟩ := span_fraction small offset
    have fraction : (fractionText microsecond).toList =
        '.' :: (padded 6 microsecond).toList := by simp [fractionText]
    have writes : Writes (padded 6 microsecond).toList 6 microsecond :=
      writes_padded small
    have notEmpty : (padded 6 microsecond).toList.isEmpty = false := by
      rw [List.isEmpty_eq_false_iff]
      exact List.ne_nil_of_length_pos (by rw [writes.length]; decide)
    rw [if_neg whole, fraction]
    simp only [seconds?, two?_padded fits, List.cons_append, Option.bind_eq_bind,
      Option.bind_some, beq_self_eq_true, Bool.true_or, if_true, digits, rest,
      notEmpty, Bool.false_eq_true, if_false, microseconds_padded small]

/-- A sign, hours and minutes are read as an offset. -/
theorem zone?_padded {sign : Char} {hours minutes : Nat}
    (isSign : sign = '-' ∨ sign = '+') (hours_le : hours ≤ 23)
    (minutes_le : minutes ≤ 59) :
    zone? (sign ::
        ((padded 2 hours).toList ++ ':' :: (padded 2 minutes).toList)) =
      some (some (if sign = '-' then -(60 * (hours : Int) + minutes)
        else 60 * (hours : Int) + minutes)) := by
  have hoursFit : hours < 100 := by omega
  have minutesFit : minutes < 100 := by omega
  rcases isSign with rfl | rfl <;>
    simp [zone?, two?_padded hoursFit, two?_padded_alone minutesFit, hours_le,
      minutes_le, isMinus]

theorem zone?_zoneText {offset : Option Int}
    (lessThanDay : ∀ minutes, offset = some minutes → minutes.natAbs < 1440) :
    zone? (zoneText offset).toList = some offset := by
  unfold zoneText
  split
  · rfl
  · rfl
  · rename_i minutes _
    have less := lessThanDay minutes rfl
    have hours_le : minutes.natAbs / 60 ≤ 23 := by omega
    have rest_le : minutes.natAbs % 60 ≤ 59 := by omega
    by_cases negative : minutes < 0
    · have written : ("-" ++ padded 2 (minutes.natAbs / 60) ++ ":" ++
          padded 2 (minutes.natAbs % 60)).toList = '-' ::
            ((padded 2 (minutes.natAbs / 60)).toList ++
              ':' :: (padded 2 (minutes.natAbs % 60)).toList) := by simp
      have value : -(60 * ((minutes.natAbs / 60 : Nat) : Int) +
          (minutes.natAbs % 60 : Nat)) = minutes := by omega
      rw [if_pos negative, written, zone?_padded (.inl rfl) hours_le rest_le,
        if_pos rfl, value]
    · have written : ("+" ++ padded 2 (minutes.natAbs / 60) ++ ":" ++
          padded 2 (minutes.natAbs % 60)).toList = '+' ::
            ((padded 2 (minutes.natAbs / 60)).toList ++
              ':' :: (padded 2 (minutes.natAbs % 60)).toList) := by simp
      have value : 60 * ((minutes.natAbs / 60 : Nat) : Int) +
          (minutes.natAbs % 60 : Nat) = minutes := by omega
      rw [if_neg negative, written, zone?_padded (.inr rfl) hours_le rest_le,
        if_neg (by decide), value]

/-! ## Reading a written timestamp back -/

/-- A day of the calendar, a time of day, and an offset of less than a day. -/
structure Real (time : Timestamp) : Prop where
  calendar : isDay time.year time.month time.day = true
  hour_le : time.hour ≤ 23
  minute_le : time.minute ≤ 59
  second_le : time.second ≤ 59
  microsecond_lt : time.microsecond < 1000000
  offset_lt : ∀ minutes, time.offset = some minutes → minutes.natAbs < 1440

theorem Real.ofText?_text {time : Timestamp} (real : time.Real) :
    ofText? time.text.toList = some time := by
  obtain ⟨calendar, hour_le, minute_le, second_le, microsecond_lt, offset_lt⟩ :=
    real
  have hourFits : time.hour < 100 := by omega
  have minuteFits : time.minute < 100 := by omega
  have secondFits : time.second < 100 := by omega
  have written : time.text.toList =
      (padded 4 time.year).toList ++ '-' :: ((padded 2 time.month).toList ++
        '-' :: ((padded 2 time.day).toList ++ 'T' :: ((padded 2 time.hour).toList ++
          ':' :: ((padded 2 time.minute).toList ++
            ':' :: ((padded 2 time.second).toList ++
              ((if time.microsecond = 0 then ""
                  else fractionText time.microsecond).toList ++
                (zoneText time.offset).toList)))))) := by
    simp [text, secondsText]
  rw [written]
  simp only [ofText?, date?_padded calendar, two?_padded hourFits,
    two?_padded minuteFits, expect?_cons, seconds?_padded secondFits microsecond_lt,
    zone?_zoneText offset_lt, isSeparator, Option.bind_eq_bind, Option.bind_some]
  simp [hour_le, minute_le, second_le]

theorem isAscii_zoneText (offset : Option Int) :
    Text.isAscii (zoneText offset) = true := by
  unfold zoneText
  split
  · rfl
  · rfl
  · split <;> simp [Text.isAscii_append, isAscii_padded] <;> decide

theorem isAscii_text (time : Timestamp) : Text.isAscii time.text = true := by
  have marks : ∀ mark ∈ ["-", "T", ":", ".", ""], Text.isAscii mark = true := by
    decide
  unfold text secondsText fractionText
  split <;>
    simp [Text.isAscii_append, isAscii_padded, isAscii_zoneText, marks]

theorem Real.read_toJson {time : Timestamp} (real : time.Real) :
    read time.toJson = .value time := by
  simp [toJson, read, Reading.ofText, ofAnyText, real.ofText?_text,
    Text.isEncodable_of_isAscii (isAscii_text time)]

/-! ## What timestamps are read from -/

theorem isDay_of_date? {chars rest : List Char} {year month day : Nat}
    (found : date? chars = some ((year, month, day), rest)) :
    isDay year month day = true := by
  simp only [date?, Option.bind_eq_bind, Option.bind_eq_some_iff] at found
  obtain ⟨century, -, yearOfCentury, -, rest, -, month, -, rest, -, day, -,
    found⟩ := found
  split at found
  · rename_i calendar
    cases found
    exact calendar
  · cases found

theorem microseconds_lt (digits : List Char) :
    microseconds digits < 1000000 := by
  have kept : (digits.take 6).length ≤ 6 := by
    rw [List.length_take]
    exact Nat.min_le_left _ _
  have value := Decimal.valueFrom_lt 0 (digits.take 6)
  rw [Nat.zero_add, Nat.one_mul] at value
  calc microseconds digits
    _ < 10 ^ (digits.take 6).length * 10 ^ (6 - (digits.take 6).length) :=
        Nat.mul_lt_mul_of_pos_right value (Nat.pow_pos (by decide))
    _ = 10 ^ 6 := by rw [← Nat.pow_add, Nat.add_sub_cancel' kept]

theorem microsecond_lt_of_seconds? {chars rest : List Char}
    {second microsecond : Nat}
    (found : seconds? chars = some ((second, microsecond), rest)) :
    microsecond < 1000000 := by
  unfold seconds? at found
  split at found
  · simp only [Option.bind_eq_bind, Option.bind_eq_some_iff] at found
    obtain ⟨after, -, found⟩ := found
    split at found
    · cases found
      decide
    · split at found
      · split at found
        · cases found
        · cases found
          exact microseconds_lt _
      · cases found
        decide
  · cases found
    decide

theorem offset_lt_of_zone? {chars : List Char} {minutes : Int}
    (found : zone? chars = some (some minutes)) : minutes.natAbs < 1440 := by
  unfold zone? at found
  split at found
  · cases found
  · cases found
    decide
  · cases found
    decide
  · split at found
    · simp only [Option.bind_eq_bind, Option.bind_eq_some_iff] at found
      obtain ⟨hours, -, rest, -, found⟩ := found
      split at found
      · rename_i within
        simp only [Bool.and_eq_true, decide_eq_true_eq] at within
        split at found <;> cases found <;> omega
      · cases found
    · cases found

/-- A timestamp read from text. -/
theorem real_of_ofText? {chars : List Char} {time : Timestamp}
    (found : ofText? chars = some time) : time.Real := by
  simp only [ofText?, Option.bind_eq_bind, Option.bind_eq_some_iff] at found
  obtain ⟨⟨⟨year, month, day⟩, rest⟩, date, found⟩ := found
  have calendar := isDay_of_date? date
  split at found
  · cases found
    exact ⟨calendar, Nat.zero_le _, Nat.zero_le _, Nat.zero_le _,
      Nat.zero_lt_succ _, by simp⟩
  · split at found
    · cases found
    · simp only [Option.bind_eq_some_iff] at found
      obtain ⟨⟨hour, rest⟩, -, rest, -, ⟨minute, rest⟩, -,
        ⟨⟨second, microsecond⟩, rest⟩, seconds, offset, zone, found⟩ := found
      split at found
      · rename_i within
        simp only [Bool.and_eq_true, decide_eq_true_eq] at within
        cases found
        refine ⟨calendar, within.1.1, within.1.2, within.2,
          microsecond_lt_of_seconds? seconds, ?_⟩
        rintro minutes rfl
        exact offset_lt_of_zone? zone
      · cases found

/-- A timestamp of a number of microseconds. -/
theorem real_of_ofMicroseconds? {count : Int} {time : Timestamp}
    (found : ofMicroseconds? count = some time) : time.Real := by
  have seconds : count.fdiv 1000000 = count / 1000000 :=
    Int.fdiv_eq_ediv_of_nonneg _ (by decide)
  have days : (count / 1000000).fdiv 86400 = count / 1000000 / 86400 :=
    Int.fdiv_eq_ediv_of_nonneg _ (by decide)
  have microseconds : count.fmod 1000000 = count % 1000000 :=
    Int.fmod_eq_emod_of_nonneg _ (by decide)
  simp only [ofMicroseconds?, seconds, days, microseconds] at found
  split at found
  · cases found
  · rename_i within
    simp only [earliestSecond, latestSecond] at within
    cases found
    exact
      { calendar := isDay_dayOfEpoch (by omega) (by omega)
        hour_le := by dsimp only; omega
        minute_le := by dsimp only; omega
        second_le := by dsimp only; omega
        microsecond_lt := by dsimp only; omega
        offset_lt := by
          rintro minutes ⟨⟩
          decide }

theorem real_of_ofUnix? {count : Int} {time : Timestamp}
    (found : ofUnix? count = some time) : time.Real := by
  unfold ofUnix? at found
  split at found <;> exact real_of_ofMicroseconds? found

theorem real_of_ofDouble? {number : Double} {time : Timestamp}
    (found : ofDouble? number = some time) : time.Real := by
  unfold ofDouble? at found
  split at found
  · cases found
  · exact real_of_ofMicroseconds? found

theorem real_of_ofNumericText? {chars : List Char} {time : Timestamp}
    (found : ofNumericText? chars = some time) : time.Real := by
  unfold ofNumericText? at found
  simp only at found
  split at found
  · cases found
  · exact real_of_ofUnix? found
  · obtain ⟨number, -, found⟩ := Option.bind_eq_some_iff.mp found
    exact real_of_ofDouble? found
  · cases found

theorem real_of_ofAnyText {chars : List Char} {time : Timestamp}
    (found : ofAnyText chars = .ok time) : time.Real := by
  unfold ofAnyText at found
  split at found
  · cases found
    exact real_of_ofText? (by assumption)
  · cases found
    exact real_of_ofNumericText? (by assumption)
  · cases found

theorem orFlaw_eq_value {found : Option Timestamp} {time : Timestamp} :
    orFlaw found = .value time ↔ found = some time := by
  cases found <;> simp [orFlaw, Reading.fail]

/-- Whatever a timestamp was read from, it shows a time that there is. -/
theorem real_of_read {json : Json} {time : Timestamp}
    (found : read json = .value time) : time.Real := by
  cases json with
  | str text =>
      simp only [read, Reading.ofText] at found
      split at found
      · cases found
      · split at found
        · cases found
          exact real_of_ofAnyText (by assumption)
        · cases found
  | int count => exact real_of_ofUnix? (orFlaw_eq_value.mp found)
  | double number => exact real_of_ofDouble? (orFlaw_eq_value.mp found)
  | null => cases found
  | bool flag => cases found
  | arr items => cases found
  | obj fields => cases found

end Timestamp
end Audience
