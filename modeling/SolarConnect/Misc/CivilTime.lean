import SolarConnect.Misc.FlatJson

/-!
# Civil time

Dates of the Gregorian calendar, counted in days from the first of January 1970, and the time of
day. A timestamp in UTC is read back as the seconds it was made from.
-/

namespace CivilTime

open Bytes FlatJson

/-! ## Dates -/

structure Date where
  year : Nat
  month : Nat
  day : Nat
  deriving DecidableEq, Repr

def IsLeap (year : Nat) : Prop :=
  year % 4 = 0 ∧ (year % 100 ≠ 0 ∨ year % 400 = 0)

instance (year : Nat) : Decidable (IsLeap year) :=
  inferInstanceAs (Decidable (_ ∧ _))

def monthLength (year month : Nat) : Nat :=
  if month = 2 then (if IsLeap year then 29 else 28)
  else if month = 4 ∨ month = 6 ∨ month = 9 ∨ month = 11 then 30
  else 31

/-- The date of the next day. -/
def Date.next (d : Date) : Date :=
  if d.day < monthLength d.year d.month then { d with day := d.day + 1 }
  else if d.month < 12 then ⟨d.year, d.month + 1, 1⟩
  else ⟨d.year + 1, 1, 1⟩

/-- The date so many days after the first of January 1970. -/
def date : Nat → Date
  | 0 => ⟨1970, 1, 1⟩
  | n + 1 => (date n).next

/-- The days in front of a month. -/
def daysBeforeMonth (year month : Nat) : Nat :=
  let days := [0, 31, 59, 90, 120, 151, 181, 212, 243, 273, 304, 334].getD (month - 1) 0
  if 2 < month ∧ IsLeap year then days + 1 else days

/-- The days from the first of January 1970 up to that of a later year. -/
def daysBeforeYear (year : Nat) : Nat :=
  365 * (year - 1970) + ((year - 1) / 4 - (year - 1) / 100 + (year - 1) / 400 - 477)

def Date.dayNumber (d : Date) : Nat :=
  daysBeforeYear d.year + daysBeforeMonth d.year d.month + (d.day - 1)

/-- A date of the calendar, from 1970 on. -/
structure Date.Valid (d : Date) : Prop where
  year : 1970 ≤ d.year
  month : 1 ≤ d.month ∧ d.month ≤ 12
  day : 1 ≤ d.day ∧ d.day ≤ monthLength d.year d.month

theorem monthLength_le (year month : Nat) : monthLength year month ≤ 31 := by
  unfold monthLength
  split_ifs <;> omega

theorem monthLength_pos (year month : Nat) : 1 ≤ monthLength year month := by
  unfold monthLength
  split_ifs <;> omega

/-- A month begins where the one in front of it ends. -/
theorem daysBeforeMonth_succ (year : Nat) {month : Nat} (first : 1 ≤ month) (last : month < 12) :
    daysBeforeMonth year (month + 1) = daysBeforeMonth year month + monthLength year month := by
  unfold daysBeforeMonth monthLength
  by_cases leap : IsLeap year
  · interval_cases month <;> simp [leap]
  · interval_cases month <;> simp [leap]

/-- So does a year. -/
theorem daysBeforeYear_succ {year : Nat} (epoch : 1970 ≤ year) :
    daysBeforeYear (year + 1) = daysBeforeYear year + daysBeforeMonth year 12 + 31 := by
  unfold daysBeforeYear daysBeforeMonth
  by_cases leap : IsLeap year
  · rw [if_pos ⟨by decide, leap⟩]
    unfold IsLeap at leap
    simp only [Nat.reduceSub, List.getD_eq_getElem?_getD, List.getElem?_cons_succ,
      List.getElem?_cons_zero, Option.getD_some]
    omega
  · rw [if_neg fun both => leap both.2]
    unfold IsLeap at leap
    simp only [Nat.reduceSub, List.getD_eq_getElem?_getD, List.getElem?_cons_succ,
      List.getElem?_cons_zero, Option.getD_some]
    omega

/-- The next day has the next number. -/
theorem Date.Valid.next {d : Date} (valid : d.Valid) :
    d.next.Valid ∧ d.next.dayNumber = d.dayNumber + 1 := by
  obtain ⟨year, ⟨first, last⟩, one, ends⟩ := valid
  unfold Date.next
  split_ifs with inside before
  · exact ⟨⟨year, ⟨first, last⟩, by dsimp only; omega, inside⟩, by
      unfold Date.dayNumber
      dsimp only
      omega⟩
  · refine ⟨⟨year, by dsimp only; omega, le_refl 1, monthLength_pos _ _⟩, ?_⟩
    unfold Date.dayNumber
    dsimp only
    rw [daysBeforeMonth_succ d.year first before]
    omega
  · have december : d.month = 12 := by omega
    refine ⟨⟨by dsimp only; omega, ⟨le_refl 1, by simp⟩, le_refl 1, monthLength_pos _ _⟩, ?_⟩
    have full : monthLength d.year 12 = 31 := rfl
    have start : daysBeforeMonth (d.year + 1) 1 = 0 := rfl
    unfold Date.dayNumber
    rw [december] at ends inside ⊢
    dsimp only
    rw [daysBeforeYear_succ year, start]
    omega

theorem date_valid (n : Nat) : (date n).Valid ∧ (date n).dayNumber = n := by
  induction n with
  | zero => exact ⟨⟨by decide, by decide, by decide⟩, by decide⟩
  | succ n ih =>
    obtain ⟨valid, number⟩ := ih.1.next
    exact ⟨valid, by rw [date, number, ih.2]⟩

/-! ## Timestamps -/

/-- `%02d`. -/
def pad2 (n : Nat) : List Byte :=
  [0x30 + BitVec.ofNat 8 (n / 10 % 10), 0x30 + BitVec.ofNat 8 (n % 10)]

/-- `strftime` with `"%Y-%m-%dT%H:%M:%SZ"`, for a time in seconds since 1970. -/
def timestamp (t : Nat) : List Byte :=
  let d := date (t / 86400)
  decimal d.year ++ (minus :: (pad2 d.month ++ (minus :: (pad2 d.day ++ (0x54 ::
    (pad2 (t % 86400 / 3600) ++ (colon :: (pad2 (t % 3600 / 60) ++ (colon ::
      (pad2 (t % 60) ++ [0x5A]))))))))))

/-- Two digits. -/
def readPad2 : List Byte → Option (Nat × List Byte)
  | a :: b :: rest => do
    let high ← digit? a
    let low ← digit? b
    return (10 * high + low, rest)
  | _ => none

/-- The seconds since 1970 of a timestamp. -/
def readTimestamp (text : List Byte) : Option Nat := do
  let (year, rest) ← readNat text
  let (month, rest) ← readPad2 (← expect [minus] rest)
  let (day, rest) ← readPad2 (← expect [minus] rest)
  let (hour, rest) ← readPad2 (← expect [0x54] rest)
  let (minute, rest) ← readPad2 (← expect [colon] rest)
  let (second, rest) ← readPad2 (← expect [colon] rest)
  if rest = [0x5A] then
    return 86400 * Date.dayNumber ⟨year, month, day⟩ + 3600 * hour + 60 * minute + second
  else none

theorem readPad2_pad2 {n : Nat} (small : n < 100) (rest : List Byte) :
    readPad2 (pad2 n ++ rest) = some (n, rest) := by
  have high : digit? (0x30 + BitVec.ofNat 8 (n / 10 % 10)) = some (n / 10) := by
    rw [digit_digit (Nat.mod_lt _ (by decide)), Nat.mod_eq_of_lt (by omega)]
  have low : digit? (0x30 + BitVec.ofNat 8 (n % 10)) = some (n % 10) :=
    digit_digit (Nat.mod_lt _ (by decide))
  change (digit? _).bind (fun h => (digit? _).bind fun l => some (10 * h + l, rest)) = _
  rw [high, Option.bind_some, low, Option.bind_some, Nat.div_add_mod]

theorem clean_pad2 (n : Nat) : Clean (pad2 n) := by
  have digit : ∀ d < 10, Clean [0x30 + BitVec.ofNat 8 d] := by decide
  intro b member
  rcases List.mem_cons.mp member with rfl | last
  · exact digit _ (Nat.mod_lt _ (by decide)) _ List.mem_cons_self
  · rw [List.mem_singleton.mp last]
    exact digit _ (Nat.mod_lt _ (by decide)) _ List.mem_cons_self

theorem clean_timestamp (t : Nat) : Clean (timestamp t) := by
  have separators : ∀ b ∈ [minus, 0x54, colon, 0x5A], 0x20 ≤ b ∧ b ≠ quote ∧ b ≠ backslash := by
    decide
  have cons {b : Byte} {rest : List Byte} (separator : b ∈ [minus, 0x54, colon, 0x5A])
      (clean : Clean rest) : Clean (b :: rest) :=
    List.forall_mem_cons.mpr ⟨separators b separator, clean⟩
  have pair (n : Nat) {rest : List Byte} (clean : Clean rest) : Clean (pad2 n ++ rest) :=
    clean_append.mpr ⟨clean_pad2 n, clean⟩
  refine clean_append.mpr ⟨clean_decimal _, cons (by simp) (pair _ (cons (by simp) (pair _ ?_)))⟩
  refine cons (by simp) (pair _ (cons (by simp) (pair _ (cons (by simp) (pair _ ?_)))))
  exact cons (by simp) (List.forall_mem_nil _)

/-- Before the year 10000 a timestamp has 20 bytes. -/
theorem timestamp_length {t : Nat} (early : t < 253402300800) : (timestamp t).length ≤ 20 := by
  obtain ⟨⟨epoch, -, -⟩, number⟩ := date_valid (t / 86400)
  have year : (date (t / 86400)).year < 10 ^ 4 := by
    by_contra late
    have days : daysBeforeYear (date (t / 86400)).year ≤ t / 86400 := by
      rw [Date.dayNumber] at number
      omega
    unfold daysBeforeYear at days
    omega
  have digits := decimal_length_le (by decide : 0 < 4) year
  simp only [timestamp, pad2, List.length_append, List.length_cons, List.length_nil]
  omega

/-- A timestamp is read back. -/
theorem readTimestamp_timestamp (t : Nat) : readTimestamp (timestamp t) = some t := by
  obtain ⟨⟨-, ⟨-, month⟩, -, day⟩, number⟩ := date_valid (t / 86400)
  have day := day.trans (monthLength_le _ _)
  have expects (b : Byte) (rest : List Byte) : expect [b] (b :: rest) = some rest :=
    expect_append [b] rest
  have stops (rest : List Byte) : NoDigit (minus :: rest) := by
    intro b front
    cases front
    decide
  have hour : t % 86400 / 3600 < 100 := by omega
  have minute : t % 3600 / 60 < 100 := by omega
  have second : t % 60 < 100 := by omega
  unfold timestamp readTimestamp
  dsimp only
  generalize date (t / 86400) = d at number month day ⊢
  simp only [readNat_decimal d.year (stops _), expects, readPad2_pad2 (n := d.month) (by omega),
    readPad2_pad2 (n := d.day) (by omega), readPad2_pad2 hour, readPad2_pad2 minute,
    readPad2_pad2 second, Option.bind_eq_bind, Option.bind_some, if_true]
  have same : Date.dayNumber ⟨d.year, d.month, d.day⟩ = t / 86400 := number
  have total : 86400 * (t / 86400) + 3600 * (t % 86400 / 3600) + 60 * (t % 3600 / 60) + t % 60 =
      t := by
    omega
  rw [same, total]
  rfl

end CivilTime
