import Presentation.Log.Line
import Presentation.Proofs.Calendar.Gregorian

/-!
# Reading a stamp

The stamp of a log line is read back character by character: the numbers by
their digits, with as many as the format has for each, and the marks between
them. What is read is a date of the calendar and a time of the clock, and counted
from the epoch it is the moment of the entry rounded down to a millisecond.
-/

set_option autoImplicit false

namespace Presentation.Calendar

/-- Nanoseconds from the epoch. -/
def Timestamp.total (t : Timestamp) : Int := t.seconds * 1000000000 + t.nanoseconds

namespace DateTime

/-- A date of the calendar and a time of the clock. -/
structure InRange (t : DateTime) : Prop where
  date : t.date.Valid
  hour : t.hour < 24
  minute : t.minute < 60
  second : t.second < 60
  millisecond : t.millisecond < 1000

/-- Milliseconds from the epoch. -/
def milliseconds (t : DateTime) : Int :=
  t.date.number * 86400000 + t.hour * 3600000 + t.minute * 60000 + t.second * 1000 + t.millisecond

/-- An earlier time, as one tells by the first field that differs. -/
def Before (t t' : DateTime) : Prop :=
  t.date.Before t'.date ∨ t.date = t'.date ∧
    (t.hour < t'.hour ∨ t.hour = t'.hour ∧
      (t.minute < t'.minute ∨ t.minute = t'.minute ∧
        (t.second < t'.second ∨ t.second = t'.second ∧ t.millisecond < t'.millisecond)))

theorem inRange_ofMilliseconds (ms : Int) : (ofMilliseconds ms).InRange where
  date := Date.valid_ofDays _
  hour := by
    simp only [ofMilliseconds]
    omega
  minute := Nat.mod_lt _ (by decide)
  second := Nat.mod_lt _ (by decide)
  millisecond := Nat.mod_lt _ (by decide)

theorem milliseconds_ofMilliseconds (ms : Int) : (ofMilliseconds ms).milliseconds = ms := by
  simp only [ofMilliseconds, milliseconds, Date.number_ofDays]
  omega

theorem Before.milliseconds_lt {t t' : DateTime} (h : t.Before t') (ht : t.InRange)
    (ht' : t'.InRange) : t.milliseconds < t'.milliseconds := by
  obtain ⟨hdate, hhour, hminute, hsecond, hmillisecond⟩ := ht
  unfold milliseconds
  rcases h with hbefore | ⟨hsame, hclock⟩
  · have hnumber := hbefore.number_lt hdate ht'.date
    omega
  · rw [hsame]
    omega

end DateTime

/-- The number that a text begins with, if the count of its digits is right, and what follows. -/
def readNumber? (right : Nat → Bool) (text : List Char) : Option (Nat × List Char) :=
  let digits := text.takeWhile Char.isDigit
  if right digits.length then
    some (Nat.ofDigitChars 10 digits 0, text.dropWhile Char.isDigit)
  else none

/-- A year has at least four digits, and may have a sign. -/
def readYear? : List Char → Option (Int × List Char)
  | '-' :: text => (readNumber? (4 ≤ ·) text).map fun (n, rest) => (-n, rest)
  | '+' :: text => (readNumber? (4 ≤ ·) text).map fun (n, rest) => (n, rest)
  | text => (readNumber? (4 ≤ ·) text).map fun (n, rest) => (n, rest)

/-- What follows a mark. -/
def readMark? (mark : Char) : List Char → Option (List Char)
  | c :: text => if c = mark then some text else none
  | [] => none

/-- A mark and behind it a number of some width. -/
def readField? (mark : Char) (width : Nat) (text : List Char) : Option (Nat × List Char) := do
  readNumber? (· == width) (← readMark? mark text)

def DateTime.read? (text : List Char) : Option (DateTime × List Char) := do
  let (year, text) ← readYear? text
  let (month, text) ← readField? '-' 2 text
  let (day, text) ← readField? '-' 2 text
  let (hour, text) ← readField? ' ' 2 text
  let (minute, text) ← readField? ':' 2 text
  let (second, text) ← readField? ':' 2 text
  let (millisecond, text) ← readField? '.' 3 text
  return (⟨⟨year, month, day⟩, hour, minute, second, millisecond⟩, text)

/-- The time that is read between the first brackets of a line. -/
def readStamp? (line : String) : Option DateTime := do
  let (t, rest) ← DateTime.read? (← readMark? '[' line.toList)
  let _ ← readMark? ']' rest
  return t

theorem toList_padded (width n : Nat) : (padded width n).toList =
    List.replicate (width - (Nat.toDigits 10 n).length) '0' ++ Nat.toDigits 10 n := by
  rw [padded, String.toList_ofList]

theorem isDigit_of_mem_padded {width n : Nat} {c : Char} (h : c ∈ (padded width n).toList) :
    c.isDigit := by
  rw [toList_padded, List.mem_append] at h
  rcases h with h | h
  · rw [(List.mem_replicate.mp h).2]
    rfl
  · exact Nat.isDigit_of_mem_toDigits (by decide) (by decide) h

theorem length_padded (width n : Nat) :
    (padded width n).toList.length = max width (Nat.toDigits 10 n).length := by
  rw [toList_padded, List.length_append, List.length_replicate]
  omega

theorem length_padded_of_lt {width n : Nat} (hwidth : 0 < width) (h : n < 10 ^ width) :
    (padded width n).toList.length = width := by
  have hdigits := (Nat.length_toDigits_le_iff (by decide : 1 < 10) hwidth).mpr h
  rw [length_padded]
  omega

/-- Zeros in front do not change what is read. -/
theorem ofDigitChars_padded (width n : Nat) :
    Nat.ofDigitChars 10 (padded width n).toList 0 = n := by
  rw [toList_padded, Nat.ofDigitChars_append, Nat.ofDigitChars_replicate_zero, Nat.mul_zero,
    Nat.ofDigitChars_ten_toDigits]

theorem readNumber?_padded {right : Nat → Bool} {width n : Nat} {rest : List Char}
    (hright : right (padded width n).toList.length) (hrest : ∀ c ∈ rest.head?, c.isDigit = false) :
    readNumber? right ((padded width n).toList ++ rest) = some (n, rest) := by
  have hdigits : ∀ c ∈ (padded width n).toList, c.isDigit := fun c => isDigit_of_mem_padded
  have htake : rest.takeWhile Char.isDigit = [] := by
    cases rest with
    | nil => rfl
    | cons c rest => exact List.takeWhile_cons_of_neg (by simp [hrest c rfl])
  have hdrop : rest.dropWhile Char.isDigit = rest := by
    cases rest with
    | nil => rfl
    | cons c rest => exact List.dropWhile_cons_of_neg (by simp [hrest c rfl])
  rw [readNumber?, List.takeWhile_append_of_pos hdigits, htake, List.append_nil, if_pos hright,
    ofDigitChars_padded, List.dropWhile_append_of_pos hdigits, hdrop]

theorem readField?_padded {mark : Char} {width n : Nat} {rest : List Char} (hwidth : 0 < width)
    (h : n < 10 ^ width) (hrest : ∀ c ∈ rest.head?, c.isDigit = false) :
    readField? mark width (mark :: ((padded width n).toList ++ rest)) = some (n, rest) := by
  have hlength := length_padded_of_lt hwidth h
  simp only [readField?, readMark?, if_pos, Option.bind_eq_bind, Option.bind_some]
  exact readNumber?_padded (by simp [hlength]) hrest

/-- A year without a sign begins with a digit. -/
theorem readYear?_of_digit {c : Char} (h : c.isDigit) (text : List Char) :
    readYear? (c :: text) =
      (readNumber? (4 ≤ ·) (c :: text)).map fun (n, rest) => ((n : Int), rest) := by
  unfold readYear?
  split
  · rename_i hmark
    cases (List.cons.inj hmark).1
    cases h
  · rename_i hmark
    cases (List.cons.inj hmark).1
    cases h
  · rfl

theorem readNumber?_padded_year (n : Nat) {rest : List Char}
    (hrest : ∀ c ∈ rest.head?, c.isDigit = false) :
    readNumber? (4 ≤ ·) ((padded 4 n).toList ++ rest) = some (n, rest) := by
  have hwide : 4 ≤ (padded 4 n).toList.length := by
    rw [length_padded]
    exact Nat.le_max_left _ _
  exact readNumber?_padded (decide_eq_true hwide) hrest

theorem readYear?_padded (n : Nat) {rest : List Char}
    (hrest : ∀ c ∈ rest.head?, c.isDigit = false) :
    readYear? ((padded 4 n).toList ++ rest) = some ((n : Int), rest) := by
  have hlength := length_padded 4 n
  have hread := readNumber?_padded_year n hrest
  cases htext : (padded 4 n).toList with
  | nil =>
    rw [htext, List.length_nil] at hlength
    omega
  | cons c text =>
    have hdigit : c.isDigit := isDigit_of_mem_padded (htext ▸ List.mem_cons_self)
    rw [htext] at hread
    rw [List.cons_append] at hread ⊢
    rw [readYear?_of_digit hdigit, hread]
    rfl

theorem readYear?_yearText (year : Int) {rest : List Char}
    (hrest : ∀ c ∈ rest.head?, c.isDigit = false) :
    readYear? ((yearText year).toList ++ rest) = some (year, rest) := by
  have hread := readNumber?_padded_year year.natAbs hrest
  unfold yearText
  split
  · rename_i hneg
    have hsign : ("-" ++ padded 4 year.natAbs).toList = '-' :: (padded 4 year.natAbs).toList := by
      simp
    rw [hsign, List.cons_append, readYear?, hread, Option.map_some]
    simp only [Option.some.injEq, Prod.mk.injEq, and_true]
    omega
  · split
    · rw [readYear?_padded _ hrest]
      simp only [Option.some.injEq, Prod.mk.injEq, and_true]
      omega
    · have hsign : ("+" ++ padded 4 year.natAbs).toList =
          '+' :: (padded 4 year.natAbs).toList := by simp
      rw [hsign, List.cons_append, readYear?, hread, Option.map_some]
      simp only [Option.some.injEq, Prod.mk.injEq, and_true]
      omega

theorem toList_text (t : DateTime) (rest : List Char) : t.text.toList ++ rest =
    (yearText t.date.year).toList ++ '-' :: ((padded 2 t.date.month).toList ++
      '-' :: ((padded 2 t.date.day).toList ++ ' ' :: ((padded 2 t.hour).toList ++
        ':' :: ((padded 2 t.minute).toList ++ ':' :: ((padded 2 t.second).toList ++
          '.' :: ((padded 3 t.millisecond).toList ++ rest)))))) := by
  simp [DateTime.text]

theorem head_mark (mark : Char) (h : mark.isDigit = false) (text : List Char) :
    ∀ c ∈ (mark :: text).head?, c.isDigit = false := by
  rintro c ⟨⟩
  exact h

/-- What is printed of a time of the calendar and the clock is read as that time. -/
theorem read?_text {t : DateTime} (h : t.InRange) {rest : List Char}
    (hrest : ∀ c ∈ rest.head?, c.isDigit = false) :
    DateTime.read? (t.text.toList ++ rest) = some (t, rest) := by
  obtain ⟨⟨-, hmonth, -, hday⟩, hhour, hminute, hsecond, hmillisecond⟩ := h
  have hlength := monthLength_le t.date.year t.date.month
  have hdash := head_mark '-' rfl
  have hblank := head_mark ' ' rfl
  have hcolon := head_mark ':' rfl
  have hpoint := head_mark '.' rfl
  simp only [toList_text, DateTime.read?, Option.bind_eq_bind,
    readYear?_yearText _ (hdash _), Option.bind_some,
    readField?_padded (by decide) (by omega : t.date.month < 10 ^ 2) (hdash _),
    readField?_padded (by decide) (by omega : t.date.day < 10 ^ 2) (hblank _),
    readField?_padded (by decide) (by omega : t.hour < 10 ^ 2) (hcolon _),
    readField?_padded (by decide) (by omega : t.minute < 10 ^ 2) (hcolon _),
    readField?_padded (by decide) (by omega : t.second < 10 ^ 2) (hpoint _),
    readField?_padded (by decide) (by omega : t.millisecond < 10 ^ 3) hrest]
  rfl

theorem milliseconds_eq_total (time : Timestamp) : time.milliseconds = time.total / 1000000 := by
  unfold Timestamp.milliseconds Timestamp.total
  omega

/-- Whatever the entry and the palette, the time in a line is the one that was printed there. -/
theorem readStamp?_lineAt (palette : Log.Palette) (e : Log.Entry) (time : Timestamp) :
    readStamp? (e.lineAt palette time) = some (DateTime.ofMilliseconds time.milliseconds) := by
  have hrange := DateTime.inRange_ofMilliseconds time.milliseconds
  simp only [readStamp?, Log.Entry.lineAt, Log.toList_line, List.cons_append, readMark?, if_pos,
    Option.bind_eq_bind, Option.bind_some, Timestamp.text,
    read?_text hrange (head_mark ']' rfl _)]
  rfl

/-- The stamp of a line is read back as a date and a time that are in range, and are the moment of
the entry rounded down to a millisecond. So the later of two entries never has the earlier stamp. -/
theorem stamp_read_back :
    (∀ palette (e : Log.Entry) (time : Timestamp), ∃ t,
      readStamp? (e.lineAt palette time) = some t ∧ t.InRange ∧
        t.milliseconds = time.total / 1000000) ∧
    ∀ palette palette' (e e' : Log.Entry) (time time' : Timestamp), time.total ≤ time'.total →
      ∃ t t', readStamp? (e.lineAt palette time) = some t ∧
        readStamp? (e'.lineAt palette' time') = some t' ∧ ¬ t'.Before t := by
  have hread : ∀ palette (e : Log.Entry) (time : Timestamp), ∃ t,
      readStamp? (e.lineAt palette time) = some t ∧ t.InRange ∧
        t.milliseconds = time.total / 1000000 := by
    intro palette e time
    refine ⟨_, readStamp?_lineAt palette e time, DateTime.inRange_ofMilliseconds _, ?_⟩
    rw [DateTime.milliseconds_ofMilliseconds, milliseconds_eq_total]
  refine ⟨hread, ?_⟩
  intro palette palette' e e' time time' hlater
  obtain ⟨t, hline, hrange, hmilliseconds⟩ := hread palette e time
  obtain ⟨t', hline', hrange', hmilliseconds'⟩ := hread palette' e' time'
  refine ⟨t, t', hline, hline', ?_⟩
  intro hbefore
  have hlt := hbefore.milliseconds_lt hrange' hrange
  omega

/-- The last nanosecond before the epoch is not printed as later than its beginning. -/
theorem stamp_read_back_at_epoch :
    (⟨-1, 999999999⟩ : Timestamp).total ≤ (⟨0, 0⟩ : Timestamp).total ∧
    ∃ t t', readStamp? ((Log.Entry.report .info "clock" "tick").lineAt .plain ⟨-1, 999999999⟩) =
        some t ∧
      readStamp? ((Log.Entry.report .info "clock" "tock").lineAt .coloured ⟨0, 0⟩) = some t' ∧
      ¬ t'.Before t :=
  ⟨by decide, stamp_read_back.2 .plain .coloured _ _ ⟨-1, 999999999⟩ ⟨0, 0⟩ (by decide)⟩

end Presentation.Calendar
