import ChatBoard.Calendar
import ChatBoard.Proofs.Text.Padded
import Mathlib

/-!
# The dates that are shown

The moments that are read are the dates and times of day of the proleptic Gregorian calendar
(`Moment.isValid_iff`), where every minute may have a leap second. A text in the form in which
moments are stored, six numbers with all their digits, is read as these numbers
(`Moment.Stamp.parts?_stored`), and if they are those of a date and a time of day, it is shown with
its marks replaced and nothing else changed. A date that is shown is never read again, whatever the
year and however the text was written that it was read from (`Moment.parts?_shown`), so showing a
text twice shows the same (`displayDate_dates`).
-/

namespace ChatBoard

open Std.Time (PlainDateTime Year.Offset Month.Ordinal Day.Ordinal)

namespace Moment

/-! ## The calendar -/

/-- The leap years are those of the calendar. -/
theorem isLeap_eq (year : Year.Offset) : isLeap year.toInt = year.isLeap := by
  have hdivides : ∀ n : Int, year.toInt.tmod n = 0 ↔ year.toInt % n = 0 := fun n => by
    rw [← Int.dvd_iff_tmod_eq_zero, Int.dvd_iff_emod_eq_zero]
  unfold isLeap Year.Offset.isLeap
  simp [hdivides]

/-- The months have as many days as in the calendar. -/
theorem daysIn_eq (year : Year.Offset) (month : Month.Ordinal) :
    (daysIn year.toInt month.val.toNat : Int) = (month.days year.isLeap).val := by
  obtain ⟨m, hfirst, hlast⟩ := month
  unfold daysIn
  rw [isLeap_eq]
  generalize year.isLeap = leap
  interval_cases m <;> cases leap <;> rfl

/-- A number that is no month has no days. -/
theorem month_of_daysIn_pos {year : Int} {month : Nat} (h : 0 < daysIn year month) :
    1 ≤ month ∧ month ≤ 12 := by
  unfold daysIn at h
  split at h
  · omega
  · split at h
    · omega
    · split at h <;> omega

/-- A moment is a date and a time of day of the proleptic Gregorian calendar. -/
structure Denotes (t : Moment) (d : PlainDateTime) : Prop where
  year : t.year = d.date.year.toInt
  month : (t.month : Int) = d.date.month.val
  day : (t.day : Int) = d.date.day.val
  hour : (t.hour : Int) = d.time.hour.val
  minute : (t.minute : Int) = d.time.minute.val
  second : (t.second : Int) = d.time.second.val

/-- Within the range of years, a moment exists exactly if it is one of the calendar's. -/
theorem isValid_iff {t : Moment} (hleast : -262143 ≤ t.year) (hgreatest : t.year ≤ 262142) :
    t.isValid = true ↔ ∃ d, t.Denotes d := by
  unfold isValid
  simp only [Bool.and_eq_true, decide_eq_true_iff]
  constructor
  · rintro ⟨⟨⟨⟨⟨-, hday⟩, hlast⟩, hhour⟩, hminute⟩, hsecond⟩
    obtain ⟨hmonth, hmonths⟩ := month_of_daysIn_pos (Nat.lt_of_lt_of_le hday hlast)
    let month : Month.Ordinal := ⟨t.month, by omega, by omega⟩
    have hdays : (daysIn t.year t.month : Int) = (month.days (Year.Offset.isLeap t.year)).val :=
      daysIn_eq t.year month
    have hmost : (month.days (Year.Offset.isLeap t.year)).val ≤ 31 := (month.days _).property.2
    let day : Day.Ordinal := ⟨t.day, by omega, by omega⟩
    have hvalid : Year.Offset.Valid t.year month day := by
      show (t.day : Int) ≤ _
      omega
    have hminutes : (t.minute : Int) ≤ 59 := by omega
    have hseconds : (t.second : Int) ≤ 60 := by omega
    refine ⟨⟨⟨t.year, month, day, hvalid⟩, ⟨⟨t.hour, by omega, by omega⟩,
      ⟨t.minute, by omega, hminutes⟩, ⟨t.second, by omega, hseconds⟩, 0⟩⟩, ?_⟩
    exact ⟨rfl, rfl, rfl, rfl, rfl, rfl⟩
  · rintro ⟨d, h⟩
    have hdays := daysIn_eq d.date.year d.date.month
    have hvalid : d.date.day.val ≤ (d.date.month.days d.date.year.isLeap).val := d.date.valid
    have hday := d.date.day.property.1
    have hhour := d.time.hour.property.2
    have hminute := d.time.minute.property.2
    have hsecond : d.time.second.val ≤ 60 := d.time.second.property.2
    obtain ⟨hyear', hmonth', hday', hhour', hminute', hsecond'⟩ := h
    have hm : d.date.month.val.toNat = t.month := by omega
    rw [← hyear', hm] at hdays
    refine ⟨⟨⟨⟨⟨⟨hleast, hgreatest⟩, ?_⟩, ?_⟩, ?_⟩, ?_⟩, ?_⟩ <;> omega

/-! ## Reading digits -/

/-- Digits are taken one by one, and then those that follow. -/
theorem takeDigits_append {ds : List Char} (h : ∀ c ∈ ds, c.isDigit) (more : Nat)
    (rest : List Char) :
    takeDigits (ds.length + more) (ds ++ rest)
      = (ds.map (fun c => c.toNat - 48) ++ (takeDigits more rest).1, (takeDigits more rest).2) := by
  induction ds with
  | nil => simp
  | cons c ds ih =>
    rw [List.forall_mem_cons] at h
    rw [List.length_cons, Nat.add_right_comm, List.cons_append, takeDigits,
      Numeral.digit?_of_isDigit h.1]
    dsimp only
    rw [ih h.2]
    rfl

/-- No digit is taken at the limit, or where there is none. -/
theorem takeDigits_stop {limit : Nat} {rest : List Char}
    (h : 0 < limit → ∀ c ∈ rest.head?, ¬ c.isDigit) : takeDigits limit rest = ([], rest) := by
  cases limit with
  | zero => rfl
  | succ limit =>
    cases rest with
    | nil => rfl
    | cons c rest => rw [takeDigits, Numeral.digit?_eq_none (h (Nat.succ_pos _) c rfl)]

/-- The number of the values of digits is the one that the digits denote. -/
theorem valueOf_map (ds : List Char) :
    valueOf (ds.map fun c => c.toNat - 48) = Nat.ofDigitChars 10 ds 0 := by
  have hfrom : ∀ value, (ds.map fun c => c.toNat - 48).foldl (fun n d => n * 10 + d) value
      = Nat.ofDigitChars 10 ds value := by
    induction ds with
    | nil => exact fun value => Nat.ofDigitChars_nil.symm
    | cons c ds ih =>
      intro value
      rw [List.map_cons, List.foldl_cons, ih, Numeral.ofDigitChars_digit]
  exact hfrom 0

/-- Digits within the limit are read as the number that they denote, if none follows that would
have to be taken too. -/
theorem readDigits_append {ds rest : List Char} {limit : Nat} (hne : ds ≠ [])
    (h : ∀ c ∈ ds, c.isDigit) (hle : ds.length ≤ limit)
    (hstop : ds.length < limit → ∀ c ∈ rest.head?, ¬ c.isDigit) :
    readDigits limit (ds ++ rest) = some (Nat.ofDigitChars 10 ds 0, rest) := by
  obtain ⟨more, rfl⟩ := Nat.exists_eq_add_of_le hle
  obtain ⟨c, cs, rfl⟩ := List.exists_cons_of_ne_nil hne
  unfold readDigits
  rw [takeDigits_append h, takeDigits_stop fun hpos => hstop (by omega), ← valueOf_map]
  rw [List.append_nil]
  rfl

/-- A text that begins with a digit has no blanks to skip. -/
theorem skipBlanks_of_isDigit {c : Char} (h : c.isDigit) (rest : List Char) :
    Text.skipBlanks (c :: rest) = c :: rest := by
  have hcode := Numeral.toNat_of_isDigit h
  refine List.dropWhile_cons_of_neg ?_
  unfold Text.isBlank
  simp only [Bool.or_eq_true, Bool.and_eq_true, decide_eq_true_iff, beq_iff_eq]
  omega

/-! ## Texts in stored form -/

/-- A number with all digits of a given width. -/
structure Field (width : Nat) where
  chars : List Char
  length_eq : chars.length = width
  isDigit : ∀ c ∈ chars, c.isDigit

namespace Field

variable {width : Nat}

/-- The number that the digits denote. -/
def value (f : Field width) : Nat := Nat.ofDigitChars 10 f.chars 0

/-- A number that is small enough, with all digits of a width. -/
def ofNat (n : Nat) (hpos : 0 < width) (h : n < 10 ^ width) : Field width where
  chars := (Numeral.padded width n).toList
  length_eq := Numeral.length_padded hpos h
  isDigit := Numeral.isDigit_padded width n

/-- The digits of a number denote it. -/
theorem value_ofNat {n : Nat} (hpos : 0 < width) (h : n < 10 ^ width) :
    (ofNat n hpos h).value = n :=
  Numeral.ofDigitChars_padded width n

/-- A number of some width has a first digit. -/
theorem exists_cons (f : Field width) (hpos : 0 < width) :
    ∃ c more, f.chars = c :: more ∧ c.isDigit = true := by
  obtain ⟨c, more, hchars⟩ := List.exists_cons_of_length_pos (f.length_eq ▸ hpos)
  exact ⟨c, more, hchars, f.isDigit c (by rw [hchars]; exact List.mem_cons_self)⟩

/-- The digits are the numeral of the number, filled up to the width. -/
theorem toList_padded_value (f : Field width) (hpos : 0 < width) :
    (Numeral.padded width f.value).toList = f.chars := by
  obtain ⟨c, more, hchars, -⟩ := f.exists_cons hpos
  have hdigits := Numeral.toList_padded_ofDigitChars (by rw [hchars]; simp) f.isDigit
  rw [f.length_eq] at hdigits
  exact hdigits

/-- The width bounds the number. -/
theorem value_lt (f : Field width) (hpos : 0 < width) : f.value < 10 ^ width := by
  have hlength := congrArg List.length (f.toList_padded_value hpos)
  rw [Numeral.toList_padded, List.length_append, List.length_replicate, f.length_eq] at hlength
  exact (Nat.length_toDigits_le_iff (by decide) hpos).1 (by omega)

/-- Before a number there are no blanks to skip. -/
theorem skipBlanks (f : Field width) (hpos : 0 < width) (rest : List Char) :
    Text.skipBlanks (f.chars ++ rest) = f.chars ++ rest := by
  obtain ⟨c, more, hchars, hc⟩ := f.exists_cons hpos
  rw [hchars]
  exact skipBlanks_of_isDigit hc _

/-- A number is read if as many digits are asked for as it has, whatever follows. -/
theorem readDigits (f : Field width) (hpos : 0 < width) (rest : List Char) :
    Moment.readDigits width (f.chars ++ rest) = some (f.value, rest) := by
  obtain ⟨c, more, hchars, -⟩ := f.exists_cons hpos
  have hne : f.chars ≠ [] := by rw [hchars]; exact List.cons_ne_nil c more
  exact readDigits_append hne f.isDigit (Nat.le_of_eq f.length_eq)
    fun hlt => absurd f.length_eq (Nat.ne_of_lt hlt)

/-- A number of two digits is read. -/
theorem readPart (f : Field 2) (rest : List Char) :
    Moment.readPart (f.chars ++ rest) = some (f.value, rest) := by
  unfold Moment.readPart
  rw [f.skipBlanks (by decide)]
  exact f.readDigits (by decide) rest

/-- A number of two digits is read after a space. -/
theorem readPart_space (f : Field 2) (rest : List Char) :
    Moment.readPart (' ' :: (f.chars ++ rest)) = some (f.value, rest) :=
  f.readPart rest

/-- A year of four digits is read. -/
theorem readYear (f : Field 4) (rest : List Char) :
    Moment.readYear (f.chars ++ rest) = some ((f.value : Int), rest) := by
  obtain ⟨c, more, hchars, hc⟩ := f.exists_cons (by decide)
  have hsign : ∀ (sign : Char) (after : List Char), ¬ sign.isDigit →
      f.chars ++ rest ≠ sign :: after := by
    intro sign after hsign heq
    rw [hchars, List.cons_append, List.cons.injEq] at heq
    exact hsign (heq.1 ▸ hc)
  unfold Moment.readYear
  rw [f.skipBlanks (by decide)]
  split
  next heq => exact absurd heq (hsign '-' _ (by decide))
  next heq => exact absurd heq (hsign '+' _ (by decide))
  next => rw [f.readDigits (by decide)]; rfl

end Field

/-- The six numbers of a moment with all their digits, as they are stored. -/
structure Stamp where
  year : Field 4
  month : Field 2
  day : Field 2
  hour : Field 2
  minute : Field 2
  second : Field 2

namespace Stamp

/-- The numbers in a row, with a mark between those of the date. -/
def textWith (mark : Char) (w : Stamp) : String :=
  String.ofList (w.year.chars ++ mark :: (w.month.chars ++ mark :: (w.day.chars
    ++ ' ' :: (w.hour.chars ++ ':' :: (w.minute.chars ++ ':' :: w.second.chars)))))

/-- The text that is stored. -/
def stored (w : Stamp) : String := w.textWith '-'

/-- The six numbers. -/
def moment (w : Stamp) : Moment :=
  ⟨w.year.value, w.month.value, w.day.value, w.hour.value, w.minute.value, w.second.value⟩

/-- A stored text is read as its numbers. -/
theorem parts?_stored (w : Stamp) : parts? w.stored.toList = some w.moment := by
  have hmark : ∀ (mark : Char) (rest : List Char), Text.readMark mark (mark :: rest) = some rest :=
    fun mark rest => Text.readMark_eq_some_iff.2 rfl
  have hlast : readPart w.second.chars = some (w.second.value, []) := by
    have hread := w.second.readPart []
    rwa [List.append_nil] at hread
  unfold stored textWith parts?
  rw [String.toList_ofList]
  simp only [Field.readYear, Field.readPart, Field.readPart_space, hmark, hlast,
    Option.bind_eq_bind, Option.bind_some]
  rfl

/-- The numbers are shown with all their digits. -/
theorem shown_moment (w : Stamp) : w.moment.shown = w.textWith '/' := by
  have hyear : yearText w.year.value = Numeral.padded 4 w.year.value := by
    have hlt := w.year.value_lt (by decide)
    unfold yearText
    rw [if_pos (by omega), Int.toNat_natCast]
  have hpart : ∀ f : Field 2, (Numeral.padded 2 f.value).toList = f.chars :=
    fun f => f.toList_padded_value (by decide)
  refine String.toList_inj.1 ?_
  unfold shown Moment.textWith textWith moment
  simp only [hyear, String.toList_append, String.toList_ofList, hpart,
    w.year.toList_padded_value (by decide)]
  simp

/-- Between the marks there are digits only, so to replace the marks is to write others. -/
theorem map_stored (w : Stamp) :
    w.stored.toList.map (fun c => if c = '-' then '/' else c) = (w.textWith '/').toList := by
  have hdigits : ∀ {width} (f : Field width),
      f.chars.map (fun c => if c = '-' then '/' else c) = f.chars := by
    intro width f
    refine (List.map_congr_left fun c hc => if_neg ?_).trans (List.map_id _)
    rintro rfl
    exact absurd (f.isDigit _ hc) (by decide)
  unfold stored textWith
  simp [hdigits]

/-- A stored text has nineteen characters. -/
theorem length_stored (w : Stamp) : w.stored.toList.length = 19 := by
  unfold stored textWith
  simp [Field.length_eq]

/-- A stored text is shown with other marks if its numbers are those of a date and a time of day,
and else as it is. -/
theorem displayDate_stored (w : Stamp) :
    displayDate w.stored = if w.moment.isValid then w.textWith '/' else w.stored := by
  unfold displayDate ofText?
  rw [parts?_stored]
  dsimp only
  by_cases h : w.moment.isValid
  · rw [if_pos h, if_pos h]
    exact w.shown_moment
  · rw [if_neg h, if_neg h]

/-- The numbers of a date and a time of day of the years 0 to 9999, as they are stored. -/
def ofDateTime (d : PlainDateTime) (h : 0 ≤ d.date.year.toInt ∧ d.date.year.toInt ≤ 9999) :
    Stamp where
  year := .ofNat d.date.year.toInt.toNat (by decide) (by omega)
  month := .ofNat d.date.month.val.toNat (by decide) (by have := d.date.month.property; omega)
  day := .ofNat d.date.day.val.toNat (by decide) (by have := d.date.day.property; omega)
  hour := .ofNat d.time.hour.val.toNat (by decide) (by have := d.time.hour.property; omega)
  minute := .ofNat d.time.minute.val.toNat (by decide) (by have := d.time.minute.property; omega)
  second := .ofNat d.time.second.val.toNat (by decide) (by
    have hsecond : d.time.second.val ≤ 60 := d.time.second.property.2
    omega)

/-- They are the numbers of that date and time of day. -/
theorem denotes_ofDateTime (d : PlainDateTime)
    (h : 0 ≤ d.date.year.toInt ∧ d.date.year.toInt ≤ 9999) : (ofDateTime d h).moment.Denotes d := by
  have hmonth := d.date.month.property.1
  have hday := d.date.day.property.1
  have hhour := d.time.hour.property.1
  have hminute := d.time.minute.property.1
  have hsecond := d.time.second.property.1
  unfold ofDateTime moment
  simp only [Field.value_ofNat]
  constructor <;> dsimp only <;> omega

end Stamp

/-! ## Texts that are shown -/

/-- After a minus sign any number of digits is read. -/
theorem readYear_minus (cs : List Char) :
    readYear ('-' :: cs) = (readDigits cs.length cs).map fun (n, rest) => (-(n : Int), rest) := rfl

/-- After a plus sign any number of digits is read. -/
theorem readYear_plus (cs : List Char) :
    readYear ('+' :: cs) = (readDigits cs.length cs).map fun (n, rest) => ((n : Int), rest) := rfl

/-- A numeral with all its digits is read if there is no limit, up to what is no digit. -/
theorem readDigits_padded (width n : Nat) {c : Char} (hc : ¬ c.isDigit) (rest : List Char) :
    readDigits ((Numeral.padded width n).toList ++ c :: rest).length
      ((Numeral.padded width n).toList ++ c :: rest) = some (n, c :: rest) := by
  have hne : (Numeral.padded width n).toList ≠ [] := by
    rw [Numeral.toList_padded]
    exact fun h => Nat.toDigits_ne_nil (List.append_eq_nil_iff.1 h).2
  have hle : (Numeral.padded width n).toList.length
      ≤ ((Numeral.padded width n).toList ++ c :: rest).length := by
    rw [List.length_append]
    omega
  rw [readDigits_append hne (Numeral.isDigit_padded width n) hle, Numeral.ofDigitChars_padded]
  intro _ d hd
  cases hd
  exact hc

/-- A year that is shown is read back, up to the mark after it. -/
theorem readYear_yearText (year : Int) {c : Char} (hc : ¬ c.isDigit) (rest : List Char) :
    readYear ((yearText year).toList ++ c :: rest) = some (year, c :: rest) := by
  unfold yearText
  split
  next hrange =>
    have hread := (Field.ofNat year.toNat (by decide) (by omega) : Field 4).readYear (c :: rest)
    rw [Field.value_ofNat, Int.toNat_of_nonneg hrange.1] at hread
    exact hread
  next hrange =>
    have hread := readDigits_padded 4 year.natAbs hc rest
    rw [String.toList_append]
    generalize (Numeral.padded 4 year.natAbs).toList = ds at hread ⊢
    split
    next hneg =>
      have hyear : -(year.natAbs : Int) = year := by omega
      rw [show "-".toList = ['-'] from rfl, List.singleton_append, List.cons_append,
        readYear_minus, hread, Option.map_some]
      exact congrArg (fun year => some (year, c :: rest)) hyear
    next hpos =>
      have hyear : (year.natAbs : Int) = year := by omega
      rw [show "+".toList = ['+'] from rfl, List.singleton_append, List.cons_append,
        readYear_plus, hread, Option.map_some]
      exact congrArg (fun year => some (year, c :: rest)) hyear

/-- What is shown is not read: the mark after the year is another one. -/
theorem parts?_shown (t : Moment) : parts? t.shown.toList = none := by
  have hyear := readYear_yearText t.year (c := '/') (by decide)
  unfold shown textWith parts?
  simp only [String.toList_append, List.append_assoc]
  rw [show "/".toList = ['/'] from rfl, List.singleton_append, hyear]
  rfl

end Moment

open Moment

/-- A text is shown with solidi in place of its hyphens, and with all else as it is. -/
def IsShownWithSolidi (s : String) : Prop :=
  (displayDate s).toList = s.toList.map fun c => if c = '-' then '/' else c

/-- How texts are shown as dates. -/
structure ShowsDates : Prop where
  /-- Every date and time of day of the years 0 to 9999, as it is stored, is shown as the same
  nineteen characters with solidi in place of the hyphens. -/
  dates : ∀ (d : PlainDateTime) (h : 0 ≤ d.date.year.toInt ∧ d.date.year.toInt ≤ 9999),
    (Stamp.ofDateTime d h).moment.Denotes d ∧ (Stamp.ofDateTime d h).stored.toList.length = 19
      ∧ IsShownWithSolidi (Stamp.ofDateTime d h).stored
  /-- So is every text of this form whose numbers are those of a date and a time of day. -/
  existing : ∀ w : Stamp, (∃ d, w.moment.Denotes d) → IsShownWithSolidi w.stored
  /-- If its numbers are not, the text is shown as it is. -/
  others : ∀ w : Stamp, (¬ ∃ d, w.moment.Denotes d) → displayDate w.stored = w.stored
  /-- What is shown, of whatever text, is shown as it is. -/
  again : ∀ s, displayDate (displayDate s) = displayDate s

/-- Stored dates are shown with other marks, all that is no date as it is, and a shown date is not
taken for a stored one. -/
theorem displayDate_dates : ShowsDates := by
  have hvalid : ∀ w : Stamp, w.moment.isValid = true ↔ ∃ d, w.moment.Denotes d := by
    intro w
    have hlt := w.year.value_lt (by decide)
    have hyear : w.moment.year = w.year.value := rfl
    exact isValid_iff (by omega) (by omega)
  have hexisting : ∀ w : Stamp, (∃ d, w.moment.Denotes d) → IsShownWithSolidi w.stored := by
    intro w h
    unfold IsShownWithSolidi
    rw [w.displayDate_stored, if_pos ((hvalid w).2 h), w.map_stored]
  refine ⟨fun d h => ?_, hexisting, fun w h => ?_, fun s => ?_⟩
  · have hdenotes := Stamp.denotes_ofDateTime d h
    exact ⟨hdenotes, Stamp.length_stored _, hexisting _ ⟨d, hdenotes⟩⟩
  · rw [w.displayDate_stored, if_neg (mt (hvalid w).1 h)]
  · by_cases h : ∃ t, ofText? s = some t
    · obtain ⟨t, ht⟩ := h
      have hshown : displayDate s = t.shown := by
        unfold displayDate
        rw [ht]
      rw [hshown]
      unfold displayDate ofText?
      rw [parts?_shown]
    · -- A text that is shown as it is, is shown as it is again.
      have hsame : displayDate s = s := by
        unfold displayDate
        rw [Option.eq_none_iff_forall_ne_some.2 fun t ht => h ⟨t, ht⟩]
      rw [hsame, hsame]

/-- A leap second on a leap day is shown with solidi, and the day that a common year does not have
is shown as it is. -/
theorem displayDate_dates_leap :
    displayDate "2024-02-29 23:59:60" = "2024/02/29 23:59:60"
      ∧ displayDate "2023-02-29 23:59:59" = "2023-02-29 23:59:59" := by
  let leap : PlainDateTime := ⟨⟨2024, 2, 29, by decide⟩, ⟨23, 59, ⟨60, by decide⟩, 0⟩⟩
  have hleap := (displayDate_dates.dates leap (by decide)).2.2
  let common : Stamp := ⟨.ofNat 2023 (by decide) (by decide), .ofNat 2 (by decide) (by decide),
    .ofNat 29 (by decide) (by decide), .ofNat 23 (by decide) (by decide),
    .ofNat 59 (by decide) (by decide), .ofNat 59 (by decide) (by decide)⟩
  have hcommon : ¬ ∃ d, common.moment.Denotes d := by
    rw [← isValid_iff (by decide) (by decide)]
    decide
  have hstored : common.stored = "2023-02-29 23:59:59" := by decide
  refine ⟨String.toList_inj.1 ?_, hstored ▸ displayDate_dates.others common hcommon⟩
  have hwritten : (Stamp.ofDateTime leap (by decide)).stored = "2024-02-29 23:59:60" := by decide
  rw [← hwritten]
  exact hleap.trans (by decide)

end ChatBoard
