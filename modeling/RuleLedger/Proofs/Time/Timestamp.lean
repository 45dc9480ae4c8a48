import Mathlib.Data.String.Basic
import RuleLedger.Proofs.Clock
import RuleLedger.Proofs.Number.FloatText
import RuleLedger.Proofs.Time.Calendar

/-! Timestamps and the instants they denote. A reader takes a timestamp apart by the widths of its
fields and the marks between them. Main statement: from 1970 to the end of the year 9999 a timestamp
reads as a civil time that exists and counts the milliseconds it was written for, and an earlier
instant has the smaller text. -/
namespace RuleLedger

open Decimal (AllDigits)

/-! ### Numbers of a fixed width -/

theorem toList_padded (width n : Nat) : (padded width n).toList =
    List.replicate (width - (Nat.toDigits 10 n).length) '0' ++ Nat.toDigits 10 n := by
  have hdigits : (toString n).toList = Nat.toDigits 10 n := Nat.toList_repr
  rw [padded, String.toList_append, String.toList_ofList, ← String.length_toList, hdigits]

theorem allDigits_padded (width n : Nat) : AllDigits (padded width n).toList := by
  rw [toList_padded]
  exact (Decimal.allDigits_zeros _).append (Decimal.allDigits_toDigits n)

theorem ofDigitChars_padded (width n : Nat) :
    Nat.ofDigitChars 10 (padded width n).toList 0 = n := by
  rw [toList_padded, Nat.ofDigitChars_append, Nat.ofDigitChars_replicate_zero, Nat.mul_zero,
    Nat.ofDigitChars_ten_toDigits]

theorem length_padded {width n : Nat} (h : n < 10 ^ width) (hwidth : 0 < width) :
    (padded width n).toList.length = width := by
  have hle := (Nat.length_toDigits_le_iff (n := n) (by decide) hwidth).2 h
  rw [toList_padded, List.length_append, List.length_replicate]
  omega

theorem ofDigitChars_cons_zero (c : Char) (cs : List Char) :
    Nat.ofDigitChars 10 (c :: cs) 0 =
      10 ^ cs.length * (c.toNat - 48) + Nat.ofDigitChars 10 cs 0 := by
  rw [Nat.ofDigitChars_cons, Nat.ofDigitChars_eq_ofDigitChars_zero, Nat.mul_zero, Nat.zero_add]
  rfl

theorem ofDigitChars_lt {cs : List Char} (h : AllDigits cs) :
    Nat.ofDigitChars 10 cs 0 < 10 ^ cs.length := by
  induction cs with
  | nil => exact Nat.one_pos
  | cons c cs ih =>
    have hc := Decimal.toNat_of_isDigit (h c List.mem_cons_self)
    have hcs := ih fun d hd => h d (List.mem_cons_of_mem c hd)
    have hle := Nat.mul_le_mul_left (10 ^ cs.length) (show c.toNat - 48 ≤ 9 by omega)
    rw [ofDigitChars_cons_zero, List.length_cons, Nat.pow_succ]
    omega

/-- Digits of one width are ordered as the numbers they write. -/
theorem digits_lt {as bs : List Char} (ha : AllDigits as) (hb : AllDigits bs)
    (hlength : as.length = bs.length)
    (h : Nat.ofDigitChars 10 as 0 < Nat.ofDigitChars 10 bs 0) : as < bs := by
  induction as generalizing bs with
  | nil =>
    rw [List.length_eq_zero_iff.1 hlength.symm] at h
    exact absurd h (Nat.lt_irrefl _)
  | cons a as ih =>
    cases bs with
    | nil => exact absurd hlength (Nat.succ_ne_zero _)
    | cons b bs =>
      replace hlength : as.length = bs.length := Nat.succ.inj hlength
      have has : AllDigits as := fun d hd => ha d (List.mem_cons_of_mem a hd)
      have hbs : AllDigits bs := fun d hd => hb d (List.mem_cons_of_mem b hd)
      have hdigit := Decimal.toNat_of_isDigit (hb b List.mem_cons_self)
      have htail := ofDigitChars_lt hbs
      rw [ofDigitChars_cons_zero, ofDigitChars_cons_zero, hlength] at h
      rw [List.cons_lt_cons_iff]
      obtain hlt | heq | hgt := lt_trichotomy a b
      · exact .inl hlt
      · subst heq
        exact .inr ⟨rfl, ih has hbs hlength (by omega)⟩
      · -- a greater digit outweighs all that follows
        have hcode : b.toNat < a.toNat := hgt
        have hle := Nat.mul_le_mul_left (10 ^ bs.length) (show b.toNat - 48 + 1 ≤ a.toNat - 48 by
          omega)
        rw [Nat.mul_succ] at hle
        omega

theorem append_lt_append {as bs : List Char} (hlength : as.length = bs.length) (h : as < bs)
    (xs ys : List Char) : as ++ xs < bs ++ ys := by
  induction as generalizing bs with
  | nil =>
    rw [List.length_eq_zero_iff.1 hlength.symm] at h
    exact absurd h (List.lt_irrefl _)
  | cons a as ih =>
    cases bs with
    | nil => exact absurd hlength (Nat.succ_ne_zero _)
    | cons b bs =>
      rw [List.cons_append, List.cons_append, List.cons_lt_cons_iff]
      obtain hlt | ⟨heq, htail⟩ := List.cons_lt_cons_iff.1 h
      · exact .inl hlt
      · exact .inr ⟨heq, ih (Nat.succ.inj hlength) htail⟩

/-! ### Fields -/

/-- The fields of a timestamp: the width of each, and the mark behind it. -/
def layout : List (Nat × Char) :=
  [(4, '-'), (2, '-'), (2, 'T'), (2, ':'), (2, ':'), (2, '.'), (3, 'Z')]

/-- The numbers written in the fields of a layout, of digits alone and with nothing left over. -/
def readFields : List (Nat × Char) → List Char → Option (List Nat)
  | [], [] => some []
  | [], _ :: _ => none
  | (width, mark) :: layout, cs =>
    let digits := cs.take width
    if digits.length = width ∧ digits.all Char.isDigit ∧ cs[width]? = some mark then
      (readFields layout (cs.drop (width + 1))).map (Nat.ofDigitChars 10 digits 0 :: ·)
    else none

def writeFields : List (Nat × Char) → List Nat → List Char
  | (width, mark) :: layout, n :: ns => (padded width n).toList ++ mark :: writeFields layout ns
  | _, _ => []

/-- Numbers that have a place in the fields of a layout. -/
inductive Fit : List (Nat × Char) → List Nat → Prop
  | nil : Fit [] []
  | cons {width n : Nat} {mark : Char} {layout : List (Nat × Char)} {ns : List Nat}
      (hwidth : 0 < width) (h : n < 10 ^ width) (rest : Fit layout ns) :
      Fit ((width, mark) :: layout) (n :: ns)

variable {fields : List (Nat × Char)} {ns ms : List Nat}

theorem readFields_writeFields (h : Fit fields ns) :
    readFields fields (writeFields fields ns) = some ns := by
  induction h with
  | nil => rfl
  | @cons width n mark layout ns hwidth hn _ ih =>
    have hlength := length_padded hn hwidth
    have hall := List.all_eq_true.2 (allDigits_padded width n)
    have hmark :
        ((padded width n).toList ++ mark :: writeFields layout ns)[width]? = some mark := by
      rw [List.getElem?_append_right hlength.le, hlength, Nat.sub_self]
      rfl
    have hdrop : ((padded width n).toList ++ mark :: writeFields layout ns).drop (width + 1) =
        writeFields layout ns := by
      rw [← List.drop_drop, List.drop_left' hlength]
      rfl
    rw [writeFields, readFields, List.take_left' hlength, if_pos ⟨hlength, hall, hmark⟩, hdrop, ih,
      ofDigitChars_padded]
    rfl

theorem length_writeFields (h : Fit fields ns) :
    (writeFields fields ns).length = (fields.map (·.1 + 1)).sum := by
  induction h with
  | nil => rfl
  | cons hwidth hn _ ih =>
    rw [writeFields, List.length_append, List.length_cons, length_padded hn hwidth, ih,
      List.map_cons, List.sum_cons]
    omega

/-- Texts of one layout are ordered as the numbers in them. -/
theorem writeFields_lt (hns : Fit fields ns) (hms : Fit fields ms) (h : ns < ms) :
    writeFields fields ns < writeFields fields ms := by
  induction hns generalizing ms with
  | nil =>
    cases hms
    exact absurd h (List.lt_irrefl _)
  | @cons width n mark layout ns hwidth hn _ ih =>
    cases hms with
    | @cons _ m _ _ ms _ hm hms =>
      rw [writeFields, writeFields]
      obtain hlt | ⟨rfl, htail⟩ := List.cons_lt_cons_iff.1 h
      · have hlength := (length_padded hn hwidth).trans (length_padded hm hwidth).symm
        refine append_lt_append hlength (digits_lt (allDigits_padded _ _) (allDigits_padded _ _)
          hlength ?_) _ _
        rw [ofDigitChars_padded, ofDigitChars_padded]
        exact hlt
      · exact List.append_left_lt (List.cons_lt_cons_iff.2 (.inr ⟨rfl, ih hms htail⟩))

/-! ### Civil times -/

namespace Civil

/-- A civil time that exists, from 1970 on. -/
structure IsValid (c : Civil) : Prop where
  date : c.date.IsValid
  hour : c.hour < 24
  minute : c.minute < 60
  second : c.second < 60
  millisecond : c.millisecond < 1000

/-- The milliseconds from the start of 1970 up to a civil time. -/
def epochMs (c : Civil) : Int :=
  (((c.date.dayNumber * 24 + c.hour) * 60 + c.minute) * 60 + c.second) * 1000 + c.millisecond

/-- The parts of a civil time, the largest first. -/
def parts (c : Civil) : List Nat :=
  [c.date.year.toNat, c.date.month, c.date.day, c.hour, c.minute, c.second, c.millisecond]

/-- The civil time that a text of the form YYYY-MM-DDTHH:MM:SS.mmmZ writes. -/
def read? (text : String) : Option Civil :=
  match readFields layout text.toList with
  | some [year, month, day, hour, minute, second, millisecond] =>
    some ⟨⟨year, month, day⟩, hour, minute, second, millisecond⟩
  | _ => none

variable {c e : Civil}

theorem ofSecond_spec {second : Int} {millisecond : Nat} (h : 0 ≤ second)
    (hms : millisecond < 1000) :
    (ofSecond second millisecond).IsValid ∧
      (ofSecond second millisecond).epochMs = second * 1000 + millisecond := by
  obtain ⟨day, hday⟩ : ∃ day : Nat, second / 86400 = day :=
    Int.eq_ofNat_of_zero_le (Int.ediv_nonneg h (by decide))
  obtain ⟨hdate, hcount⟩ := Date.ofDayNumber_spec day
  rw [ofSecond, hday]
  refine ⟨⟨hdate, ?_, ?_, ?_, hms⟩, ?_⟩
  · dsimp only
    omega
  · dsimp only
    omega
  · dsimp only
    omega
  · rw [epochMs, hcount]
    dsimp only
    omega

/-- The order of civil times is that of their parts. -/
theorem epochMs_lt (hc : c.IsValid) (he : e.IsValid) (h : c.parts < e.parts) :
    c.epochMs < e.epochMs := by
  have hcYear := hc.date.year
  have heYear := he.date.year
  have hhour := hc.hour
  have hminute := hc.minute
  have hsecond := hc.second
  have hms := hc.millisecond
  simp only [parts, List.cons_lt_cons_iff, List.not_lt_nil, and_false, or_false] at h
  rw [epochMs, epochMs]
  obtain h | ⟨hyear, h | ⟨hmonth, h | ⟨hday, h⟩⟩⟩ := h
  · have hbefore : c.date.Before e.date := .inl (by omega)
    have hdays := hbefore.dayNumber_lt hc.date
    omega
  · have hbefore : c.date.Before e.date := .inr ⟨by omega, .inl h⟩
    have hdays := hbefore.dayNumber_lt hc.date
    omega
  · have hbefore : c.date.Before e.date := .inr ⟨by omega, .inr ⟨hmonth, h⟩⟩
    have hdays := hbefore.dayNumber_lt hc.date
    omega
  · have hdays : c.date.dayNumber = e.date.dayNumber := by
      have hyears : c.date.year = e.date.year := by omega
      rw [Date.dayNumber, Date.dayNumber, hyears, hmonth, hday]
    omega

theorem fit_parts (h : c.IsValid) (hyear : c.date.year ≤ 9999) : Fit layout c.parts := by
  have hmonth := h.date.month
  have hday : c.date.day ≤ 31 := h.date.day.2.trans (Date.monthLength_le _ _)
  have hhour := h.hour
  have hminute := h.minute
  have hsecond := h.second
  have hms := h.millisecond
  refine .cons ?_ ?_ (.cons ?_ ?_ (.cons ?_ ?_ (.cons ?_ ?_ (.cons ?_ ?_ (.cons ?_ ?_
    (.cons ?_ ?_ .nil)))))) <;> omega

theorem toString_year {y : Nat} (h : 1000 ≤ y) : toString (y : Int) = padded 4 y := by
  have hlength : ¬(Nat.toDigits 10 y).length ≤ 3 := by
    rw [Nat.length_toDigits_le_iff (by decide) (by decide)]
    omega
  rw [← String.toList_inj, toList_padded, Nat.sub_eq_zero_of_le (by omega)]
  exact Nat.toList_repr

/-- The text of a civil time is that of its parts. -/
theorem text_eq (hyear : 1000 ≤ c.date.year) :
    c.dateText ++ "T" ++ c.timeText ++ "." ++ padded 3 c.millisecond ++ "Z" =
      String.ofList (writeFields layout c.parts) := by
  have htext := toString_year (y := c.date.year.toNat) (by omega)
  rw [Int.toNat_of_nonneg (by omega)] at htext
  rw [← String.toList_inj, String.toList_ofList, dateText, timeText, htext]
  have hmarks : "-".toList = ['-'] ∧ "T".toList = ['T'] ∧ ":".toList = [':'] ∧
      ".".toList = ['.'] ∧ "Z".toList = ['Z'] := ⟨rfl, rfl, rfl, rfl, rfl⟩
  simp only [String.toList_append, hmarks, layout, parts, writeFields, List.append_assoc,
    List.cons_append, List.nil_append]

theorem read?_writeFields (h : c.IsValid) (hyear : c.date.year ≤ 9999) :
    read? (String.ofList (writeFields layout c.parts)) = some c := by
  rw [read?, String.toList_ofList, readFields_writeFields (fit_parts h hyear), parts]
  dsimp only
  rw [Int.toNat_of_nonneg (Int.le_trans (by decide) h.date.year)]

end Civil

/-! ### Timestamps -/

/-- The last millisecond of the year 9999. -/
def lastCivil : Civil := ⟨⟨9999, 12, 31⟩, 23, 59, 59, 999⟩

theorem isValid_lastCivil : lastCivil.IsValid :=
  ⟨⟨by decide, by decide, by decide⟩, by decide, by decide, by decide, by decide⟩

def lastInstant : Int := lastCivil.epochMs

theorem lastInstant_eq : lastInstant = 253402300799999 := by
  have hyears := Date.daysOfYears_eq 8029
  have hmonths : Date.daysOfMonths 9999 11 = 334 := by decide
  have hday : Date.dayNumber ⟨9999, 12, 31⟩ = 2932896 := by
    rw [Date.dayNumber_mk, hmonths, show (9999 - 1970 : Int).toNat = 8029 from rfl]
    generalize Date.daysOfYears 8029 = days at hyears ⊢
    omega
  rw [lastInstant, lastCivil, Civil.epochMs, hday]
  rfl

/-- An instant from 1970 to the end of the year 9999 has the timestamp of a civil time that exists
and counts its milliseconds. -/
theorem timestamp_eq {ms : Int} (h0 : 0 ≤ ms) (h : ms ≤ lastInstant) :
    ∃ c : Civil, c.IsValid ∧ c.date.year ≤ 9999 ∧ c.epochMs = ms ∧
      timestamp ms = .ok (String.ofList (writeFields layout c.parts)) := by
  have hsecond : 0 ≤ ms / 1000 := by omega
  have hrest : (ms % 1000).toNat < 1000 := by omega
  obtain ⟨hvalid, hcount⟩ := Civil.ofSecond_spec hsecond hrest
  have hyear := hvalid.date.year
  have hlast : (Civil.ofSecond (ms / 1000) (ms % 1000).toNat).date.year ≤ 9999 := by
    by_contra hafter
    have hparts : lastCivil.parts <
        (Civil.ofSecond (ms / 1000) (ms % 1000).toNat).parts :=
      List.cons_lt_cons_iff.2 (.inl (by dsimp only [lastCivil]; omega))
    have hlater := Civil.epochMs_lt isValid_lastCivil hvalid hparts
    rw [lastInstant] at h
    omega
  rw [lastInstant_eq] at h
  have hexact : ms.natAbs < 1000 * 2 ^ 38 := by omega
  have hrange := checkRange_of_year hexact (Int.le_trans (by decide) hyear) hlast
  refine ⟨_, hvalid, hlast, by omega, ?_⟩
  rw [timestamp, hrange, ← Civil.text_eq (by omega)]
  rfl

/-- A timestamp denotes its instant, and timestamps are ordered as their instants are. -/
theorem timestamp_denotes {ms : Int} (h0 : 0 ≤ ms) (h : ms ≤ lastInstant) :
    ∃ text c, timestamp ms = .ok text ∧ text.length = 24 ∧ Civil.read? text = some c ∧
      c.IsValid ∧ c.epochMs = ms ∧
      ∀ earlier, 0 ≤ earlier → earlier < ms →
        ∃ prior, timestamp earlier = .ok prior ∧ prior < text := by
  obtain ⟨c, hvalid, hlast, hcount, htext⟩ := timestamp_eq h0 h
  have hfit := Civil.fit_parts hvalid hlast
  have hread := Civil.read?_writeFields hvalid hlast
  refine ⟨_, c, htext, ?_, hread, hvalid, hcount, ?_⟩
  · rw [← String.length_toList, String.toList_ofList, length_writeFields hfit]
    rfl
  · intro earlier hearlier hlt
    obtain ⟨e, hevalid, helast, hecount, hetext⟩ := timestamp_eq hearlier (by omega)
    refine ⟨_, hetext, String.lt_iff_toList_lt.2 ?_⟩
    rw [String.toList_ofList, String.toList_ofList]
    refine writeFields_lt (Civil.fit_parts hevalid helast) hfit ?_
    -- the parts are ordered one way or the other, and the instants with them
    obtain hless | hsame | hmore := lt_trichotomy e.parts c.parts
    · exact hless
    · rw [← hsame, Civil.read?_writeFields hevalid helast] at hread
      obtain rfl := Option.some.inj hread
      omega
    · have hback := Civil.epochMs_lt hvalid hevalid hmore
      omega

/-- The last millisecond of a leap day. -/
theorem timestamp_denotes_leap_day :
    (0 : Int) ≤ 951868799999 ∧ 951868799999 ≤ lastInstant ∧
    ∃ text c, timestamp 951868799999 = .ok text ∧ text.length = 24 ∧ Civil.read? text = some c ∧
      c.IsValid ∧ c.epochMs = 951868799999 ∧
      ∀ earlier, 0 ≤ earlier → earlier < 951868799999 →
        ∃ prior, timestamp earlier = .ok prior ∧ prior < text := by
  have hlast : 951868799999 ≤ lastInstant := by
    rw [lastInstant_eq]
    decide
  exact ⟨by decide, hlast, timestamp_denotes (by decide) hlast⟩

example : Civil.read? "2000-02-29T23:59:59.999Z" = some ⟨⟨2000, 2, 29⟩, 23, 59, 59, 999⟩ := by
  decide

end RuleLedger
