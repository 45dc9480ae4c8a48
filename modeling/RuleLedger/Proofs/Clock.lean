import Mathlib.Tactic.SplitIfs
import RuleLedger.Clock
import RuleLedger.Proofs.Except
import RuleLedger.Proofs.Time.Seconds

/-! Instants that have timestamps. Main statements: such an instant is exact as a double; and where
seconds are, it is split as whole numbers are. -/
namespace RuleLedger

/-- The year lies in the era of its day. -/
theorem Date.year_bounds (n : Int) :
    (n + 719468) / 146097 * 400 ≤ (ofDayNumber n).year ∧
      (ofDayNumber n).year ≤ (n + 719468) / 146097 * 400 + 401 := by
  have hday : ((n + 719468) % 146097).toNat < 146097 := by omega
  simp only [ofDayNumber]
  generalize ((n + 719468) % 146097).toNat = day at hday
  have hyear : (day - day / 1460 + day / 36524 - day / 146096) / 365 ≤ 400 := by omega
  generalize (day - day / 1460 + day / 36524 - day / 146096) / 365 = year at hyear
  constructor <;> split <;> omega

theorem fitsWord_iff {bits : Nat} {n : Int} :
    fitsWord (bits + 1) n = true ↔ -(2 ^ bits : Nat) ≤ n ∧ n < (2 ^ bits : Nat) := by
  rw [fitsWord, Nat.add_sub_cancel, Nat.one_shiftLeft, Bool.and_eq_true, decide_eq_true_eq,
    decide_eq_true_eq]

theorem bmod_word (n : Int) : n.bmod (1 <<< 32) =
    if n % 2 ^ 32 < 2 ^ 31 then n % 2 ^ 32 else n % 2 ^ 32 - 2 ^ 32 := rfl

/-- The years that have timestamps fit their word. -/
theorem calendarYear_of_year {second : Int} (hlow : 1 ≤ (Date.ofDayNumber (second / 86400)).year)
    (hhigh : (Date.ofDayNumber (second / 86400)).year ≤ 9999) :
    calendarYear second = .ok (Date.ofDayNumber (second / 86400)).year := by
  have hbounds := Date.year_bounds (second / 86400)
  have hsecond : fitsWord 64 second = true := fitsWord_iff.2 (by omega)
  have hyear : fitsWord 32 ((Date.ofDayNumber (second / 86400)).year - 1900) = true :=
    fitsWord_iff.2 (by omega)
  simp only [calendarYear, hsecond, hyear, Bool.true_or, Bool.not_true, Bool.false_eq_true,
    ↓reduceIte]
  rw [bmod_word, Int.emod_eq_of_lt (by omega) (by omega), if_pos (by omega)]

/-- No other year wraps around to a year that has timestamps. -/
theorem year_of_calendarYear {second year : Int} (h : calendarYear second = .ok year)
    (hlow : 1 ≤ year) : (Date.ofDayNumber (second / 86400)).year = year := by
  rw [calendarYear] at h
  split_ifs at h with hsecond hyear
  rw [Bool.not_eq_true', Bool.not_eq_false, fitsWord_iff] at hyear
  have hword := Except.ok.inj h
  rw [bmod_word] at hword
  split_ifs at hword <;> omega

theorem checkRange_eq_ok {ms : Int} {c : Civil} (h : checkRange ms = .ok c) :
    ∃ d, seconds? ms = some d ∧ 1 ≤ (Date.ofDayNumber (d.second / 86400)).year ∧
      (Date.ofDayNumber (d.second / 86400)).year ≤ 9999 := by
  rw [checkRange] at h
  split at h
  · cases h
  · rename_i d hd
    split at h
    · cases h
    · rename_i year hyear
      split_ifs at h with hrange
      rw [Bool.and_eq_true, decide_eq_true_eq, decide_eq_true_eq] at hrange
      refine ⟨d, hd, ?_⟩
      rw [year_of_calendarYear hyear hrange.1]
      exact hrange

/-- Where doubles hold the seconds exactly, an instant is split as whole numbers are. -/
theorem checkRange_of_year {ms : Int} (h : ms.natAbs < 1000 * 2 ^ 38)
    (hlow : 1 ≤ (Date.ofDayNumber (ms / 1000 / 86400)).year)
    (hhigh : (Date.ofDayNumber (ms / 1000 / 86400)).year ≤ 9999) :
    checkRange ms = .ok (Civil.ofSecond (ms / 1000) (ms % 1000).toNat) := by
  obtain ⟨d, hd, hsecond⟩ := second_of_natAbs_lt h
  have hrange : (1 ≤ (Date.ofDayNumber (ms / 1000 / 86400)).year &&
      (Date.ofDayNumber (ms / 1000 / 86400)).year ≤ 9999) = true := by
    rw [Bool.and_eq_true, decide_eq_true_eq, decide_eq_true_eq]
    exact ⟨hlow, hhigh⟩
  rw [checkRange, hd]
  dsimp only
  rw [hsecond, calendarYear_of_year hlow hhigh]
  exact if_pos hrange

/-- The years that have timestamps end long before the instants that need more than 53 bits. -/
theorem natAbs_lt_of_checkRange {ms : Int} {c : Civil} (h : checkRange ms = .ok c) :
    ms.natAbs < 2 ^ 53 := by
  obtain ⟨d, hd, hlow, hhigh⟩ := checkRange_eq_ok h
  have hbounds := Date.year_bounds (d.second / 86400)
  by_contra hfar
  have hsecond := le_natAbs_second (Nat.le_of_not_lt hfar) hd
  omega

theorem Clock.monotonic_isOk {c : Clock} {ts : String} (h : c.timestamp = .ok ts) :
    ∃ x, c.monotonic = .ok x := by
  simp only [timestamp, RuleLedger.timestamp, bind_eq_ok] at h
  obtain ⟨civil, hc, -⟩ := h
  obtain ⟨x, hx, -⟩ := Number.toFloat_of_natAbs_lt (natAbs_lt_of_checkRange hc)
  exact ⟨x, hx⟩

end RuleLedger
