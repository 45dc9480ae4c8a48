import RuleLedger.Proofs.Json.Unambiguous
import RuleLedger.Proofs.Number.Nearest

/-! Numbers in documents. Main statement: a number that is written is read back, whatever follows
its numeral. -/
namespace RuleLedger
namespace Json

open Decimal (AllDigits)

variable {ds rest : List Char} {c : Char}

/-! ### Digits -/

theorem isAsciiDigit_eq (c : Char) : isAsciiDigit c = c.isDigit := by
  rw [isAsciiDigit, Char.isDigit]
  rfl

/-- Whether a text does not start with a digit. -/
def EndsDigits (rest : List Char) : Prop := ∀ c ∈ rest.head?, c.isDigit = false

/-- Whether a numeral ends where a text starts. -/
def EndsNumber (rest : List Char) : Prop :=
  EndsDigits rest ∧ ∀ c ∈ rest.head?, c ≠ '.' ∧ c ≠ 'e' ∧ c ≠ 'E'

theorem takeWhile_digits (h : AllDigits ds) (hr : EndsDigits rest) :
    (ds ++ rest).takeWhile isAsciiDigit = ds ∧ (ds ++ rest).dropWhile isAsciiDigit = rest := by
  have hds : ∀ c ∈ ds, isAsciiDigit c = true := fun c hc => (isAsciiDigit_eq c).trans (h c hc)
  rw [List.takeWhile_append_of_pos hds, List.dropWhile_append_of_pos hds]
  cases rest with
  | nil => simp
  | cons c rest =>
    have hc : ¬isAsciiDigit c = true := by
      rw [isAsciiDigit_eq, hr c rfl]
      exact Bool.false_ne_true
    rw [List.takeWhile_cons_of_neg hc, List.dropWhile_cons_of_neg hc, List.append_nil]
    exact ⟨rfl, rfl⟩

theorem digitValue?_of_isDigit (h : c.isDigit = true) :
    Text.digitValue? (.char c) = some (c.toNat - 48) := by
  have hc := Decimal.toNat_of_isDigit h
  have hfirst : Text.zeros.find? (fun z => z ≤ c.toNat && c.toNat < z + 10) = some 48 := by
    rw [← Array.find?_toList, Text.zeros, List.find?_cons_of_pos]
    simp
    omega
  rw [Text.digitValue?, Symbol.code, hfirst]
  rfl

theorem digitsValue_map (h : AllDigits ds) :
    Text.digitsValue (ds.map .char) = Nat.ofDigitChars 10 ds 0 := by
  rw [Text.digitsValue, List.foldl_map, Nat.ofDigitChars_eq_foldl]
  refine List.foldl_ext _ _ _ fun n c hc => ?_
  rw [digitValue?_of_isDigit (h c hc)]
  rfl

/-- No decimal numeral of a positive number starts with a zero. -/
theorem toDigits_head_ne {n : Nat} (hn : 0 < n) :
    ∃ c tail, Nat.toDigits 10 n = c :: tail ∧ c ≠ '0' := by
  induction n using Nat.strongRecOn with
  | _ n ih =>
  rw [Nat.toDigits_eq_if (by decide)]
  split_ifs with h
  · refine ⟨_, _, rfl, ?_⟩
    interval_cases n <;> decide
  · obtain ⟨c, tail, htail, hc⟩ := ih (n / 10) (by omega) (by omega)
    rw [htail]
    exact ⟨c, _, rfl, hc⟩

/-! ### The parts of a numeral -/

theorem fractionPart_point (h : AllDigits ds) (hne : ds ≠ []) (hr : EndsDigits rest) :
    fractionPart ('.' :: (ds ++ rest)) = (ds, rest) := by
  obtain ⟨htake, hdrop⟩ := takeWhile_digits h hr
  rw [fractionPart, htake, hdrop]
  exact if_neg (by simpa using hne)

theorem fractionPart_of_ne (h : ∀ c ∈ rest.head?, c ≠ '.') : fractionPart rest = ([], rest) := by
  unfold fractionPart
  split
  · exact absurd rfl (h '.' rfl)
  · rfl

theorem exponentPart_of_ends (h : EndsNumber rest) : exponentPart rest = (none, rest) := by
  cases rest with
  | nil => rfl
  | cons c rest =>
    obtain ⟨-, he, hE⟩ := h.2 c rfl
    unfold exponentPart
    exact if_neg (by simp [he, hE])

theorem exponentDigits_eq (negative : Bool) (all : List Char) (h : AllDigits ds) (hne : ds ≠ [])
    (hr : EndsDigits rest) :
    exponentDigits negative all (ds ++ rest) =
      (some (if negative then -(Nat.ofDigitChars 10 ds 0 : Int) else Nat.ofDigitChars 10 ds 0),
        rest) := by
  obtain ⟨htake, hdrop⟩ := takeWhile_digits h hr
  rw [exponentDigits, htake, hdrop, digitsValue_map h]
  exact if_neg (by simpa using hne)

theorem exponentPart_powerText (p : Int) (hr : EndsDigits rest) :
    exponentPart ('e' :: (Decimal.powerText p ++ rest)) = (some p, rest) := by
  have hpower := Decimal.power_powerText p
  obtain ⟨sign, ds, hp, hsign, hds⟩ := Decimal.allDigits_powerText p
  have hne : ds ≠ [] := by
    rintro rfl
    have hlength := congrArg List.length hp
    rw [Decimal.powerText] at hlength
    split_ifs at hlength <;> simp at hlength
  rw [hp] at hpower ⊢
  obtain rfl | rfl := hsign
  · rw [Decimal.power] at hpower
    change exponentDigits false _ (ds ++ rest) = _
    rw [exponentDigits_eq false _ hds hne hr, ← hpower]
    rfl
  · rw [Decimal.power] at hpower
    change exponentDigits true _ (ds ++ rest) = _
    rw [exponentDigits_eq true _ hds hne hr, ← hpower]
    rfl

/-! ### Numerals -/

/-- A numeral is read from its whole digits on; a zero in front stands alone. -/
theorem readNumber_whole {tail : List Char} (h : AllDigits (c :: tail)) (h0 : c = '0' → tail = [])
    (hr : EndsDigits rest) (negative : Bool) :
    readNumber ((if negative then ['-'] else []) ++ (c :: tail ++ rest)) =
      readNumberTail negative (c :: tail) rest := by
  have hc : c ≠ '-' := by
    rintro rfl
    exact absurd (h '-' List.mem_cons_self) (by decide)
  by_cases hzero : c = '0'
  · obtain rfl := h0 hzero
    subst hzero
    cases negative <;> rfl
  · obtain ⟨htake, hdrop⟩ := takeWhile_digits h hr
    have hwhole (all : List Char) (negative : Bool) :
        (if ((c :: tail ++ rest).takeWhile isAsciiDigit).isEmpty then stop "Expecting value" all
          else readNumberTail negative ((c :: tail ++ rest).takeWhile isAsciiDigit)
            ((c :: tail ++ rest).dropWhile isAsciiDigit)) =
        readNumberTail negative (c :: tail) rest := by
      rw [htake, hdrop]
      rfl
    cases negative
    · rw [readNumber.eq_def]
      split
      rename_i negative cs heq
      split at heq
      · rename_i cs' hcs
        exact absurd (List.cons.inj hcs).1 hc
      · obtain ⟨rfl, rfl⟩ := Prod.mk.inj heq
        split
        · rename_i heq
          exact absurd (List.cons.inj heq).1 hzero
        · exact hwhole _ false
    · rw [readNumber.eq_def]
      dsimp only
      split
      · rename_i heq
        exact absurd (List.cons.inj heq).1 hzero
      · exact hwhole _ true

theorem readNumberTail_int (negative : Bool) (h : AllDigits ds) (hlength : ds.length ≤ digitLimit)
    (hr : EndsNumber rest) :
    readNumberTail negative ds rest =
      .ok (.int (signed negative (Nat.ofDigitChars 10 ds 0)), rest) := by
  have hdigits : readDigits (ds.map .char) = .ok (Nat.ofDigitChars 10 ds 0) := by
    rw [readDigits, if_neg (by simpa using hlength), digitsValue_map h]
  rw [readNumberTail, fractionPart_of_ne fun c hc => (hr.2 c hc).1]
  dsimp only
  rw [exponentPart_of_ends hr, if_pos (by rfl), hdigits]

/-- The decimal of digits with a fraction. -/
theorem readNumberTail_point (negative : Bool) {as bs : List Char} (ha : AllDigits as)
    (hb : AllDigits bs) (hne : bs ≠ []) (hr : EndsNumber rest) :
    readNumberTail negative as ('.' :: (bs ++ rest)) =
      .ok (.float (Binary64.withSign negative
        (Decimal.mk (Nat.ofDigitChars 10 (as ++ bs) 0) (-bs.length)).toFloat), rest) := by
  rw [readNumberTail, fractionPart_point hb hne hr.1]
  dsimp only
  rw [exponentPart_of_ends hr, if_neg (by simpa using hne), digitsValue_map (ha.append hb)]
  simp

/-- The decimal of digits with a power of ten, and a fraction or none. -/
theorem readNumberTail_power (negative : Bool) {as bs : List Char} (ha : AllDigits as)
    (hb : AllDigits bs) (p : Int) (hr : EndsDigits rest) :
    readNumberTail negative as
        ((if bs.isEmpty then [] else '.' :: bs) ++ 'e' :: (Decimal.powerText p ++ rest)) =
      .ok (.float (Binary64.withSign negative
        (Decimal.mk (Nat.ofDigitChars 10 (as ++ bs) 0) (p - bs.length)).toFloat), rest) := by
  have hfraction : fractionPart
      ((if bs.isEmpty then [] else '.' :: bs) ++ 'e' :: (Decimal.powerText p ++ rest)) =
        (bs, 'e' :: (Decimal.powerText p ++ rest)) := by
    cases bs with
    | nil => exact fractionPart_of_ne (by simp)
    | cons b bs => exact fractionPart_point hb (by simp) (by simp [EndsDigits])
  rw [readNumberTail, hfraction]
  dsimp only
  rw [exponentPart_powerText p hr, if_neg (by simp), digitsValue_map (ha.append hb)]
  rfl

/-- That a numeral without a sign is read as a decimal. -/
def ReadsAs (cs : List Char) (d : Decimal) : Prop :=
  ∀ (negative : Bool) {rest : List Char}, EndsNumber rest →
    readNumber ((if negative then ['-'] else []) ++ (cs ++ rest)) =
      .ok (.float (Binary64.withSign negative d.toFloat), rest)

theorem readsAs_point {tail bs : List Char} (ha : AllDigits (c :: tail)) (h0 : c = '0' → tail = [])
    (hb : AllDigits bs) (hne : bs ≠ []) :
    ReadsAs (c :: tail ++ '.' :: bs) ⟨Nat.ofDigitChars 10 (c :: tail ++ bs) 0, -bs.length⟩ := by
  intro negative rest hr
  have hpoint : EndsDigits ('.' :: (bs ++ rest)) := by simp [EndsDigits]
  have hread := readNumber_whole ha h0 hpoint negative
  rw [readNumberTail_point negative ha hb hne hr] at hread
  rw [List.append_assoc]
  exact hread

theorem readsAs_scientific {tail : List Char} (hd : AllDigits (c :: tail)) (p : Int) :
    ReadsAs (scientific (c :: tail) p)
      ⟨Nat.ofDigitChars 10 (c :: tail) 0, p + 1 - (c :: tail).length⟩ := by
  intro negative rest hr
  have ha : AllDigits [c] := fun a ha => hd a (by simp_all)
  have ht : AllDigits tail := fun a ha => hd a (List.mem_cons_of_mem _ ha)
  have hends : EndsDigits ((if tail.isEmpty then [] else '.' :: tail) ++
      'e' :: (Decimal.powerText p ++ rest)) := by
    cases tail <;> simp [EndsDigits]
  have hread := readNumber_whole ha (fun _ => rfl) hends negative
  rw [readNumberTail_power negative ha ht p hr.1] at hread
  rw [Decimal.scientific_cons]
  simp only [List.cons_append, List.nil_append, List.append_assoc] at hread ⊢
  have hexponent : p + 1 - (tail.length + 1 : Nat) = p - tail.length := by
    push_cast
    ring
  rw [hread, List.length_cons, hexponent]

theorem readsAs_positional {tail : List Char} (hd : AllDigits (c :: tail)) (hc : c ≠ '0')
    (p : Int) :
    ∃ d, ReadsAs (positional (c :: tail) p) d ∧
      d.value = Decimal.spelled (positional (c :: tail) p) ∧
      min (-1) (p - (c :: tail).length) ≤ d.exponent := by
  have hz : AllDigits ['0'] := Decimal.allDigits_zeros 1
  rw [positional]
  split_ifs with h₁ h₂
  · have hb : AllDigits (List.replicate (-p).toNat '0' ++ c :: tail) :=
      (Decimal.allDigits_zeros (-p).toNat).append hd
    refine ⟨_, readsAs_point hz (fun _ => rfl) hb (by simp),
      (Decimal.spelled_point hz hb).symm, ?_⟩
    change _ ≤ -((List.replicate (-p).toNat '0' ++ c :: tail).length : Int)
    rw [List.length_append, List.length_replicate]
    push_cast
    omega
  · obtain ⟨k, hk⟩ : ∃ k, p.toNat = k + 1 := ⟨p.toNat - 1, by omega⟩
    have ha : AllDigits ((c :: tail).take p.toNat) := fun a ha => hd a (List.mem_of_mem_take ha)
    have hb : AllDigits ((c :: tail).drop p.toNat) := fun a ha => hd a (List.mem_of_mem_drop ha)
    have hne : (c :: tail).drop p.toNat ≠ [] := by simpa using h₂
    have hvalue := Decimal.spelled_point ha hb
    rw [hk, List.take_succ_cons] at ha hvalue ⊢
    rw [hk] at hb hne
    refine ⟨_, readsAs_point ha (fun h => absurd h hc) hb hne, hvalue.symm, ?_⟩
    simp only [List.length_drop]
    omega
  · have ha := hd.append (Decimal.allDigits_zeros (p.toNat - (c :: tail).length))
    exact ⟨_, readsAs_point ha (fun h => absurd h hc) hz (by simp),
      (Decimal.spelled_point ha hz).symm, by simp⟩

/-- The numeral of a double that is not zero is read as a decimal that rounds to it. -/
theorem readsAs_magnitudeText {d : Dyadic} (hn : Dyadic.Normal d.mantissa d.exponent)
    (hm : d.mantissa ≠ 0) :
    ∃ r, ReadsAs (magnitudeText d) r ∧ r.value = (Decimal.shortest d).value ∧
      -400 ≤ r.exponent := by
  have hpos : 0 < (Decimal.shortest d).digits := by
    have hvalue := (Decimal.roundsTo_shortest hn (Nat.pos_of_ne_zero hm)).pos
      (Nat.pos_of_ne_zero hm)
    refine Nat.pos_of_ne_zero fun h0 => ?_
    rw [Decimal.value, h0, Nat.cast_zero, zero_mul] at hvalue
    exact hvalue.false
  obtain ⟨c, tail, htext, hc⟩ := toDigits_head_ne hpos
  have hdigits : (toString (Decimal.shortest d).digits).toList = c :: tail := by
    rw [Nat.toString_eq_repr, Nat.toList_repr, htext]
  have hd : AllDigits (c :: tail) := htext ▸ Decimal.allDigits_toDigits _
  have hvalue : Nat.ofDigitChars 10 (c :: tail) 0 = (Decimal.shortest d).digits := by
    rw [← htext, Nat.ofDigitChars_ten_toDigits]
  have hexponent := Decimal.le_exponent_shortest hn
  rw [← spelled_magnitudeText hm, magnitudeText, if_neg hm]
  dsimp only
  rw [hdigits]
  split_ifs
  · obtain ⟨r, hr, hspelled, hle⟩ := readsAs_positional hd hc
      ((Decimal.shortest d).exponent + (c :: tail).length)
    exact ⟨r, hr, hspelled, by omega⟩
  · refine ⟨_, readsAs_scientific hd _, ?_, ?_⟩
    · rw [Decimal.spelled_scientific hd (by simp), Decimal.value]
    · dsimp only
      omega

/-- A finite double is read back from its text. -/
theorem readNumber_floatText {x : Float} {d : Dyadic} (h : Dyadic.ofFloat? x = some d)
    (hr : EndsNumber rest) :
    readNumber ((floatText x).toList ++ rest) = .ok (.float x, rest) := by
  have hn := Dyadic.normal_of_ofFloat? h
  rw [toList_floatText h, List.append_assoc]
  by_cases hm : d.mantissa = 0
  · have hzero := readsAs_point (Decimal.allDigits_zeros 1) (fun _ => rfl)
      (Decimal.allDigits_zeros 1) (by simp) d.negative hr
    have hq := hn.full.resolve_right (by omega)
    rw [magnitudeText, if_pos hm]
    refine hzero.trans ?_
    rw [Binary64.withSign_eq h]
    rw [hq, hm]
    decide +kernel
  · obtain ⟨r, hread, hvalue, hle⟩ := readsAs_magnitudeText hn hm
    have hm := Nat.pos_of_ne_zero hm
    rw [hread d.negative hr, Binary64.withSign_eq h]
    exact Decimal.toBits_toFloat hn hm hle (hvalue ▸ Decimal.roundsTo_shortest hn hm)

/-- An integer within the limit is read back from its text. -/
theorem readNumber_int {n : Int} (hn : n.natAbs < 10 ^ digitLimit) (hr : EndsNumber rest) :
    readNumber ((Number.int n).numeral.toList ++ rest) = .ok (.int n, rest) := by
  have hd := Decimal.allDigits_toDigits n.natAbs
  have hlength : (Nat.toDigits 10 n.natAbs).length ≤ digitLimit := by
    rw [← Nat.toList_repr, String.length_toList]
    exact (Nat.length_repr_le_iff (by decide)).2 hn
  have hvalue : signed (decide (n < 0)) n.natAbs = n := by
    by_cases h : n < 0
    · rw [decide_eq_true h, signed, if_pos rfl]
      omega
    · rw [decide_eq_false h, signed, if_neg Bool.false_ne_true]
      omega
  have htail := readNumberTail_int (decide (n < 0)) hd hlength hr
  rw [Nat.ofDigitChars_ten_toDigits, hvalue] at htail
  rw [numeral_int, List.append_assoc]
  obtain ⟨c, tail, htext, hc⟩ : ∃ c tail, Nat.toDigits 10 n.natAbs = c :: tail ∧
      (c = '0' → tail = []) := by
    by_cases h0 : n.natAbs = 0
    · exact ⟨'0', [], by rw [h0]; rfl, fun _ => rfl⟩
    · obtain ⟨c, tail, htext, hc⟩ := toDigits_head_ne (Nat.pos_of_ne_zero h0)
      exact ⟨c, tail, htext, fun h => absurd h hc⟩
  rw [htext] at hd htail ⊢
  rw [readNumber_whole hd hc hr.1, htail]

end Json
end RuleLedger
