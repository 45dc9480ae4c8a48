import RuleLedger.Proofs.Expr.Lexemes
import RuleLedger.Proofs.Number.Exact

/-! Numbers in texts, read in two ways. The conversion trims a text and reads the whole of it; the
other reader skips blanks and takes the longest numeral that follows. Main statement: what the
conversion reads as a finite number the other reader reads as the same number, and what that reads
the conversion reads from the start of the text, unless an information separator is among the
blanks. -/
namespace RuleLedger

variable {cs t rest : List Symbol} {c : Symbol} {n : Nat} {s : Text} {r : Number} {v : ℚ}

/-! ### Where numerals end -/

namespace Numeral

/-- The symbols of numerals beside digits. -/
def marks : List Symbol := [.char '.', .char 'e', .char 'E', .char '+', .char '-']

/-- A text that no numeral before it goes on with. -/
def Ends (cs : List Symbol) : Prop := ∀ c ∈ cs.head?, Text.isDecimal c = false ∧ c ∉ marks

theorem Ends.ne_cons (h : Ends cs) (hc : c ∈ marks) : cs ≠ c :: rest := by
  rintro rfl
  exact (h c rfl).2 hc

theorem ends_of_isBlank (h : ∀ c ∈ cs, Text.isBlank c = true) : Ends cs := by
  have hmarks : ∀ d ∈ marks, 0x20 < d.code ∧ d.code < 0x85 := by decide
  intro c hc
  have hblank := h c (List.mem_of_mem_head? hc)
  refine ⟨Expr.isDecimal_of_isBlank hblank, fun hmark => ?_⟩
  have hcode := Expr.code_of_isBlank hblank
  have := hmarks c hmark
  omega

theorem digitCount_append (h : Ends rest) : digitCount (t ++ rest) = digitCount t := by
  have hlength : ((t ++ []).takeWhile Text.isDecimal).length ≤ t.length := by
    rw [List.append_nil]
    exact digitCount_le t
  rw [digitCount, takeWhile_append_congr hlength fun c hc => (h c hc).1, List.append_nil,
    digitCount]

theorem signLength_append_ends (h : Ends rest) : signLength (t ++ rest) = signLength t := by
  cases t with
  | cons c t => rfl
  | nil =>
    cases rest with
    | nil => rfl
    | cons c rest =>
      refine if_neg fun hsign => (h c rfl).2 ?_
      rw [Bool.or_eq_true, decide_eq_true_eq, decide_eq_true_eq] at hsign
      obtain rfl | rfl := hsign <;> decide

theorem mantissaLength?_append (h : Ends rest) :
    mantissaLength? (t ++ rest) = mantissaLength? t := by
  have hwhole := digitCount_append (t := t) h
  have hdrop : (t ++ rest).drop (digitCount t) = t.drop (digitCount t) ++ rest :=
    List.drop_append_of_le_length (digitCount_le t)
  by_cases hpoint : ∃ more, t.drop (digitCount t) = .char '.' :: more
  · obtain ⟨more, hmore⟩ := hpoint
    rw [hmore, List.cons_append] at hdrop
    rw [mantissaLength?_point (hwhole ▸ hdrop), mantissaLength?_point hmore, hwhole,
      digitCount_append h]
  · have hnone := not_exists.1 hpoint
    have hplain : ∀ more, (t ++ []).drop (digitCount t) ≠ .char '.' :: more := by
      rwa [List.append_nil]
    have hnone' (more : List Symbol) : (t ++ rest).drop (digitCount t) ≠ .char '.' :: more :=
      drop_append_ne (digitCount_le t) hplain (h.ne_cons (by decide))
    rw [mantissaLength?_whole (hwhole ▸ hnone'), mantissaLength?_whole hnone, hwhole]

theorem powerLength_append (h : Ends rest) : powerLength (t ++ rest) = powerLength t := by
  cases t with
  | cons c t =>
    have hdrop : (t ++ rest).drop (signLength t) = t.drop (signLength t) ++ rest :=
      List.drop_append_of_le_length (signLength_le t)
    simp only [List.cons_append, powerLength, signLength_append_ends h, hdrop, digitCount_append h]
  | nil =>
    cases rest with
    | nil => rfl
    | cons c rest =>
      refine if_neg fun hletter => (h c rfl).2 ?_
      rw [Bool.or_eq_true, decide_eq_true_eq, decide_eq_true_eq] at hletter
      obtain rfl | rfl := hletter <;> decide

/-- What ends a numeral has no part in it. -/
theorem length?_append (h : Ends rest) : length? (t ++ rest) = length? t := by
  rw [length?, length?, mantissaLength?_append h]
  cases hm : mantissaLength? t with
  | none => rfl
  | some m =>
    have hdrop : (t ++ rest).drop m = t.drop m ++ rest :=
      List.drop_append_of_le_length (mantissaLength?_bounds hm).2
    rw [Option.map_some, Option.map_some, hdrop, powerLength_append h]

theorem signedLength?_append (h : Ends rest) : signedLength? (t ++ rest) = signedLength? t := by
  have hdrop : (t ++ rest).drop (signLength t) = t.drop (signLength t) ++ rest :=
    List.drop_append_of_le_length (signLength_le t)
  rw [signedLength?, signLength_append_ends h, hdrop, length?_append h, signedLength?]

theorem signedLength?_bounds (h : signedLength? cs = some n) : 0 < n ∧ n ≤ cs.length := by
  obtain ⟨m, hm, rfl⟩ := Option.map_eq_some_iff.1 h
  have hbounds := length?_bounds hm
  rw [List.length_drop] at hbounds
  omega

/-- A numeral is one without the text behind it. -/
theorem signedLength?_of_append (h : signedLength? (t ++ rest) = some t.length) :
    signedLength? t = some t.length := by
  have hne : t ≠ [] := List.length_pos_iff.1 (signedLength?_bounds h).1
  obtain ⟨m, hm, hlength⟩ := Option.map_eq_some_iff.1 h
  rw [signLength_append hne, List.drop_append_of_le_length (signLength_le t)] at hm
  rw [signLength_append hne] at hlength
  have hdrop : (t.drop (signLength t)).length = m := by
    rw [List.length_drop]
    omega
  rw [← hdrop] at hm
  have hnumeral : length? (t.drop (signLength t) ++ []) = some (t.drop (signLength t)).length :=
    length?_congr hm nofun
  rw [List.append_nil, hdrop] at hnumeral
  rw [signedLength?, hnumeral, Option.map_some, hlength]

theorem signedLength?_take (h : signedLength? cs = some n) :
    signedLength? (cs.take n) = some (cs.take n).length := by
  have hwhole : signedLength? (cs.take n ++ cs.drop n) = some (cs.take n).length := by
    rw [List.take_append_drop, List.length_take_of_le (signedLength?_bounds h).2, h]
  exact signedLength?_of_append hwhole

/-- A numeral does not end with a blank. -/
theorem not_isBlank_getLast (h : signedLength? cs = some cs.length) (hne : cs ≠ []) :
    Text.isBlank (cs.getLast hne) = false := by
  by_contra hblank
  rw [Bool.not_eq_false] at hblank
  have hlast : ∀ c ∈ [cs.getLast hne], Text.isBlank c = true := List.forall_mem_singleton.2 hblank
  rw [← List.dropLast_append_getLast hne, signedLength?_append (ends_of_isBlank hlast)] at h
  have hbounds := (signedLength?_bounds h).2
  rw [List.length_append, List.length_singleton] at hbounds
  omega

end Numeral

/-! ### Blanks around a text -/

namespace Text

/-- The blanks that a text starts with. -/
def margin (s : Text) : List Symbol := s.toList.takeWhile isBlank

/-- A text behind its margin. -/
def body (s : Text) : List Symbol := s.toList.dropWhile isBlank

theorem margin_append_body (s : Text) : s.margin ++ s.body = s.toList :=
  List.takeWhile_append_dropWhile

theorem isBlank_margin (hc : c ∈ s.margin) : isBlank c = true := List.mem_takeWhile_imp hc

theorem isBlank_head_body (hne : s.body ≠ []) : isBlank (s.body.head hne) = false :=
  List.head_dropWhile_not isBlank hne

/-- What is behind the margin ends with the blanks that trimming takes away there. -/
theorem exists_body_eq (s : Text) :
    ∃ after, s.body = trim s.toList ++ after ∧ ∀ c ∈ after, isBlank c = true := by
  refine ⟨(s.body.reverse.takeWhile isBlank).reverse, ?_, fun c hc => ?_⟩
  · change s.body = (s.body.reverse.dropWhile isBlank).reverse ++ _
    rw [← List.reverse_append, List.takeWhile_append_dropWhile, List.reverse_reverse]
  · exact List.mem_takeWhile_imp (List.mem_reverse.1 hc)

theorem isBlankText_of_trim (h : trim s.toList = []) : s.isBlankText = true := by
  obtain ⟨after, hafter, hblanks⟩ := exists_body_eq s
  rw [h, List.nil_append] at hafter
  have hnil : s.body = [] := by
    by_contra hne
    have hhead := hblanks (s.body.head hne) (by simp [← hafter])
    rw [isBlank_head_body hne] at hhead
    cases hhead
  rw [isBlankText, List.all_eq_true]
  exact List.dropWhile_eq_nil_iff.1 hnil

/-- Trimming gives back a text without blanks at its ends that was put behind blanks. -/
theorem trim_blanks_append {blanks : List Symbol} (hblanks : ∀ c ∈ blanks, isBlank c = true)
    (hne : t ≠ []) (hhead : isBlank (t.head hne) = false)
    (hlast : isBlank (t.getLast hne) = false) : trim (blanks ++ t) = t := by
  have hkeep {l : List Symbol} (hl : l ≠ []) (h : isBlank (l.head hl) = false) :
      l.dropWhile isBlank = l := by
    obtain ⟨c, l, rfl⟩ := List.exists_cons_of_ne_nil hl
    exact List.dropWhile_cons_of_neg (by simpa using h)
  have hreverse : t.reverse ≠ [] := by simpa using hne
  have hhead' : isBlank (t.reverse.head hreverse) = false := by rwa [List.head_reverse]
  rw [trim, List.dropWhile_append_of_pos hblanks, hkeep hne hhead, hkeep hreverse hhead',
    List.reverse_reverse]

end Text

/-! ### The two readers -/

namespace Value

/-- A numeral between blanks is converted to its double. -/
theorem numberOfText_of_numeral
    (h : Numeral.signedLength? (Text.trim s.toList) = some (Text.trim s.toList).length) :
    numberOfText s = (Number.float (Numeral.signedFloat (Text.trim s.toList))).normalize := by
  have hword {w : Text} (hw : Numeral.signedLength? w.toList = none) :
      Text.trim s.toList ≠ w.toList := by
    intro he
    rw [he, hw] at h
    cases h
  have hne : (Text.trim s.toList).isEmpty = false :=
    List.isEmpty_eq_false_iff.2 (List.length_pos_iff.1 (Numeral.signedLength?_bounds h).1)
  have hplain : ["Infinity", "+Infinity"].any
      (fun w => Text.ofList (Text.trim s.toList) == Text.ofString w) = false := by
    have hnone : ∀ w ∈ ["Infinity", "+Infinity"],
        Numeral.signedLength? (Text.ofString w).toList = none := by decide
    refine List.any_eq_false.2 fun w hw => ?_
    rw [beq_iff_eq]
    exact fun he => hword (hnone w hw) (congrArg Text.toList he)
  rw [numberOfText, hne, if_neg Bool.false_ne_true, hplain, if_neg Bool.false_ne_true,
    if_neg (hword (by decide)), if_pos h]

/-- A numeral of moderate size that is whole is converted to an integer. -/
theorem numberOfText_eq_int {k : Int}
    (h : Numeral.signedLength? (Text.trim s.toList) = some (Text.trim s.toList).length)
    (heq : (Number.int k).eq (.float (Numeral.signedFloat (Text.trim s.toList))) = true)
    (hk : k.natAbs < Number.exactBound) : numberOfText s = .int k := by
  rw [numberOfText_of_numeral h, ((Number.hasValue_int k).of_eq heq).normalize_eq hk]

/-- A text that is converted to a finite number is blank or spells a numeral. -/
theorem numeral_of_hasValue (h : (numberOfText s).HasValue v) (hs : s.isBlankText = false) :
    Numeral.signedLength? (Text.trim s.toList) = some (Text.trim s.toList).length := by
  have hfinite {x : Float} (hx : Dyadic.ofFloat? x = none) : ¬(Number.float x).HasValue v := by
    rintro ⟨d, hd, -⟩
    rw [hx] at hd
    cases hd
  have hne : (Text.trim s.toList).isEmpty = false := by
    rw [List.isEmpty_eq_false_iff]
    intro hnil
    rw [Text.isBlankText_of_trim hnil] at hs
    cases hs
  rw [numberOfText, hne, if_neg Bool.false_ne_true] at h
  split_ifs at h with hpositive hnegative hnumeral
  · exact absurd h (hfinite (by decide +kernel))
  · exact absurd h (hfinite (by decide +kernel))
  · exact hnumeral
  · exact absurd h (hfinite (by decide +kernel))

/-- Whether an information separator is among the blanks that a text starts with. -/
def isSeparated (s : Text) : Bool := s.margin.any Text.isSeparator

theorem parseFloat_of_none (h : Numeral.signedLength? s.body = none) :
    parseFloat (.str s) = .ok (.num Number.nan) := by
  have hlength : Numeral.signedLength? (s.toList.dropWhile Text.isBlank) = none := h
  have htext : (Value.str s).toText = .ok s := rfl
  rw [parseFloat, htext]
  simp only [bind, Except.bind, hlength]
  rfl

theorem parseFloat_of_some (h : Numeral.signedLength? s.body = some n) :
    parseFloat (.str s) =
      if isSeparated s then .error (.notNumeral (Text.quoted ⟨s.margin ++ s.body.take n⟩))
      else .ok (.num (Number.float (Numeral.signedFloat (s.body.take n))).normalize) := by
  have hlength : Numeral.signedLength? (s.toList.dropWhile Text.isBlank) = some n := h
  have htext : (Value.str s).toText = .ok s := rfl
  rw [parseFloat, htext]
  simp only [bind, Except.bind, hlength]
  rfl

/-- The numeral that a text starts with behind its margin is converted to its double. -/
theorem numberOfText_margin_append (h : Numeral.signedLength? s.body = some n) :
    numberOfText ⟨s.margin ++ s.body.take n⟩ =
      (Number.float (Numeral.signedFloat (s.body.take n))).normalize := by
  have hnumeral := Numeral.signedLength?_take h
  have hne : s.body.take n ≠ [] :=
    List.length_pos_iff.1 (Numeral.signedLength?_bounds hnumeral).1
  have hhead : Text.isBlank ((s.body.take n).head hne) = false := by
    rw [List.head_take]
    exact Text.isBlank_head_body _
  have htrim : Text.trim (s.margin ++ s.body.take n) = s.body.take n :=
    Text.trim_blanks_append (fun c hc => Text.isBlank_margin hc) hne hhead
      (Numeral.not_isBlank_getLast hnumeral hne)
  have hread := numberOfText_of_numeral (s := ⟨s.margin ++ s.body.take n⟩)
  rw [htrim] at hread
  exact hread hnumeral

/-- A numeral between blanks is the longest numeral behind the margin. -/
theorem signedLength?_body
    (h : Numeral.signedLength? (Text.trim s.toList) = some (Text.trim s.toList).length) :
    Numeral.signedLength? s.body = some (Text.trim s.toList).length ∧
      s.body.take (Text.trim s.toList).length = Text.trim s.toList := by
  obtain ⟨after, hafter, hblanks⟩ := Text.exists_body_eq s
  rw [hafter, Numeral.signedLength?_append (Numeral.ends_of_isBlank hblanks), List.take_left]
  exact ⟨h, rfl⟩

/-- What the conversion reads as a finite number in a text that is not blank, the other reader takes
for the same number, or refuses for a separator. -/
theorem parseFloat_of_hasValue (h : (numberOfText s).HasValue v) (hs : s.isBlankText = false) :
    parseFloat (.str s) =
      if isSeparated s then .error (.notNumeral (Text.quoted ⟨s.margin ++ Text.trim s.toList⟩))
      else .ok (.num (numberOfText s)) := by
  have hnumeral := numeral_of_hasValue h hs
  obtain ⟨hlength, htake⟩ := signedLength?_body hnumeral
  rw [parseFloat_of_some hlength, htake, numberOfText_of_numeral hnumeral]

/-- What the other reader takes for a number, the conversion reads from the start of the text. -/
theorem exists_start_of_parseFloat (h : parseFloat (.str s) = .ok (.num r)) (hr : r.isNaN = false) :
    ∃ t rest : Text, s = t ++ rest ∧ (Value.str t).toNumber = r := by
  cases hn : Numeral.signedLength? s.body with
  | none =>
    rw [parseFloat_of_none hn] at h
    obtain rfl : Number.nan = r := by simpa using h
    cases hr
  | some n =>
    rw [parseFloat_of_some hn] at h
    split_ifs at h
    obtain rfl : (Number.float (Numeral.signedFloat (s.body.take n))).normalize = r := by
      simpa using h
    refine ⟨⟨s.margin ++ s.body.take n⟩, ⟨s.body.drop n⟩, ?_, numberOfText_margin_append hn⟩
    have hwhole : s.margin ++ s.body.take n ++ s.body.drop n = s.toList := by
      rw [List.append_assoc, List.take_append_drop, Text.margin_append_body]
    exact (congrArg Text.ofList hwhole).symm

/-- Only a separator before a numeral is a fault. -/
theorem parseFloat_of_not_separated (hseparated : isSeparated s = false) :
    ∃ r : Number, parseFloat (.str s) = .ok (.num r) := by
  cases hn : Numeral.signedLength? s.body with
  | none => exact ⟨_, parseFloat_of_none hn⟩
  | some n => exact ⟨_, by rw [parseFloat_of_some hn, hseparated, if_neg Bool.false_ne_true]⟩

/-- The two readers of numbers agree on every text without an information separator among the blanks
that it starts with: what the conversion reads as a finite number in a text that is not blank, the
other reader reads as the same number. Whatever the text, a number that the other reader takes is
what the conversion reads from the start of the text. With a separator there, the other reader is at
fault on every number that is converted. -/
theorem readers_agree (s : Text) :
    (isSeparated s = false → s.isBlankText = false → ∀ v, (Value.str s).toNumber.HasValue v →
      parseFloat (.str s) = .ok (.num (Value.str s).toNumber)) ∧
    (∀ r : Number, parseFloat (.str s) = .ok (.num r) → r.isNaN = false →
      ∃ t rest : Text, s = t ++ rest ∧ (Value.str t).toNumber = r) ∧
    (isSeparated s = false → ∃ r : Number, parseFloat (.str s) = .ok (.num r)) ∧
    (isSeparated s = true → s.isBlankText = false → ∀ v, (Value.str s).toNumber.HasValue v →
      ∃ shown, parseFloat (.str s) = .error (.notNumeral shown)) := by
  refine ⟨fun hseparated hs v hv => ?_, fun r h hr => exists_start_of_parseFloat h hr,
    parseFloat_of_not_separated,
    fun hseparated hs v hv => ⟨Text.quoted ⟨s.margin ++ Text.trim s.toList⟩, ?_⟩⟩
  · rw [parseFloat_of_hasValue hv hs, hseparated, if_neg Bool.false_ne_true]
    rfl
  · rw [parseFloat_of_hasValue hv hs, hseparated, if_pos rfl]

/-- A number between blanks that both readers skip, and one behind a separator: it is converted, but
is a fault to the other reader. -/
theorem readers_agree_between_blanks :
    (∃ s : Text, s = "\u2003-1.5e1\u3000" ∧ isSeparated s = false ∧ s.isBlankText = false ∧
      (Value.str s).toNumber.HasValue (-15 : Int) ∧
      parseFloat (.str s) = .ok (.num (.int (-15))) ∧ (Number.int (-15)).isNaN = false ∧
      ∃ t rest : Text, s = t ++ rest ∧ (Value.str t).toNumber = .int (-15)) ∧
    ∃ s : Text, s = "\x1C1" ∧ isSeparated s = true ∧ s.isBlankText = false ∧
      (Value.str s).toNumber.HasValue (1 : Int) ∧
      ∃ shown, parseFloat (.str s) = .error (.notNumeral shown) := by
  refine ⟨⟨"\u2003-1.5e1\u3000", rfl, ?_⟩, "\x1C1", rfl, ?_⟩
  · have hnumber : (Value.str "\u2003-1.5e1\u3000").toNumber = .int (-15) :=
      numberOfText_eq_int (by decide +kernel) (by decide +kernel) (by decide)
    have hvalue : (Value.str "\u2003-1.5e1\u3000").toNumber.HasValue (-15 : Int) :=
      hnumber ▸ Number.hasValue_int (-15)
    have hseparated : isSeparated "\u2003-1.5e1\u3000" = false := by decide +kernel
    have hs : Text.isBlankText "\u2003-1.5e1\u3000" = false := by decide +kernel
    have hread := (readers_agree "\u2003-1.5e1\u3000").1 hseparated hs _ hvalue
    rw [hnumber] at hread
    exact ⟨hseparated, hs, hvalue, hread, rfl, (readers_agree _).2.1 _ hread rfl⟩
  · have hnumber : (Value.str "\x1C1").toNumber = .int 1 :=
      numberOfText_eq_int (by decide +kernel) (by decide +kernel) (by decide)
    have hvalue : (Value.str "\x1C1").toNumber.HasValue (1 : Int) :=
      hnumber ▸ Number.hasValue_int 1
    have hseparated : isSeparated "\x1C1" = true := by decide +kernel
    have hs : Text.isBlankText "\x1C1" = false := by decide +kernel
    exact ⟨hseparated, hs, hvalue, (readers_agree _).2.2.2 hseparated hs _ hvalue⟩

end Value
end RuleLedger
