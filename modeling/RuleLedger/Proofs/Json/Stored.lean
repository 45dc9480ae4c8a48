import RuleLedger.Proofs.Fields
import RuleLedger.Proofs.Json.Indented
import RuleLedger.Proofs.Json.Numbers

/-! Documents that are stored and read again. Main statement: the value that is read from the text
of a document is the document. -/
namespace RuleLedger
namespace Json

variable {rest : List Char} {fuel depth : Nat}

/-! ### Blanks -/

theorem skipSpace_cons {c : Char} (h : isSpace c = false) (rest : List Char) :
    skipSpace (c :: rest) = c :: rest :=
  List.dropWhile_cons_of_neg (by simp [h])

theorem skipSpace_lineBreak (depth : Nat) (rest : List Char) :
    skipSpace (lineBreak depth ++ rest) = skipSpace rest := by
  refine List.dropWhile_append_of_pos fun c hc => ?_
  rcases List.mem_cons.1 hc with rfl | hc
  · rfl
  · rw [List.eq_of_mem_replicate hc]
    rfl

/-! ### Texts -/

theorem readUnits_unitEscape {n : Nat} (h : n < 0x20) (hne : rest ≠ []) :
    readUnits ((unitEscape n).filterMap Symbol.char? ++ rest) = consUnit n (readUnits rest) := by
  have hread (a b : Char) (hn : unit? '0' '0' a b = some n) :
      readUnits ('\\' :: 'u' :: '0' :: '0' :: a :: b :: rest) = consUnit n (readUnits rest) := by
    rw [readUnits, if_neg (by simpa using hne), hn]
  interval_cases n <;> exact hread _ _ rfl

theorem readUnits_cons {c : Char} (hq : c ≠ '"') (hb : c ≠ '\\') (hc : ¬c.toNat < 0x20)
    (rest : List Char) : readUnits (c :: rest) = consUnit c.toNat (readUnits rest) := by
  rw [readUnits, if_neg hc]
  · exact hq
  all_goals
    intros
    exact hb ‹_›

/-- A character that is written is read back, if the text goes on. -/
theorem readUnits_writeSymbol (c : Char) (hne : rest ≠ []) :
    readUnits ((writeSymbol false (.char c)).filterMap Symbol.char? ++ rest) =
      consUnit c.toNat (readUnits rest) := by
  rw [writeSymbol]
  split_ifs with hq hb h₁ h₂ h₃ h₄ h₅ hc ha
  · rw [Symbol.char.inj hq]; rfl
  · rw [Symbol.char.inj hb]; rfl
  · rw [Symbol.char.inj h₁]; rfl
  · rw [Symbol.char.inj h₂]; rfl
  · rw [Symbol.char.inj h₃]; rfl
  · rw [Symbol.char.inj h₄]; rfl
  · rw [Symbol.char.inj h₅]; rfl
  · exact readUnits_unitEscape hc hne
  · simp at ha
  · exact readUnits_cons (fun h => hq (congrArg Symbol.char h))
      (fun h => hb (congrArg Symbol.char h)) hc rest

theorem readUnits_inner {s : Text} (h : s.isPlain = true) (rest : List Char) :
    readUnits (inner s ++ '"' :: rest) = .ok (s.toList.map Symbol.code, rest) := by
  obtain ⟨cs⟩ := s
  rw [Text.isPlain, List.all_eq_true] at h
  rw [inner]
  dsimp only at h ⊢
  induction cs with
  | nil => rfl
  | cons c cs ih =>
    cases c with
    | char c =>
      have hcs := ih fun a ha => h a (List.mem_cons_of_mem _ ha)
      rw [List.flatMap_cons, List.filterMap_append, List.append_assoc,
        readUnits_writeSymbol c (by simp), hcs]
      rfl
    | half s => cases h (.half s) List.mem_cons_self

/-- No character is the first half of a pair. -/
theorem joinUnits_map {cs : List Symbol} (h : Plain cs) :
    joinUnits (cs.map Symbol.code) = cs := by
  induction cs with
  | nil => rfl
  | cons c cs ih =>
    have hcs := ih fun a ha => h a (List.mem_cons_of_mem c ha)
    cases c with
    | half s => cases h (.half s) List.mem_cons_self
    | char c =>
      have hhigh : isHighSurrogate (Symbol.char c).code = false := by
        have hc := Symbol.not_isHalf_toNat c
        rw [isHighSurrogate, Symbol.code]
        simp
        omega
      cases cs with
      | nil => simp [joinUnits]
      | cons d cs =>
        rw [List.map_cons] at hcs
        rw [List.map_cons, List.map_cons, joinUnits, hcs, hhigh]
        simp

theorem readText_inner {s : Text} (h : s.isPlain = true) (opening rest : List Char) :
    readText opening (inner s ++ '"' :: rest) = .ok (s, rest) := by
  have hplain : Plain s.toList := List.all_eq_true.1 h
  rw [readText, readUnits_inner h]
  dsimp only
  rw [joinUnits_map hplain]

/-! ### Numbers -/

theorem endsNumber_cons {c : Char} (h : c ∈ [',', '\n', ']', '\x7d']) (rest : List Char) :
    EndsNumber (c :: rest) := by
  have hmarks : ∀ c ∈ [',', '\n', ']', '\x7d'],
      c.isDigit = false ∧ c ≠ '.' ∧ c ≠ 'e' ∧ c ≠ 'E' := by simp
  obtain ⟨hdigit, hrest⟩ := hmarks c h
  refine ⟨?_, ?_⟩ <;> rintro _ ⟨⟩
  · exact hdigit
  · exact hrest

/-- A digit, or a sign and a digit, start a number. -/
theorem readValue_numeral (fuel : Nat) (negative : Bool) {c : Char} (hc : c.isDigit = true)
    (rest : List Char) :
    readValue (fuel + 1) ((if negative then ['-'] else []) ++ c :: rest) =
      readNumber ((if negative then ['-'] else []) ++ c :: rest) := by
  cases negative
  · change readValue (fuel + 1) (c :: rest) = readNumber (c :: rest)
    rw [readValue]
    all_goals
      intro _ h
      obtain ⟨rfl, -⟩ := List.cons.inj h
      exact absurd hc (by decide)
  · change readValue (fuel + 1) ('-' :: c :: rest) = readNumber ('-' :: c :: rest)
    have hI : c ≠ 'I' := by
      rintro rfl
      exact absurd hc (by decide)
    rw [readValue]
    all_goals
      intro _ h
      simp [hI] at h

theorem natAbs_lt_of_isDocument {n : Int} (h : (Value.num (.int n)).isDocument = true) :
    n.natAbs < 10 ^ digitLimit := by
  rw [Value.isDocument, Value.all, Value.isPortable, decide_eq_true_eq] at h
  · exact h
  all_goals simp

/-- A number that a document may hold is read back, whatever follows its numeral. -/
theorem readValue_number {n : Number} (h : (Value.num n).isDocument = true)
    (hfuel : 2 * n.numeral.toList.length ≤ fuel) (hr : EndsNumber rest) :
    readValue fuel (n.numeral.toList ++ rest) = .ok (.num n, rest) := by
  obtain ⟨c, tail, hstart, -⟩ := numeral_start n
  obtain ⟨fuel, rfl⟩ : ∃ k, fuel = k + 1 := by
    rw [hstart, List.length_cons] at hfuel
    exact ⟨fuel - 1, by omega⟩
  cases n with
  | int n =>
    obtain ⟨d, ds, hd, hdigit⟩ := toDigits_head n.natAbs
    have hread := readNumber_int (natAbs_lt_of_isDocument h) hr
    rw [numeral_int, hd, List.append_assoc] at hread ⊢
    exact (readValue_numeral fuel _ hdigit _).trans hread
  | float x =>
    rw [Number.numeral]
    cases hx : Dyadic.ofFloat? x with
    | some d =>
      obtain ⟨a, as, ha, hdigit⟩ := (isNumeral_magnitudeText d).head
      have hread := readNumber_floatText hx hr
      rw [writeFloat_of_ofFloat? hx]
      rw [toList_floatText hx, ha, List.append_assoc] at hread ⊢
      exact (readValue_numeral fuel _ hdigit _).trans hread
    | none =>
      have hnone := Dyadic.ofFloat?_eq_none_iff.1 hx
      have hread (s : String) (y : Float) (hs : readValue (fuel + 1) (s.toList ++ rest) =
          .ok (.float y, rest)) (hy : y = x) :
          readValue (fuel + 1) (s.toList ++ rest) = .ok (.float x, rest) := hy ▸ hs
      rw [writeFloat]
      split_ifs with hnan hinf hneg
      · exact hread "NaN" Binary64.nan rfl (Binary64.eq_of_isNaN (by decide +kernel) hnan)
      · exact hread "-Infinity" (-Binary64.infinity) rfl
          (Binary64.eq_of_isInf (by decide +kernel) hinf (hneg ▸ by decide +kernel))
      · refine hread "Infinity" Binary64.infinity rfl
          (Binary64.eq_of_isInf (by decide +kernel) hinf ?_)
        rw [eq_false_of_ne_true hneg]
        decide +kernel
      · exact absurd hnone (not_or.2 ⟨hnan, hinf⟩)

/-! ### Lists and mappings -/

section Steps

variable {cs after tail : List Char} {k : Text} {v : Value}

theorem readItems_last (hv : readValue fuel cs = .ok (v, after))
    (h : skipSpace after = ']' :: tail) : readItems (fuel + 1) cs = .ok ([v], tail) := by
  simp only [readItems, hv, h]

theorem readItems_more {vs : List Value} (hv : readValue fuel cs = .ok (v, after))
    (h : skipSpace after = ',' :: tail) (hvs : readItems fuel (skipSpace tail) = .ok (vs, rest)) :
    readItems (fuel + 1) cs = .ok (v :: vs, rest) := by
  simp only [readItems, hv, h, hvs]

theorem readFields_last (hk : k.isPlain = true)
    (hv : readValue fuel (skipSpace cs) = .ok (v, after)) (h : skipSpace after = '\x7d' :: tail) :
    readFields (fuel + 1) (quoted k ++ ':' :: cs) = .ok ([(k, v)], tail) := by
  have hkey := readText_inner hk ('"' :: (inner k ++ '"' :: ':' :: cs)) (':' :: cs)
  simp only [quoted, List.cons_append, List.append_assoc, List.nil_append, readFields, hkey,
    skipSpace_cons (c := ':') rfl, hv, h]

theorem readFields_more {fs : List (Text × Value)} (hk : k.isPlain = true)
    (hv : readValue fuel (skipSpace cs) = .ok (v, after)) (h : skipSpace after = ',' :: tail)
    (hfs : readFields fuel (skipSpace tail) = .ok (fs, rest)) :
    readFields (fuel + 1) (quoted k ++ ':' :: cs) = .ok ((k, v) :: fs, rest) := by
  have hkey := readText_inner hk ('"' :: (inner k ++ '"' :: ':' :: cs)) (':' :: cs)
  simp only [quoted, List.cons_append, List.append_assoc, List.nil_append, readFields, hkey,
    skipSpace_cons (c := ':') rfl, hv, h, hfs]

theorem readValue_items {c : Char} {xs : List Value} (h : skipSpace cs = c :: tail) (hc : c ≠ ']')
    (hxs : readItems fuel (c :: tail) = .ok (xs, rest)) :
    readValue (fuel + 1) ('[' :: cs) = .ok (.list xs, rest) := by
  simp only [readValue, h]
  split
  · rename_i heq
    exact absurd (List.cons.inj heq).1 hc
  · rw [hxs]

theorem readValue_fields {fs : List (Text × Value)} (h : skipSpace cs = '"' :: tail)
    (hfs : readFields fuel ('"' :: tail) = .ok (fs, rest)) :
    readValue (fuel + 1) ('\x7b' :: cs) = .ok (.map (Fields.ofPairs fs), rest) := by
  simp only [readValue, h]
  split
  · rename_i heq
    exact absurd (List.cons.inj heq).1 (by decide)
  · rw [hfs]

end Steps

/-- That a value is read back from its text at a depth, whatever follows. -/
def ReadsBack (depth : Nat) (v : Value) : Prop := ∀ (fuel : Nat) (rest : List Char),
  2 * (indented depth v).length ≤ fuel → EndsNumber rest →
    readValue fuel (indented depth v ++ rest) = .ok (v, rest)

theorem skipSpace_indented {v : Value} (hv : v.isData = true) (depth : Nat) (rest : List Char) :
    skipSpace (indented depth v ++ rest) = indented depth v ++ rest := by
  obtain ⟨c, tail, h, hc, -⟩ := indented_start hv depth
  rw [h]
  exact skipSpace_cons hc (tail ++ rest)

theorem skipSpace_quoted (s : Text) (rest : List Char) :
    skipSpace (quoted s ++ rest) = quoted s ++ rest := skipSpace_cons rfl (inner s ++ ['"'] ++ rest)

theorem endsNumber_indentedItems (xs : List Value) (depth d : Nat) (rest : List Char) :
    EndsNumber (indentedItems depth xs ++ (lineBreak d ++ rest)) := by
  cases xs <;> exact endsNumber_cons (by decide) _

theorem endsNumber_indentedFields (fs : List (Text × Value)) (depth d : Nat) (rest : List Char) :
    EndsNumber (indentedFields depth fs ++ (lineBreak d ++ rest)) := by
  cases fs with
  | nil => exact endsNumber_cons (by decide) _
  | cons f fs => exact endsNumber_cons (by decide) _

/-- Items are read up to the bracket that stands on the next line. -/
theorem readItems_indented {x : Value} {xs : List Value}
    (h : ∀ y ∈ x :: xs, y.isData = true ∧ ReadsBack depth y) (d fuel : Nat) (rest : List Char)
    (hfuel : 2 * (indented depth x ++ indentedItems depth xs).length < fuel) :
    readItems fuel (indented depth x ++ (indentedItems depth xs ++ (lineBreak d ++ ']' :: rest))) =
      .ok (x :: xs, rest) := by
  induction xs generalizing x fuel with
  | nil =>
    obtain ⟨fuel, rfl⟩ : ∃ k, fuel = k + 1 := ⟨fuel - 1, by omega⟩
    rw [indentedItems, List.append_nil] at hfuel
    refine readItems_last ((h x List.mem_cons_self).2 fuel _ (by omega)
      (endsNumber_indentedItems [] depth d (']' :: rest))) ?_
    exact skipSpace_lineBreak d (']' :: rest)
  | cons y ys ih =>
    obtain ⟨fuel, rfl⟩ : ∃ k, fuel = k + 1 := ⟨fuel - 1, by omega⟩
    rw [List.length_append, indentedItems, List.length_append, List.length_cons] at hfuel
    have hy := (h y (List.mem_cons_of_mem x List.mem_cons_self)).1
    have hys := ih (fun z hz => h z (List.mem_cons_of_mem x hz)) fuel (by omega)
    rw [← skipSpace_indented hy, ← skipSpace_lineBreak depth] at hys
    refine readItems_more ((h x List.mem_cons_self).2 fuel _ (by omega)
      (endsNumber_indentedItems (y :: ys) depth d (']' :: rest))) ?_ hys
    simp only [indentedItems, List.cons_append, List.append_assoc]
    exact skipSpace_cons rfl _

/-- Members are read up to the brace that stands on the next line. -/
theorem readFields_indented {k : Text} {v : Value} {fs : List (Text × Value)}
    (h : ∀ f ∈ (k, v) :: fs, f.1.isPlain = true ∧ f.2.isData = true ∧ ReadsBack depth f.2)
    (d fuel : Nat) (rest : List Char)
    (hfuel : 2 * (indented depth v ++ indentedFields depth fs).length < fuel) :
    readFields fuel (quoted k ++ ':' :: ' ' :: (indented depth v ++
        (indentedFields depth fs ++ (lineBreak d ++ '\x7d' :: rest)))) =
      .ok ((k, v) :: fs, rest) := by
  induction fs generalizing k v fuel with
  | nil =>
    obtain ⟨fuel, rfl⟩ : ∃ k, fuel = k + 1 := ⟨fuel - 1, by omega⟩
    rw [indentedFields, List.append_nil] at hfuel
    obtain ⟨hk, hdata, hread⟩ : k.isPlain = true ∧ v.isData = true ∧ ReadsBack depth v :=
      h (k, v) List.mem_cons_self
    have hv := hread fuel _ (by omega) (endsNumber_indentedFields [] depth d ('\x7d' :: rest))
    rw [← skipSpace_indented hdata] at hv
    exact readFields_last hk hv (skipSpace_lineBreak d ('\x7d' :: rest))
  | cons g gs ih =>
    obtain ⟨l, w⟩ := g
    obtain ⟨fuel, rfl⟩ : ∃ k, fuel = k + 1 := ⟨fuel - 1, by omega⟩
    simp only [indentedFields, List.length_append, List.length_cons] at hfuel
    obtain ⟨hk, hdata, hread⟩ : k.isPlain = true ∧ v.isData = true ∧ ReadsBack depth v :=
      h (k, v) List.mem_cons_self
    have hv := hread fuel _ (by omega)
      (endsNumber_indentedFields ((l, w) :: gs) depth d ('\x7d' :: rest))
    have hgs := ih (fun f hf => h f (List.mem_cons_of_mem _ hf)) fuel
      (by rw [List.length_append]; omega)
    rw [← skipSpace_indented hdata] at hv
    rw [← skipSpace_quoted, ← skipSpace_lineBreak depth] at hgs
    refine readFields_more hk hv ?_ hgs
    simp only [indentedFields, List.cons_append, List.append_assoc]
    exact skipSpace_cons rfl _

theorem exists_fuel {v : Value} (hv : v.isData = true)
    (h : 2 * (indented depth v).length ≤ fuel) : ∃ k, fuel = k + 1 := by
  obtain ⟨c, tail, hcs, -⟩ := indented_start hv depth
  rw [hcs, List.length_cons] at h
  exact ⟨fuel - 1, by omega⟩

/-- A list is read back if its items are. -/
theorem readsBack_list {xs : List Value}
    (h : ∀ x ∈ xs, x.isData = true ∧ ReadsBack (depth + 1) x) : ReadsBack depth (.list xs) := by
  intro fuel rest hfuel _
  obtain ⟨fuel, rfl⟩ := exists_fuel ((Value.isData_list xs).2 fun x hx => (h x hx).1) hfuel
  cases xs with
  | nil => rfl
  | cons x xs =>
    simp only [indented, List.cons_append, List.length_cons, List.length_append] at hfuel
    have hitems := readItems_indented h depth fuel rest (by rw [List.length_append]; omega)
    obtain ⟨c, tail, hx, hspace, hbracket, -⟩ :=
      indented_start (h x List.mem_cons_self).1 (depth + 1)
    simp only [indented, hx, List.cons_append, List.append_assoc, List.nil_append] at hitems ⊢
    refine readValue_items ?_ hbracket hitems
    rw [skipSpace_lineBreak, skipSpace_cons hspace]

/-- A mapping of distinct keys is read back if its members are. -/
theorem readsBack_map {fs : List (Text × Value)} (hkeys : (Fields.keys fs).Nodup)
    (h : ∀ f ∈ fs, f.1.isPlain = true ∧ f.2.isData = true ∧ ReadsBack (depth + 1) f.2) :
    ReadsBack depth (.map fs) := by
  intro fuel rest hfuel _
  obtain ⟨fuel, rfl⟩ := exists_fuel ((Value.isData_map fs).2 fun f hf => (h f hf).2.1) hfuel
  cases fs with
  | nil => rfl
  | cons f fs =>
    obtain ⟨k, v⟩ := f
    simp only [indented, List.cons_append, List.length_cons, List.length_append] at hfuel
    have hfields := readFields_indented h depth fuel rest (by rw [List.length_append]; omega)
    have hread := readValue_fields ((skipSpace_lineBreak (depth + 1) _).trans
      (skipSpace_quoted k _)) hfields
    rw [Fields.ofPairs_eq_self hkeys] at hread
    simp only [indented, List.cons_append, List.append_assoc, List.nil_append]
    exact hread

/-- A document is read back from its indented text. -/
theorem readsBack {v : Value} (hv : v.isDocument = true) (depth : Nat) : ReadsBack depth v := by
  induction v generalizing depth with
  | null =>
    intro fuel rest hfuel _
    obtain ⟨fuel, rfl⟩ := exists_fuel rfl hfuel
    rfl
  | bool b =>
    intro fuel rest hfuel _
    obtain ⟨fuel, rfl⟩ := exists_fuel rfl hfuel
    cases b <;> rfl
  | num n => exact fun _ _ => readValue_number hv
  | str s =>
    intro fuel rest hfuel _
    obtain ⟨fuel, rfl⟩ := exists_fuel rfl hfuel
    have htext := readText_inner hv ('"' :: (inner s ++ '"' :: rest)) rest
    simp only [indented, quoted, List.cons_append, List.append_assoc, List.nil_append, readValue,
      htext]
  | list xs ih =>
    rw [Value.isDocument, Value.all_list] at hv
    exact readsBack_list fun x hx =>
      ⟨Value.isData_of_isDocument (hv.2 x hx), ih x hx (hv.2 x hx) (depth + 1)⟩
  | map fs ih =>
    rw [Value.isDocument, Value.all_map, Value.isPortable, Bool.and_eq_true, decide_eq_true_eq,
      List.all_eq_true] at hv
    exact readsBack_map hv.1.1 fun f hf => ⟨hv.1.2 f.1 (List.mem_map_of_mem hf),
      Value.isData_of_isDocument (hv.2 f hf), ih f hf (hv.2 f hf) (depth + 1)⟩
  | helper => cases hv
  | method => cases hv

/-! ### Whole documents -/

theorem plainLines_eq_self {cs : List Char} (h : '\r' ∉ cs) : Text.plainLines cs = cs := by
  induction cs with
  | nil => rfl
  | cons c cs ih =>
    obtain ⟨hc, hcs⟩ := not_or.1 fun hm => h (List.mem_cons.2 hm)
    rw [Text.plainLines, ih hcs]
    all_goals
      intros
      exact hc (Eq.symm ‹_›)

/-- The stored text of a document, with a line feed at its end, is read as the document. -/
theorem readStored_indented {v : Value} (hv : v.isDocument = true) :
    readStored (String.ofList (indented 0 v ++ ['\n'])) = .ok v := by
  have hlines : '\r' ∉ indented 0 v ++ ['\n'] := by simp [not_return_mem_indented]
  have hdata := Value.isData_of_isDocument hv
  have hread := readsBack hv 0 (2 * (indented 0 v ++ ['\n']).length + 2) ['\n']
    (by rw [List.length_append]; omega) (endsNumber_cons (by decide) [])
  have hdocument : readDocument (indented 0 v ++ ['\n']) = .ok v := by
    obtain ⟨c, tail, hstart, -, -, hmark⟩ := indented_start hdata 0
    rw [readDocument, skipSpace_indented hdata, hread]
    · rfl
    · intro cs h
      rw [hstart] at h
      exact hmark (List.cons.inj h).1
  rw [readStored, String.toList_ofList, plainLines_eq_self hlines, read, String.toList_ofList,
    hdocument]

end Json
end RuleLedger
