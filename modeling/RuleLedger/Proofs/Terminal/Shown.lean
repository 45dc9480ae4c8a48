import Mathlib.Tactic.SplitIfs
import RuleLedger.Proofs.Hashable
import RuleLedger.Terminal.Markup
import RuleLedger.Terminal.Wrap

/-! What a terminal shows. Main statements: a value without callables and long integers is written in
characters by every layout that escapes what lies beyond ASCII; the lines of a text hold no symbols
but those of the text, blanks and the ellipsis; and a label in colour with a text behind it that
opens no bracket is always shown, in characters. -/
namespace RuleLedger

namespace Text

variable {α : Type} [DecidableEq α]

theorem mem_of_mem_splitList {sep c : α} {cs part : List α} (hpart : part ∈ splitList sep cs)
    (hc : c ∈ part) : c ∈ cs := by
  induction cs generalizing part with
  | nil =>
    rw [splitList, List.mem_singleton] at hpart
    exact absurd (hpart ▸ hc) List.not_mem_nil
  | cons d cs ih =>
    rw [splitList] at hpart
    split_ifs at hpart with hd
    · obtain rfl | hpart := List.mem_cons.1 hpart
      · cases hc
      · exact List.mem_cons_of_mem d (ih hpart hc)
    · split at hpart
      · obtain rfl := List.mem_singleton.1 hpart
        exact List.mem_singleton.1 hc ▸ List.mem_cons_self
      · rename_i w ws hsplit
        rw [hsplit] at ih
        obtain rfl | hpart := List.mem_cons.1 hpart
        · obtain rfl | hc := List.mem_cons.1 hc
          · exact List.mem_cons_self
          · exact List.mem_cons_of_mem d (ih List.mem_cons_self hc)
        · exact List.mem_cons_of_mem d (ih (List.mem_cons_of_mem w hpart) hc)

end Text

/-! ### Texts that open no bracket -/

@[simp] theorem Symbol.char?_char (c : Char) : (Symbol.char c).char? = some c := rfl

namespace Text

/-- Characters that open no bracket. -/
structure Unmarked (s : Text) : Prop where
  plain : Plain s.toList
  free : .char '[' ∉ s.toList

variable {s t : Text}

@[simp] theorem unmarked_append : (s ++ t).Unmarked ↔ s.Unmarked ∧ t.Unmarked := by
  constructor
  · rintro ⟨hplain, hfree⟩
    rw [toList_append, plain_append_iff] at hplain
    rw [toList_append, List.mem_append, not_or] at hfree
    exact ⟨⟨hplain.1, hfree.1⟩, hplain.2, hfree.2⟩
  · rintro ⟨hs, ht⟩
    exact ⟨hs.plain.append ht.plain, fun h => (List.mem_append.1 h).elim hs.free ht.free⟩

@[simp] theorem unmarked_ofString (s : String) : (ofString s).Unmarked ↔ '[' ∉ s.toList := by
  refine ⟨fun h hm => h.free (List.mem_map_of_mem hm), fun h => ⟨plain_toList_ofString s, ?_⟩⟩
  rw [ofString, List.mem_map_of_injective fun _ _ => Symbol.char.inj]
  exact h

@[simp] theorem notMem_toDigits (n : Nat) : '[' ∉ Nat.toDigits 10 n :=
  fun h => absurd (Nat.isDigit_of_mem_toDigits (by decide) (by decide) h) (by decide)

theorem notMem_hex (width n : Nat) : '[' ∉ hex width n := by
  have hdigit : ∀ d < 16, '[' ≠ hexDigit d := by decide
  induction width generalizing n with
  | zero => exact List.not_mem_nil
  | succ width ih =>
    rw [hex, List.mem_append, List.mem_singleton, not_or]
    exact ⟨ih _, hdigit _ (Nat.mod_lt n (by decide))⟩

@[simp] theorem unmarked_numbered (c : Symbol) : (ofList (numbered c)).Unmarked := by
  have hmap (mark : Char) (hmark : '[' ≠ mark) (width : Nat) :
      (ofList (('\\' :: mark :: hex width c.code).map .char)).Unmarked := by
    refine ⟨plain_map _, fun h => ?_⟩
    have h := (List.mem_map_of_injective fun _ _ => Symbol.char.inj).1 h
    simp [hmark, notMem_hex] at h
  rw [numbered]
  split_ifs
  · exact hmap 'x' (by decide) 2
  · exact hmap 'u' (by decide) 4
  · exact hmap 'U' (by decide) 8

@[simp] theorem unmarked_nil : (ofList []).Unmarked := ⟨plain_nil, List.not_mem_nil⟩

@[simp] theorem unmarked_cons {c : Symbol} {cs : List Symbol} : (ofList (c :: cs)).Unmarked ↔
    (c.char?.isSome = true ∧ c ≠ .char '[') ∧ (ofList cs).Unmarked := by
  constructor
  · rintro ⟨hplain, hfree⟩
    obtain ⟨hc, hcs⟩ := List.forall_mem_cons.1 hplain
    obtain ⟨hne, hmem⟩ := not_or.1 (mt List.mem_cons.2 hfree)
    exact ⟨⟨hc, Ne.symm hne⟩, hcs, hmem⟩
  · rintro ⟨⟨hc, hne⟩, hplain, hfree⟩
    exact ⟨List.forall_mem_cons.2 ⟨hc, hplain⟩, fun h => (List.mem_cons.1 h).elim
      (fun he => hne he.symm) hfree⟩

/-- Quotes and escapes open no bracket. -/
theorem Unmarked.quoted (h : s.Unmarked) : (Text.quoted s).Unmarked := by
  have hquote : (ofList [quoteFor s.toList]).Unmarked := by
    unfold quoteFor
    split_ifs <;> simp
  have hsymbol {c : Symbol} (hc : c ∈ s.toList) :
      (ofList (quotedSymbol (quoteFor s.toList) c)).Unmarked := by
    have hkept : c.char?.isSome = true ∧ c ≠ .char '[' :=
      ⟨h.plain c hc, fun he => h.free (he ▸ hc)⟩
    unfold quotedSymbol
    split_ifs
    case neg => exact unmarked_numbered c
    all_goals simp [hkept]
  have hinner : (ofList (s.toList.flatMap (quotedSymbol (quoteFor s.toList)))).Unmarked := by
    refine ⟨fun d hd => ?_, fun hd => ?_⟩ <;> obtain ⟨c, hc, hd⟩ := List.mem_flatMap.1 hd
    · exact (hsymbol hc).plain d hd
    · exact (hsymbol hc).free hd
  exact unmarked_append.2 ⟨unmarked_append.2 ⟨hquote, hinner⟩, hquote⟩

end Text

/-! ### Documents -/

namespace Json

open Value (isWritable)

/-- A piece of characters, and no fault. -/
def Spelt (p : Piece) : Prop := ∃ cs, p = .ok cs ∧ Plain cs

theorem spelt_ok {cs : List Symbol} (h : Plain cs) : Spelt (.ok cs) := ⟨cs, rfl, h⟩

theorem plain_word (s : String) : Plain (word s) := plain_map s.toList

theorem plain_writeText_ascii (s : Text) : Plain (writeText true s) := by
  have hunit (n : Nat) : Plain (unitEscape n) := plain_map _
  have hunicode (n : Nat) : Plain (unicodeEscape n) := by
    unfold unicodeEscape
    split_ifs
    · exact hunit n
    · exact (hunit _).append (hunit _)
  have hsymbol (c : Symbol) : Plain (writeSymbol true c) := by
    cases c with
    | half h =>
      have hbeyond : 0x7f ≤ (Symbol.half h).code := le_trans (by decide) h.isHalf.1
      have hcontrol : ¬(Symbol.half h).code < 0x20 := by omega
      simp only [writeSymbol, reduceCtorEq, hcontrol, hbeyond, if_false, decide_true,
        Bool.and_self, if_true]
      exact hunicode _
    | char c =>
      unfold writeSymbol
      split_ifs
      case neg => exact plain_map [c]
      all_goals first | exact hunit _ | exact hunicode _ | exact plain_map [_, _]
  refine (Plain.append (fun c hc => ?_) (plain_map ['"'])).cons
  obtain ⟨d, -, hc⟩ := List.mem_flatMap.1 hc
  exact hsymbol d c hc

/-- A layout with marks of characters and escapes for all that lies beyond ASCII. -/
structure Layout.IsPlain (l : Layout) : Prop where
  ascii : l.ascii = true
  comma : Plain l.comma
  colon : Plain l.colon

variable {l : Layout} {lead : List Symbol} {depth : Nat}

theorem Layout.plain_newline (l : Layout) (depth : Nat) : Plain (l.newline depth) := by
  unfold newline
  split
  · exact Plain.cons fun c hc => List.eq_of_mem_replicate hc ▸ rfl
  · exact plain_nil

namespace Layout.IsPlain

theorem text (hl : l.IsPlain) (s : Text) : Plain (writeText l.ascii s) :=
  hl.ascii ▸ plain_writeText_ascii s

theorem itemPieces (hl : l.IsPlain) {xs : List Value}
    (h : ∀ x ∈ xs, ∀ lead, Plain lead → ∀ p ∈ pieces l lead depth x, Spelt p) :
    ∀ p ∈ itemPieces l depth xs, Spelt p := by
  induction xs with
  | nil => exact List.forall_mem_nil _
  | cons x xs ih =>
    obtain ⟨hx, hxs⟩ := List.forall_mem_cons.1 h
    have hlead : Plain (l.comma ++ l.newline depth) := hl.comma.append (l.plain_newline depth)
    exact List.forall_mem_append.2 ⟨hx _ hlead, ih hxs⟩

theorem fieldPieces (hl : l.IsPlain) {fs : List (Text × Value)}
    (h : ∀ f ∈ fs, ∀ p ∈ pieces l [] depth f.2, Spelt p) :
    ∀ p ∈ fieldPieces l depth fs, Spelt p := by
  induction fs with
  | nil => exact List.forall_mem_nil _
  | cons f fs ih =>
    obtain ⟨hf, hfs⟩ := List.forall_mem_cons.1 h
    have hlead : Plain (l.comma ++ l.newline depth) := hl.comma.append (l.plain_newline depth)
    simp only [Json.fieldPieces, List.cons_append, List.forall_mem_cons, List.forall_mem_append]
    exact ⟨spelt_ok hlead, spelt_ok (hl.text _), spelt_ok hl.colon, hf, ih hfs⟩

/-- A value without callables and without long integers is written in characters. -/
theorem pieces (hl : l.IsPlain) {v : Value} (hdata : v.isData = true)
    (hwrite : v.all isWritable = true) (hlead : Plain lead) :
    ∀ p ∈ pieces l lead depth v, Spelt p := by
  have hleaf {lead cs : List Symbol} (hlead : Plain lead) (hcs : Plain cs) :
      ∀ p ∈ [(.ok (lead ++ cs) : Piece)], Spelt p :=
    List.forall_mem_singleton.2 (spelt_ok (hlead.append hcs))
  induction v generalizing lead depth with
  | null => exact hleaf hlead (plain_word "null")
  | bool b => cases b <;> exact hleaf hlead (plain_word _)
  | num n =>
    have hpiece := numberPiece_eq_ok.2 ⟨hwrite, rfl⟩
    rw [Json.pieces, hpiece]
    exact hleaf hlead (plain_word _)
  | str s => exact hleaf hlead (hl.text s)
  | list xs ih =>
    rw [Value.all_list] at hwrite
    rw [Value.isData_list] at hdata
    have hitem (x : Value) (hx : x ∈ xs) (lead : List Symbol) (hlead : Plain lead) :
        ∀ p ∈ Json.pieces l lead (depth + 1) x, Spelt p :=
      ih x hx (hdata x hx) (hwrite.2 x hx) hlead
    cases xs with
    | nil => exact hleaf hlead (plain_word "[]")
    | cons x xs =>
      obtain ⟨hx, hxs⟩ := List.forall_mem_cons.1 hitem
      simp only [Json.pieces, List.cons_append, List.forall_mem_cons, List.forall_mem_append]
      exact ⟨spelt_ok hlead, ⟨hx _ (l.plain_newline _).cons, hl.itemPieces hxs⟩,
        spelt_ok ((l.plain_newline _).append (plain_word _)), List.forall_mem_nil _⟩
  | map fs ih =>
    rw [Value.all_map] at hwrite
    rw [Value.isData_map] at hdata
    have hfield (f : Text × Value) (hf : f ∈ fs) : ∀ p ∈ Json.pieces l [] (depth + 1) f.2, Spelt p :=
      ih f hf (hdata f hf) (hwrite.2 f hf) plain_nil
    cases fs with
    | nil => exact hleaf hlead (plain_word "\x7b\x7d")
    | cons f fs =>
      obtain ⟨hf, hfs⟩ := List.forall_mem_cons.1 hfield
      simp only [Json.pieces, List.cons_append, List.forall_mem_cons, List.forall_mem_append]
      exact ⟨spelt_ok ((hlead.append (plain_word _)).append (l.plain_newline _)),
        spelt_ok (hl.text _), spelt_ok hl.colon, ⟨hf, hl.fieldPieces hfs⟩,
        spelt_ok ((l.plain_newline _).append (plain_word _)), List.forall_mem_nil _⟩
  | helper => cases hdata
  | method => cases hdata

end Layout.IsPlain

/-- What a plain layout makes of such a value. -/
theorem Layout.IsPlain.write (hl : l.IsPlain) {v : Value} (hdata : v.isData = true)
    (hwrite : v.all isWritable = true) : ∃ s, write l v = .ok s ∧ Plain s.toList := by
  have hjoined (ps : List Piece) (h : ∀ p ∈ ps, Spelt p) :
      ∃ cs, joined ps = .ok cs ∧ Plain cs := by
    induction ps with
    | nil => exact ⟨[], rfl, plain_nil⟩
    | cons p ps ih =>
      obtain ⟨⟨cs, rfl, hcs⟩, hps⟩ := List.forall_mem_cons.1 h
      obtain ⟨rest, hrest, hplain⟩ := ih hps
      refine ⟨cs ++ rest, ?_, hcs.append hplain⟩
      rw [joined, hrest]
      rfl
  have hspelt : ∀ p ∈ Json.pieces l [] 0 v, Spelt p := hl.pieces hdata hwrite plain_nil
  obtain ⟨cs, hcs, hplain⟩ := hjoined _ hspelt
  refine ⟨⟨cs⟩, ?_, hplain⟩
  rw [Json.write, hcs]
  rfl

end Json
namespace Terminal

variable {cs line : List Symbol} {c : Symbol} {o : Overflow} {a : Alignment}

/-! ### Lines

The words of a text together are the text, and so are the parts of a word and the lines that are
filled with words. -/

theorem flatten_wordsWithBlanks (cs : List Symbol) : (wordsWithBlanks cs).flatten = cs := by
  induction cs with
  | nil => rfl
  | cons c cs ih =>
    rw [wordsWithBlanks]
    split
    · rename_i hw
      rw [← ih, hw]
      rfl
    · rename_i w ws hw
      rw [hw, List.flatten_cons] at ih
      split_ifs
      · rw [wordsWithBlanks.splitHead, List.flatten_cons, List.flatten_cons, List.cons_append,
          ← List.append_assoc, List.takeWhile_append_dropWhile, ih]
      · rw [List.flatten_cons, List.cons_append, ih]

theorem flatten_chop (width used : Nat) (cs : List Symbol) : (chop width used cs).flatten = cs := by
  induction cs generalizing used with
  | nil => rfl
  | cons c cs ih =>
    rw [chop]
    split
    rename_i used' breaks _
    have hcs := ih used'
    cases hparts : chop width used' cs with
    | nil =>
      rw [← hcs, hparts]
      rfl
    | cons p ps =>
      rw [hparts, List.flatten_cons] at hcs
      cases breaks <;> simp [hcs]

namespace Fill

variable {f : Fill} {width : Nat}

/-- All that has been filled in. -/
def text (f : Fill) : List Symbol := f.lines.flatten

theorem text_eq (f : Fill) : f.text = f.done.reverse.flatten ++ f.current := by
  simp [text, lines]

@[simp] theorem text_newLine (f : Fill) : f.newLine.text = f.text := by
  unfold newLine
  split_ifs <;> simp [text_eq]

@[simp] theorem text_put (f : Fill) (cs : List Symbol) : (f.put cs).text = f.text ++ cs := by
  simp [text_eq, put]

theorem text_parts (parts : List (List Symbol)) (f : Fill) :
    (parts.foldl (fun f part => f.newLine.put part) f).text = f.text ++ parts.flatten := by
  induction parts generalizing f with
  | nil => simp
  | cons p ps ih => simp [ih]

theorem text_word (w : List Symbol) : (f.word width o w).text = f.text ++ w := by
  unfold word
  dsimp only
  cases o <;> split_ifs <;> simp [text_parts, flatten_chop]

theorem text_words (ws : List (List Symbol)) :
    (ws.foldl (word width o) f).text = f.text ++ ws.flatten := by
  induction ws generalizing f with
  | nil => simp
  | cons w ws ih => simp [ih, text_word]

end Fill

theorem flatten_divide (width : Nat) (o : Overflow) (cs : List Symbol) :
    (divide width o cs).flatten = cs := by
  have h : (divide width o cs).flatten = Fill.empty.text ++ (wordsWithBlanks cs).flatten :=
    Fill.text_words _
  rw [h, flatten_wordsWithBlanks]
  rfl

theorem mem_expandTabs (h : c ∈ expandTabs cs) : c ∈ cs ∨ c = ' ' := by
  have hstop {position : Nat} {part : List Symbol} (h : c ∈ tabStop position part) :
      c ∈ part ∨ c = ' ' := by
    obtain h | h := List.mem_append.1 h
    · exact .inl h
    · exact .inr (List.eq_of_mem_replicate h)
  have hparts (position : Nat) (parts : List (List Symbol)) (h : c ∈ expandParts position parts) :
      (∃ part ∈ parts, c ∈ part) ∨ c = ' ' := by
    induction position, parts using expandParts.induct with
    | case1 => cases h
    | case2 _ part => exact .inl ⟨part, List.mem_cons_self, h⟩
    | case3 position part parts hne filled ih =>
      rw [expandParts] at h
      · obtain h | h := List.mem_append.1 h
        · exact (hstop h).imp_left fun h => ⟨part, List.mem_cons_self, h⟩
        · refine (ih h).imp_left fun ⟨p, hp, h⟩ => ⟨p, List.mem_cons_of_mem part hp, h⟩
      · exact hne
  obtain ⟨part, hpart, h⟩ | h := hparts 0 _ h
  · exact .inl (Text.mem_of_mem_splitList hpart h)
  · exact .inr h

theorem mem_cut {n fuel low high : Nat} (h : c ∈ cut n cs fuel low high) : c ∈ cs ∨ c = ' ' := by
  induction fuel generalizing low high with
  | zero => cases h
  | succ fuel ih =>
    simp only [cut] at h
    split at h
    · cases h
    · rename_i d hd
      split_ifs at h
      · obtain h | h := List.mem_append.1 h
        · exact .inl (List.mem_of_mem_take h)
        · exact .inr (List.eq_of_mem_replicate h)
      · obtain h | h := List.mem_append.1 h
        · exact .inl (List.mem_of_mem_take h)
        · exact .inl (List.mem_singleton.1 h ▸ List.mem_of_getElem? hd)
      · exact ih h
      · exact ih h

theorem mem_crop {n : Nat} (h : c ∈ crop n cs) : c ∈ cs ∨ c = ' ' := by
  unfold crop at h
  split_ifs at h
  · exact .inl h
  · cases h
  · exact mem_cut h

theorem mem_truncate {width : Nat} (h : c ∈ truncate width o cs) :
    c ∈ cs ∨ c = ' ' ∨ c = '…' := by
  unfold truncate at h
  split at h
  · exact .inl h
  · cases o with
    | fold => exact (mem_crop h).imp_right .inl
    | ellipsis =>
      obtain h | h := List.mem_append.1 h
      · exact (mem_crop h).imp_right .inl
      · split_ifs at h
        · cases h
        · exact .inr (.inr (List.mem_singleton.1 h))

theorem mem_align {width : Nat} (h : c ∈ align width o a cs) : c ∈ cs ∨ c = ' ' ∨ c = '…' := by
  have hblanks {n : Nat} (h : c ∈ blanks n) : c ∈ cs ∨ c = ' ' ∨ c = '…' :=
    .inr (.inl (List.eq_of_mem_replicate h))
  have htrim {c : Symbol} (h : c ∈ trimEnd cs) : c ∈ cs := by
    have h := (List.dropWhile_sublist _).subset (List.mem_reverse.1 h)
    exact List.mem_reverse.1 h
  cases a with
  | start => exact mem_truncate h
  | left => exact (List.mem_append.1 h).elim mem_truncate hblanks
  | center =>
    obtain h | h := List.mem_append.1 h
    · obtain h | h := List.mem_append.1 h
      · exact hblanks h
      · exact (mem_truncate h).imp_left htrim
    · exact hblanks h
  | right => exact (List.mem_append.1 h).elim hblanks fun h => (mem_truncate h).imp_left htrim

/-- No symbol stands in a line but those of the text, blanks and the ellipsis. -/
theorem mem_of_mem_wrap {width : Nat} (hline : line ∈ wrap width o a cs) (hc : c ∈ line) :
    c ∈ cs ∨ c = ' ' ∨ c = '…' := by
  simp only [wrap, List.mem_flatMap, List.mem_map] at hline
  obtain ⟨part, hpart, l, hl, rfl⟩ := hline
  obtain hc | hc := mem_align hc
  · have hdivide : c ∈ (divide width o (expandTabs part)).flatten :=
      List.mem_flatten.2 ⟨l, hl, List.mem_of_mem_take hc⟩
    rw [flatten_divide] at hdivide
    obtain hc | hc := mem_expandTabs hdivide
    · exact .inl (Text.mem_of_mem_splitList hpart hc)
    · exact .inr (.inl hc)
  · exact .inr hc

/-- A text of characters has lines of characters. -/
theorem plain_of_mem_wrap {width : Nat} (h : Plain cs) (hline : line ∈ wrap width o a cs) :
    Plain line := by
  intro c hc
  obtain hc | rfl | rfl := mem_of_mem_wrap hline hc
  · exact h c hc
  · rfl
  · rfl

/-! ### Marked-up texts -/

theorem tagAt?_eq_none (h : .char '[' ∉ cs) : tagAt? cs = none := by
  unfold tagAt?
  split
  · simp at h
  · rfl

/-- A text that opens no bracket is one run. -/
theorem scan_of_notMem (h : .char '[' ∉ cs) : scan cs = (cs, []) := by
  induction cs with
  | nil => rw [scan]
  | cons c cs ih =>
    have htag : tagAt? ((c :: cs).dropWhile isBackslash) = none :=
      tagAt?_eq_none fun hm => h ((List.dropWhile_sublist _).subset hm)
    rw [scan]
    split
    · rename_i hsome
      rw [htag] at hsome
      cases hsome
    · rw [ih fun hm => h (List.mem_cons_of_mem c hm)]

/-- A run without brackets and backslashes goes on until the next tag. -/
theorem scan_append {run : List Symbol} (h : ∀ c ∈ run, c ≠ .char '[' ∧ c ≠ .char '\\')
    (cs : List Symbol) : scan (run ++ cs) = (run ++ (scan cs).1, (scan cs).2) := by
  induction run with
  | nil => rfl
  | cons c run ih =>
    obtain ⟨⟨hopen, hback⟩, hrun⟩ := List.forall_mem_cons.1 h
    have hdrop : (c :: (run ++ cs)).dropWhile isBackslash = c :: (run ++ cs) :=
      List.dropWhile_cons_of_neg (by simpa [isBackslash] using hback)
    have htag : tagAt? (c :: (run ++ cs)) = none := by
      unfold tagAt?
      split
      · rename_i hc
        exact absurd (List.cons.inj hc).1 hopen
      · rfl
    rw [List.cons_append, scan]
    split
    · rename_i hsome
      rw [hdrop, htag] at hsome
      cases hsome
    · rw [ih hrun]
      rfl

theorem scan_tag {inner rest : List Symbol} (h : tagAt? cs = some (inner, rest)) :
    scan cs = ([], .tag inner :: joinRun (scan rest).1 (scan rest).2) := by
  obtain ⟨ds, rfl⟩ : ∃ ds, cs = .char '[' :: ds := by
    unfold tagAt? at h
    split at h
    · exact ⟨_, rfl⟩
    · cases h
  have hdrop : (Symbol.char '[' :: ds).dropWhile isBackslash = .char '[' :: ds := rfl
  rw [scan]
  split
  · rename_i inner' rest' hsome
    rw [hdrop, h] at hsome
    obtain ⟨rfl, rfl⟩ := Prod.mk.inj (Option.some.inj hsome)
    rfl
  · rename_i hnone
    rw [hdrop, h] at hnone
    cases hnone

theorem untilBracket_append {inner : List Symbol}
    (h : ∀ c ∈ inner, c ≠ .char '[' ∧ c ≠ .char ']') (rest : List Symbol) :
    untilBracket (inner ++ .char ']' :: rest) = some (inner, rest) := by
  induction inner with
  | nil => rfl
  | cons c inner ih =>
    obtain ⟨⟨hopen, hclose⟩, hinner⟩ := List.forall_mem_cons.1 h
    rw [List.cons_append, untilBracket, if_neg hclose, if_neg hopen, ih hinner]
    rfl

theorem tagAt?_append {inner : List Symbol} (hc : c.isIn startsTag = true)
    (h : ∀ c ∈ inner, c ≠ .char '[' ∧ c ≠ .char ']') (rest : List Symbol) :
    tagAt? (.char '[' :: c :: (inner ++ .char ']' :: rest)) = some (c :: inner, rest) := by
  rw [tagAt?, if_pos hc, untilBracket_append h]
  rfl

theorem plain_unescape (h : Plain cs) : Plain (unescape cs) := by
  induction cs using unescape.induct with
  | case1 cs ih =>
    rw [unescape]
    exact (ih fun c hc => h c (List.mem_cons_of_mem _ (List.mem_cons_of_mem _ hc))).cons
  | case2 c cs hne ih =>
    obtain ⟨hc, hcs⟩ := List.forall_mem_cons.1 h
    rw [unescape]
    · exact List.forall_mem_cons.2 ⟨hc, ih hcs⟩
    · exact hne
  | case3 => exact plain_nil

theorem codeAt_eq_some {code rest : List Symbol} (h : codeAt cs = some (code, rest)) :
    cs = code ++ .char ':' :: rest := by
  induction cs generalizing code rest with
  | nil => cases h
  | cons c cs ih =>
    rw [codeAt] at h
    split_ifs at h with hcolon hblank
    · obtain ⟨rfl, rfl⟩ := Prod.mk.inj (Option.some.inj h)
      rw [hcolon, List.nil_append]
    · obtain ⟨⟨code', rest'⟩, h', he⟩ := Option.map_eq_some_iff.1 h
      obtain ⟨rfl, rfl⟩ := Prod.mk.inj he
      rw [ih h', List.cons_append]

theorem plain_ofCode? {code shown : List Symbol} (h : Picture.ofCode? code = some shown) :
    Plain shown := by
  obtain ⟨name, -, h⟩ := Option.bind_eq_some_iff.1 h
  obtain ⟨chars, -, h⟩ := Option.bind_eq_some_iff.1 h
  exact Option.some.inj h ▸ plain_map _

theorem plain_withPictures (h : Plain cs) : Plain (withPictures cs) := by
  induction cs using withPictures.induct with
  | case1 =>
    rw [withPictures]
    exact plain_nil
  | case2 cs code rest hcode _ ih =>
    have hparts := codeAt_eq_some hcode ▸ plain_cons_iff.1 h
    obtain ⟨hname, -, hrest⟩ := (plain_append_iff.1 hparts).imp_right List.forall_mem_cons.1
    have hshown : Plain ((Picture.ofCode? code).getD (.char ':' :: code ++ [.char ':'])) := by
      cases hpicture : Picture.ofCode? code with
      | none => exact (hname.append (plain_map [':'])).cons
      | some shown => exact plain_ofCode? hpicture
    rw [withPictures, if_pos rfl]
    split
    · rename_i code' rest' hsome
      obtain ⟨rfl, rfl⟩ := Prod.mk.inj (Option.some.inj (hcode.symm.trans hsome))
      exact hshown.append (ih hrest)
    · rename_i hnone
      cases hcode.symm.trans hnone
  | case3 cs hnone ih =>
    rw [withPictures, if_pos rfl]
    split
    · rename_i hsome
      cases hnone.symm.trans hsome
    · exact (ih (plain_cons_iff.1 h)).cons
  | case4 c cs hc ih =>
    obtain ⟨hhead, htail⟩ := List.forall_mem_cons.1 h
    rw [withPictures, if_neg hc]
    exact List.forall_mem_cons.2 ⟨hhead, ih htail⟩

theorem plain_shownText (h : Plain cs) : Plain (shownText cs) := fun c hc =>
  plain_withPictures (plain_unescape h) c (List.mem_of_mem_filter hc)

/-- The pieces of a text that opens no bracket are shown. -/
theorem shownPieces_of_notMem (stack : List Tag) (h : .char '[' ∉ cs) (hcs : Plain cs) :
    ∃ shown, shownPieces stack (pieces cs) = some shown ∧ Plain shown := by
  rw [pieces, scan_of_notMem h, joinRun]
  split_ifs
  · exact ⟨[], rfl, plain_nil⟩
  · exact ⟨_, shownPieces_text stack cs, plain_shownText hcs⟩

theorem pieces_tag {inner rest : List Symbol} (h : tagAt? cs = some (inner, rest)) :
    pieces cs = .tag inner :: pieces rest := by
  rw [pieces, scan_tag h]
  rfl

theorem pieces_append {run : List Symbol} (h : ∀ c ∈ run, c ≠ .char '[' ∧ c ≠ .char '\\')
    (htag : tagAt? cs ≠ none) : pieces (run ++ cs) = joinRun run (pieces cs) := by
  obtain ⟨⟨inner, rest⟩, hsome⟩ := Option.ne_none_iff_exists'.1 htag
  rw [pieces, scan_append h, pieces_tag hsome, scan_tag hsome, List.append_nil]
  rfl

/-! ### Tags of styles -/

variable {style name : Text}

theorem partsOf_of_notMem (h : .char '=' ∉ cs) : partsOf cs = (⟨cs⟩, none) := by
  have hall : ∀ d ∈ cs, decide (d ≠ .char '=') = true := fun d hd =>
    decide_eq_true fun he => h (he ▸ hd)
  rw [partsOf, List.takeWhile_eq_self_iff.2 hall, List.dropWhile_eq_nil_iff.2 hall]

/-- The name of a style opens it. -/
theorem applyTag_open (hparts : .char '=' ∉ style.toList) (hslash : .char '/' ∉ style.toList)
    (hstyle : normalStyle? style = some name) (stack : List Tag) :
    applyTag stack style.toList = some (⟨name, none⟩ :: stack) := by
  rw [applyTag, partsOf_of_notMem hparts]
  dsimp only
  split
  · rename_i closing hname
    exact absurd (hname ▸ List.mem_cons_self) hslash
  · simp [hstyle]

/-- The name behind a slash closes the style. -/
theorem applyTag_close (hparts : .char '=' ∉ style.toList) (hstrip : Text.strip style = style)
    (hne : style ≠ "") (hstyle : normalStyle? style = some name) (stack : List Tag) :
    applyTag (⟨name, none⟩ :: stack) (.char '/' :: style.toList) = some stack := by
  have hslash : .char '=' ∉ .char '/' :: style.toList := by simpa using hparts
  have htake : closeTag (Text.strip style) (⟨name, none⟩ :: stack) =
      some (⟨name, none⟩, stack) := by
    simp [closeTag, hstrip, hne, hstyle, takeTag]
  have hcloses : Tag.closes ⟨name, none⟩ = true := by simp [Tag.closes]
  rw [applyTag, partsOf_of_notMem hslash]
  change (closeTag (Text.strip style) (⟨name, none⟩ :: stack) >>= fun r : Tag × List Tag =>
    if r.1.closes then some r.2 else none) = some stack
  rw [htake]
  exact if_pos hcloses

/-- A label in a style is shown with the text behind it, if that opens no bracket. -/
theorem markedText?_labelled {text : Text} {inner label s : List Symbol}
    (htext : text.toList = .char '[' :: c :: (inner ++ .char ']' :: (label ++
      .char '[' :: .char '/' :: (c :: inner ++ .char ']' :: s))))
    (hc : c.isIn startsTag = true) (hinner : ∀ d ∈ c :: inner,
      d ≠ .char '[' ∧ d ≠ .char ']' ∧ d ≠ .char '=' ∧ d ≠ .char '/')
    (hstrip : Text.strip ⟨c :: inner⟩ = ⟨c :: inner⟩)
    (hlabel : ∀ d ∈ label, d ≠ .char '[' ∧ d ≠ .char '\\')
    (hstyle : normalStyle? ⟨c :: inner⟩ = some name)
    (hplain : Plain label) (hs : (Text.ofList s).Unmarked) :
    ∃ shown, markedText? text = some shown ∧ Plain shown := by
  have hbrackets : ∀ d ∈ c :: inner, d ≠ .char '[' ∧ d ≠ .char ']' := fun d hd =>
    ⟨(hinner d hd).1, (hinner d hd).2.1⟩
  have hparts : .char '=' ∉ (⟨c :: inner⟩ : Text).toList := fun h => (hinner _ h).2.2.1 rfl
  have hslash : .char '/' ∉ (⟨c :: inner⟩ : Text).toList := fun h => (hinner _ h).2.2.2 rfl
  have hne : (⟨c :: inner⟩ : Text) ≠ "" := fun h =>
    List.cons_ne_nil c inner (congrArg Text.toList h)
  have hopens := applyTag_open hparts hslash hstyle []
  have hcloses := applyTag_close hparts hstrip hne hstyle []
  have hopen := tagAt?_append hc (List.forall_mem_cons.1 hbrackets).2
  have hclose := tagAt?_append (c := .char '/') rfl hbrackets s
  obtain ⟨shown, hshown, hplain'⟩ := shownPieces_of_notMem [] hs.free hs.plain
  have hlast : shownPieces [⟨name, none⟩] (.tag (.char '/' :: c :: inner) :: pieces s) =
      some shown := by
    rw [shownPieces, hcloses]
    exact hshown
  rw [markedText?, htext, pieces_tag (hopen _),
    pieces_append hlabel (hclose ▸ Option.some_ne_none _), pieces_tag hclose, shownPieces, hopens]
  change ∃ shown, shownPieces [⟨name, none⟩] (joinRun label _) = some shown ∧ Plain shown
  rw [joinRun]
  split_ifs
  · exact ⟨shown, hlast, hplain'⟩
  · rw [shownPieces, hlast]
    exact ⟨_, rfl, (plain_shownText hplain).append hplain'⟩

end Terminal
end RuleLedger
