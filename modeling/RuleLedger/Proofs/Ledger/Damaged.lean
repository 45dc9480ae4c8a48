import Mathlib.Data.List.Chain
import RuleLedger.Proofs.Ledger.Intact
import RuleLedger.Proofs.Value.Comparison

/-! Verification of ledgers that may hold anything. Main statements: the ticks of a ledger that
verifies are numbers, of which one is less than an earlier one only behind a NaN; and a ledger gets
no verdict exactly if, behind a start that verifies, an entry has a payload without a digest, a tick
that is no number, or a tick that goes back and cannot be told. -/
namespace RuleLedger

/-! ### Numbers that are not less -/

namespace Number

variable {x y z : Number}

theorem Position.not_lt_trans {p q r : Position} (hqp : q.lt p = false) (hrq : r.lt q = false) :
    r.lt p = false := by
  cases p <;> cases q <;> cases r <;> simp only [lt, decide_eq_false_iff_not, reduceCtorEq] at *
  case finite.finite.finite a b c => exact fun h => hrq (lt_of_lt_of_le h (Int.not_lt.1 hqp))

/-- What is not less than a number is not less than what that is not less than, unless the number
between them is a NaN. -/
theorem not_lt_trans (hy : y.isNaN = false) (hyx : y.lt x = false) (hzy : z.lt y = false) :
    z.lt x = false := by
  obtain ⟨q, hq⟩ : ∃ q, y.position? = some q := by
    rw [← Option.ne_none_iff_exists', Ne, position?_eq_none_iff, hy]
    exact Bool.false_ne_true
  rw [lt, hq] at hyx hzy
  rw [lt]
  cases hp : x.position? with
  | none => cases z.position? <;> rfl
  | some p =>
    cases hr : z.position? with
    | none => rfl
    | some r =>
      rw [hp] at hyx
      rw [hr] at hzy
      exact Position.not_lt_trans hyx hzy

/-- Of numbers that are not less than those right before them, one is less than an earlier one only
if a NaN stands between the two. -/
theorem exists_nan_of_lt {ns : List Number} (h : ns.IsChain fun a b => b.lt a = false) {i j : Nat}
    (hj : j < ns.length) (hij : i < j) (hlt : ns[j].lt ns[i] = true) :
    ∃ k, ∃ _ : k < ns.length, i < k ∧ k < j ∧ ns[k].isNaN = true := by
  rw [List.isChain_iff_getElem] at h
  induction j, hij using Nat.le_induction with
  | base =>
    rw [h i hj] at hlt
    cases hlt
  | succ j hij ih =>
    have hj' : j < ns.length := Nat.lt_of_succ_lt hj
    cases hn : ns[j].isNaN with
    | true => exact ⟨j, hj', hij, Nat.lt_succ_self j, hn⟩
    | false =>
      cases hback : ns[j].lt ns[i] with
      | true =>
        obtain ⟨k, hk, hik, hkj, hnan⟩ := ih hj' hback
        exact ⟨k, hk, hik, Nat.lt_succ_of_lt hkj, hnan⟩
      | false =>
        rw [not_lt_trans hn hback (h j hj)] at hlt
        cases hlt

/-- An integer of more digits than are written. -/
def IsLong : Number → Prop
  | .int n => 10 ^ digitLimit ≤ n.natAbs
  | .float _ => False

end Number

/-- A value that stands for a number is told, unless that is too long. -/
theorem Value.plain_of_tickNumber? {v : Value} {a : Number} (h : tickNumber? v = some a) :
    (a.IsLong ∧ v.plain = .error .tooLongToWrite) ∨ (¬a.IsLong ∧ ∃ s, v.plain = .ok s) := by
  have hshort {n : Int} (hn : v.tickInt? = some n) (hlt : n.natAbs < 10 ^ digitLimit) :
      ¬(Number.int n).IsLong ∧ ∃ s, v.plain = .ok s :=
    ⟨Nat.not_le.2 hlt, plain_of_tickInt? hn hlt⟩
  cases v with
  | bool b =>
    have hone : 1 < 10 ^ digitLimit := Nat.one_lt_pow (by decide) (by decide)
    obtain rfl := Option.some.inj h
    exact .inr (hshort rfl (Nat.lt_of_le_of_lt (by cases b <;> decide) hone))
  | num n =>
    obtain rfl := Option.some.inj h
    cases n with
    | float x => exact .inr ⟨id, _, rfl⟩
    | int n =>
      obtain hlt | hlong := Nat.lt_or_ge n.natAbs (10 ^ digitLimit)
      · exact .inr (hshort rfl hlt)
      · refine .inl ⟨hlong, ?_⟩
        rw [plain, display, Number.text, Json.integerText_eq_error.2 ⟨hlong, rfl⟩]
        · rfl
        · simp
  | _ => cases h

namespace Presented

variable {x : Presented} {xs : List Presented} {last : Value} {checked : Nat} {f : Fault}

/-! ### What one entry does -/

/-- A tick that may follow: both are numbers, and it is not the lesser of the two. -/
def InOrder (last tick : Value) : Prop :=
  ∃ a b, tickNumber? last = some a ∧ tickNumber? tick = some b ∧ b.lt a = false

/-- The entry is taken behind a tick. -/
def Passes (last : Value) (x : Presented) : Prop := x.IsEntry ∧ x.Sealed ∧ InOrder last x.tick

/-- The entry ends verification without a verdict, behind a tick that is a number. -/
inductive Stops (last : Value) (x : Presented) : Fault → Prop
  /-- The payload holds an integer or a text that cannot be written, and has no digest. -/
  | payload {f : Fault} : x.IsEntry → x.payload.all Value.isSayable = false →
      x.payload.contentHash = .error f → Stops last x f
  /-- The tick is no number, and in no order with one. -/
  | kind : x.IsEntry → x.Sealed → tickNumber? x.tick = none →
      Stops last x (.kind (.notOrdered x.tick.kindName last.kindName))
  /-- The tick goes back, and it or the one before has too many digits to be told. -/
  | long {a b : Number} : x.IsEntry → x.Sealed → tickNumber? last = some a →
      tickNumber? x.tick = some b → b.lt a = true → a.IsLong ∨ b.IsLong →
      Stops last x (.numeric .tooLongToWrite)

/-- Behind the digest the ticks decide. -/
theorem defect?_of_digest {e : Entry} {d : String} (hd : e.payload.contentHash = .ok d)
    (hh : e.hash = .str d) : e.defect? last = do
      if ← tickBefore e.tick last then
        let limit ← last.plain.mapError .numeric
        let actual ← e.tick.plain.mapError .numeric
        return some (.tick (">= " ++ limit) actual)
      return none := by
  have htext : e.hash.isText d = true := Value.isText_iff.2 hh
  simp only [Entry.defect?, hd, htext, bind, Except.bind, Bool.not_true, Bool.false_eq_true,
    if_false]

/-- What comes of an entry is what comes of the defect that it has. -/
theorem verifyFrom_cons {e : Entry} (he : x.read = .ok e) (checked : Nat) (last : Value)
    (xs : List Presented) :
    verifyFrom read checked last (x :: xs) =
      match e.defect? last with
      | .error f => .error f
      | .ok (some d) => .ok ⟨checked, some d⟩
      | .ok none => verifyFrom read (checked + 1) e.tick xs := by
  cases hd : e.defect? last with
  | error f => simp only [verifyFrom, he, hd]
  | ok d => cases d <;> simp only [verifyFrom, he, hd]

/-- The entry of a document with the digest of its payload. -/
theorem exists_entry (hentry : x.IsEntry) (hseal : x.Sealed) :
    ∃ e d, x.read = .ok e ∧ e.tick = x.tick ∧ e.payload.contentHash = .ok d ∧
      e.hash = .str (Text.ofString d) := by
  obtain ⟨e, he, htick, hpayload, hhash⟩ := read_of_isEntry hentry
  obtain ⟨d, hd, hh⟩ := hseal
  exact ⟨e, d, he, htick, hpayload ▸ hd, hhash ▸ hh⟩

theorem Passes.verifyFrom_eq (h : x.Passes last) (checked : Nat) (xs : List Presented) :
    verifyFrom read checked last (x :: xs) = verifyFrom read (checked + 1) x.tick xs := by
  obtain ⟨hentry, hseal, a, b, ha, hb, hle⟩ := h
  obtain ⟨e, d, he, htick, hd, hh⟩ := exists_entry hentry hseal
  have hbefore : tickBefore e.tick last = .ok false := by
    simp only [htick, tickBefore, hb, ha, hle]
  have hnone : e.defect? last = .ok none := by
    rw [defect?_of_digest hd hh, hbefore]
    rfl
  rw [verifyFrom_cons he, hnone, htick]

theorem Stops.verifyFrom_eq (h : x.Stops last f) (checked : Nat) (xs : List Presented) :
    verifyFrom read checked last (x :: xs) = .error f := by
  cases h with
  | payload hentry _ hf =>
    obtain ⟨e, he, -, hpayload, -⟩ := read_of_isEntry hentry
    have herror : e.defect? last = .error f := by
      rw [Entry.defect?, hpayload, hf]
      rfl
    rw [verifyFrom_cons he, herror]
  | kind hentry hseal hnone =>
    obtain ⟨e, d, he, htick, hd, hh⟩ := exists_entry hentry hseal
    have herror : tickBefore e.tick last =
        .error (.kind (.notOrdered x.tick.kindName last.kindName)) := by
      simp only [htick, tickBefore, hnone]
    rw [verifyFrom_cons he, defect?_of_digest hd hh, herror]
    rfl
  | @long a b hentry hseal ha hb hlt hlong =>
    obtain ⟨e, d, he, htick, hd, hh⟩ := exists_entry hentry hseal
    have hbefore : tickBefore e.tick last = .ok true := by
      simp only [htick, tickBefore, hb, ha, hlt]
    rw [verifyFrom_cons he, defect?_of_digest hd hh, hbefore, htick]
    obtain ⟨-, hlast⟩ | ⟨hshort, s, hlast⟩ := Value.plain_of_tickNumber? ha
    · rw [hlast]
      rfl
    · obtain ⟨-, htold⟩ | ⟨hshort', -⟩ := Value.plain_of_tickNumber? hb
      · rw [hlast, htold]
        rfl
      · exact absurd hlong (not_or.2 ⟨hshort, hshort'⟩)

/-- Behind a number an entry is taken, or it ends verification without a verdict, or it has a
defect. -/
theorem passes_or_stops (x : Presented) (hlast : (tickNumber? last).isSome = true) :
    x.Passes last ∨ (∃ f, x.Stops last f) ∨
      ∀ checked xs, ∃ d, verifyFrom read checked last (x :: xs) = .ok ⟨checked, some d⟩ := by
  obtain ⟨a, ha⟩ := Option.isSome_iff_exists.1 hlast
  by_cases hentry : x.IsEntry
  · obtain ⟨e, he, htick, hpayload, hhash⟩ := read_of_isEntry hentry
    cases hd : x.payload.contentHash with
    | error f =>
      have hsay : x.payload.all Value.isSayable = false := Bool.eq_false_iff.2 fun hs => by
        obtain ⟨d, hd'⟩ := (Value.contentHash_isOk_iff _).2 hs
        rw [hd] at hd'
        cases hd'
      exact .inr (.inl ⟨f, .payload hentry hsay hd⟩)
    | ok d =>
      by_cases hh : x.hash = .str d
      · have hseal : x.Sealed := ⟨d, hd, hh⟩
        cases hb : tickNumber? x.tick with
        | none => exact .inr (.inl ⟨_, .kind hentry hseal hb⟩)
        | some b =>
          cases hlt : b.lt a with
          | false => exact .inl ⟨hentry, hseal, a, b, ha, hb, hlt⟩
          | true =>
            by_cases hlong : a.IsLong ∨ b.IsLong
            · exact .inr (.inl ⟨_, .long hentry hseal ha hb hlt hlong⟩)
            · obtain ⟨ha', hb'⟩ := not_or.1 hlong
              obtain ⟨s, hs⟩ := ((Value.plain_of_tickNumber? ha).resolve_left (ha' ·.1)).2
              obtain ⟨t, ht⟩ := ((Value.plain_of_tickNumber? hb).resolve_left (hb' ·.1)).2
              have hbefore : tickBefore e.tick last = .ok true := by
                simp only [htick, tickBefore, hb, ha, hlt]
              refine .inr (.inr fun checked xs => ⟨.tick (">= " ++ s) t, ?_⟩)
              rw [verifyFrom_cons he, defect?_of_digest (hpayload ▸ hd) (hhash ▸ hh), hbefore,
                htick, hs, ht]
              rfl
      · refine .inr (.inr fun checked xs => ⟨.hash d x.hash, ?_⟩)
        rw [verifyFrom_cons he, Entry.defect?_of_hash (hpayload ▸ hd) (hhash ▸ hh), hhash]
  · obtain ⟨f, hf, hmalformed⟩ := read_of_not_isEntry hentry
    refine .inr (.inr fun checked xs => ⟨.malformed f, ?_⟩)
    rw [verifyFrom, hf]
    exact if_pos hmalformed

/-! ### Whole ledgers -/

/-- A ledger is valid exactly if its entries are those of documents, carry the digests of their
payloads, and no tick is less than the one right before it. -/
theorem verifyFrom_valid_iff_isChain (hlast : (tickNumber? last).isSome = true) :
    (∃ v, verifyFrom read checked last xs = .ok v ∧ v.valid = true) ↔
      (∀ x ∈ xs, x.IsEntry ∧ x.Sealed) ∧ (last :: xs.map tick).IsChain InOrder := by
  induction xs generalizing checked last with
  | nil =>
    exact ⟨fun _ => ⟨List.forall_mem_nil _, .singleton last⟩, fun _ => ⟨_, rfl, rfl⟩⟩
  | cons x xs ih =>
    rw [List.forall_mem_cons, List.map_cons, List.isChain_cons_cons]
    constructor
    · rintro ⟨v, hv, hvalid⟩
      obtain hpass | ⟨f, hstop⟩ | hdefect := passes_or_stops x hlast
      · have hpass' := hpass
        obtain ⟨hentry, hseal, a, b, ha, hb, hle⟩ := hpass'
        rw [hpass.verifyFrom_eq] at hv
        obtain ⟨hentries, hchain⟩ := (ih (Option.isSome_of_eq_some hb)).1 ⟨v, hv, hvalid⟩
        exact ⟨⟨⟨hentry, hseal⟩, hentries⟩, ⟨a, b, ha, hb, hle⟩, hchain⟩
      · rw [hstop.verifyFrom_eq] at hv
        cases hv
      · obtain ⟨d, hd⟩ := hdefect checked xs
        rw [hd] at hv
        obtain rfl := Except.ok.inj hv
        cases hvalid
    · rintro ⟨⟨⟨hentry, hseal⟩, hentries⟩, horder, hchain⟩
      have hpass : x.Passes last := ⟨hentry, hseal, horder⟩
      obtain ⟨a, b, ha, hb, hle⟩ := horder
      rw [hpass.verifyFrom_eq]
      exact (ih (Option.isSome_of_eq_some hb)).2 ⟨hentries, hchain⟩

/-- Verification ends without a verdict exactly at an entry that stops it behind a valid start. -/
theorem verifyFrom_eq_error_iff (hlast : (tickNumber? last).isSome = true) :
    verifyFrom read checked last xs = .error f ↔ ∃ before x after, xs = before ++ x :: after ∧
      (∃ v, verifyFrom read checked last before = .ok v ∧ v.valid = true) ∧
      x.Stops (lastTick last before) f := by
  constructor
  · intro h
    induction xs generalizing checked last with
    | nil => cases h
    | cons x xs ih =>
      obtain hpass | ⟨f', hstop⟩ | hdefect := passes_or_stops x hlast
      · obtain ⟨-, -, a, b, -, hb, -⟩ := id hpass
        rw [hpass.verifyFrom_eq] at h
        obtain ⟨before, y, after, rfl, hvalid, hstop⟩ := ih (Option.isSome_of_eq_some hb) h
        refine ⟨x :: before, y, after, rfl, ?_, ?_⟩
        · rwa [hpass.verifyFrom_eq]
        · rwa [lastTick_cons]
      · rw [hstop.verifyFrom_eq] at h
        obtain rfl := Except.error.inj h
        exact ⟨[], x, xs, rfl, ⟨_, rfl, rfl⟩, hstop⟩
      · obtain ⟨d, hd⟩ := hdefect checked xs
        rw [hd] at h
        cases h
  · rintro ⟨before, x, after, rfl, hvalid, hstop⟩
    induction before generalizing checked last with
    | nil => exact hstop.verifyFrom_eq checked after
    | cons y before ih =>
      obtain ⟨hentries, hchain⟩ := (verifyFrom_valid_iff_isChain hlast).1 hvalid
      rw [List.map_cons, List.isChain_cons_cons] at hchain
      have hpass : y.Passes last :=
        ⟨(hentries y List.mem_cons_self).1, (hentries y List.mem_cons_self).2, hchain.1⟩
      obtain ⟨a, b, -, hb, -⟩ := hchain.1
      rw [hpass.verifyFrom_eq] at hvalid
      rw [lastTick_cons] at hstop
      rw [List.cons_append, hpass.verifyFrom_eq]
      exact ih (Option.isSome_of_eq_some hb) hvalid hstop

theorem isSome_of_isChain (h : (last :: xs.map tick).IsChain InOrder) :
    ∀ x ∈ xs, (tickNumber? x.tick).isSome = true := by
  induction xs generalizing last with
  | nil => exact List.forall_mem_nil _
  | cons x xs ih =>
    rw [List.map_cons, List.isChain_cons_cons] at h
    obtain ⟨⟨a, b, -, hb, -⟩, hchain⟩ := h
    exact List.forall_mem_cons.2 ⟨Option.isSome_of_eq_some hb, ih hchain⟩

/-- Ticks in order are numbers, none of which is less than the one right before it. -/
theorem exists_numbers (h : (last :: xs.map tick).IsChain InOrder) :
    ∃ ticks : List Number, xs.map (fun x => tickNumber? x.tick) = ticks.map some ∧
      ticks.IsChain fun a b => b.lt a = false := by
  have hsome := isSome_of_isChain h
  let number (x : Presented) : Number := (tickNumber? x.tick).getD .nan
  refine ⟨xs.map number, ?_, ?_⟩
  · rw [List.map_map]
    refine List.map_congr_left fun x hx => ?_
    obtain ⟨a, ha⟩ := Option.isSome_iff_exists.1 (hsome x hx)
    simp [number, ha]
  · have htail : (xs.map tick).IsChain InOrder := h.tail
    rw [List.isChain_map] at htail ⊢
    refine htail.imp fun x y hxy => ?_
    obtain ⟨a, b, ha, hb, hle⟩ := hxy
    simpa [number, ha, hb] using hle

/-- The ticks of a ledger that verifies are numbers, and none of them is less than the one right
before it. One is less than an earlier one only if a NaN stands between the two. -/
theorem verifyDocument_ordered {docs : List Value} {v : Verdict}
    (h : verifyDocument (.list docs) = .ok v) (hvalid : v.valid = true) :
    ∃ ticks : List Number,
      docs.map (fun doc => tickNumber? (document doc).tick) = ticks.map some ∧
      (ticks.IsChain fun a b => b.lt a = false) ∧
      ∀ i j, i < j → ∀ (hi : i < ticks.length) (hj : j < ticks.length),
        ticks[j].lt ticks[i] = true →
        ∃ k, ∃ _ : k < ticks.length, i < k ∧ k < j ∧ ticks[k].isNaN = true := by
  rw [← verify_documents] at h
  obtain ⟨-, hchain⟩ := (verifyFrom_valid_iff_isChain rfl).1 ⟨v, h, hvalid⟩
  obtain ⟨ticks, hticks, horder⟩ := exists_numbers hchain
  rw [List.map_map] at hticks
  refine ⟨ticks, hticks, horder, fun i j hij _ hj hlt => ?_⟩
  exact Number.exists_nan_of_lt horder hj hij hlt

/-- A document of an entry without payload at a tick. -/
def bareAt (tick : Number) : Value :=
  .map [("id", .str "one"), ("tick", .num tick), ("operation", .str "NOPE"),
    ("hash", .str "44136fa355b3678a1146ad16f7e8649e94fb4fc21fe77e8310c060f61caaff8a")]

/-- A ledger verifies whose last tick is less than the first. -/
theorem verifyDocument_disordered :
    let docs := [bareAt (.int 5), bareAt .nan, bareAt (.int 3)]
    verifyDocument (.list docs) = .ok ⟨3, none⟩ ∧ (Number.int 3).lt (.int 5) = true ∧
      ∃ ticks : List Number, ∃ _ : ticks.length = 3,
        docs.map (fun doc => tickNumber? (document doc).tick) = ticks.map some ∧
        ticks[2].lt ticks[0] = true ∧ ticks[1].isNaN = true := by
  intro docs
  obtain ⟨⟨n, d⟩, hv, hvalid⟩ := exists_ok (fun v => v.valid && v.checked == 3)
    (x := verifyDocument (.list docs)) (by decide +kernel)
  rw [Bool.and_eq_true, beq_iff_eq] at hvalid
  obtain ⟨hvalid, rfl⟩ := hvalid
  obtain rfl := Option.isNone_iff_eq_none.1 hvalid
  have hlt : (Number.int 3).lt (.int 5) = true := by decide +kernel
  obtain ⟨ticks, hticks, -, hnan⟩ := verifyDocument_ordered hv rfl
  have hdocs : docs.map (fun doc => tickNumber? (document doc).tick) =
      [Number.int 5, .nan, .int 3].map some := rfl
  obtain rfl := List.map_injective_iff.2 (Option.some_injective _) (hdocs.symm.trans hticks)
  obtain ⟨k, hk, hik, hkj, hkn⟩ := hnan 0 2 (by decide) (by decide +kernel) (by decide +kernel) hlt
  obtain rfl : k = 1 := by omega
  exact ⟨hv, hlt, _, rfl, hticks, hlt, hkn⟩

/-! ### Faults -/

theorem Stops.fault_cases (h : x.Stops last f) : f = .numeric .tooLongToWrite ∨
    (∃ u, f = .encoding u) ∨ ∃ kind kind', f = .kind (.notOrdered kind kind') := by
  cases h with
  | payload _ _ hf =>
    obtain h | h := Value.contentHash_eq_error hf
    · exact .inl h
    · exact .inr (.inl h)
  | kind => exact .inr (.inr ⟨_, _, rfl⟩)
  | long => exact .inl rfl

theorem demand_eq_error_iff {r : Except Fault Verdict} : (r >>= Verdict.demand) = .error f ↔
    r = .error f ∨ ∃ v d, r = .ok v ∧ v.defect = some d ∧ f = .integrity v.checked d.message := by
  rw [bind_eq_error]
  refine or_congr_right (exists_congr fun v => ?_)
  cases hd : v.defect with
  | none => simp [Verdict.demand, hd]
  | some d => simp [Verdict.demand, hd, eq_comm]

/-- Verification of a list raises a fault exactly if an entry behind a start that verifies stops it;
in every other case it gives a verdict. Strict verification raises the same faults, and otherwise
nothing but the defect of the verdict. The fault is an integer that is too long, half of a pair in a
payload, or a tick that is no number. -/
theorem verifyDocument_faults (docs : List Value) :
    (∀ f, verifyDocument (.list docs) = .error f ↔
      ∃ before doc after, docs = before ++ doc :: after ∧
        (∃ v, verifyDocument (.list before) = .ok v ∧ v.valid = true) ∧
        (document doc).Stops (lastTick (.int 0) (before.map document)) f) ∧
    (∀ f, (verifyDocument (.list docs) >>= Verdict.demand) = .error f ↔
      verifyDocument (.list docs) = .error f ∨
        ∃ v d, verifyDocument (.list docs) = .ok v ∧ v.defect = some d ∧
          f = .integrity v.checked d.message) ∧
    ∀ f, verifyDocument (.list docs) = .error f → f = .numeric .tooLongToWrite ∨
      (∃ u, f = .encoding u) ∨ ∃ kind kind', f = .kind (.notOrdered kind kind') := by
  have hstops (f : Fault) : verifyDocument (.list docs) = .error f ↔
      ∃ before doc after, docs = before ++ doc :: after ∧
        (∃ v, verifyDocument (.list before) = .ok v ∧ v.valid = true) ∧
        (document doc).Stops (lastTick (.int 0) (before.map document)) f := by
    simp only [← verify_documents]
    rw [verify, verifyFrom_eq_error_iff rfl]
    constructor
    · rintro ⟨before, x, after, hdocs, hvalid, hstop⟩
      obtain ⟨before, rest, rfl, rfl, hrest⟩ := List.map_eq_append_iff.1 hdocs
      obtain ⟨doc, after, rfl, rfl, rfl⟩ := List.map_eq_cons_iff.1 hrest
      exact ⟨before, doc, after, rfl, hvalid, hstop⟩
    · rintro ⟨before, doc, after, rfl, hvalid, hstop⟩
      exact ⟨before.map document, document doc, after.map document, by simp, hvalid, hstop⟩
  refine ⟨hstops, fun f => demand_eq_error_iff, fun f hf => ?_⟩
  obtain ⟨before, doc, after, -, -, hstop⟩ := (hstops f).1 hf
  exact hstop.fault_cases

/-- An entry whose tick is a text ends verification, be it strict or not. -/
theorem verifyDocument_faults_text :
    let doc := Value.map [("id", .str "one"), ("tick", .str "two"), ("operation", .str "NOPE"),
      ("hash", .str "44136fa355b3678a1146ad16f7e8649e94fb4fc21fe77e8310c060f61caaff8a")]
    let f := Fault.kind (.notOrdered "str" "int")
    verifyDocument (.list [doc]) = .error f ∧
      (verifyDocument (.list [doc]) >>= Verdict.demand) = .error f ∧ f.label = "TypeError" := by
  intro doc f
  obtain ⟨hfaults, hstrict, -⟩ := verifyDocument_faults [doc]
  obtain ⟨d, hd, htext⟩ := exists_ok
    (· == "44136fa355b3678a1146ad16f7e8649e94fb4fc21fe77e8310c060f61caaff8a")
    (x := (Value.map []).contentHash) (by decide +kernel)
  obtain rfl := eq_of_beq htext
  have hstop : (document doc).Stops (.int 0) f := by
    refine .kind ⟨_, rfl, by decide⟩ ⟨_, hd, rfl⟩ rfl
  have herror := (hfaults f).2 ⟨[], doc, [], rfl, ⟨_, rfl, rfl⟩, hstop⟩
  exact ⟨herror, (hstrict f).2 (.inl herror), rfl⟩

end Presented
end RuleLedger
