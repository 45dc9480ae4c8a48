import Mathlib.Order.Bounds.Defs
import RuleLedger.Ledger.Verification
import RuleLedger.Proofs.Fields
import RuleLedger.Proofs.Hashable

/-! Verification of ledgers whose ticks are integers. Main statements: a ledger verifies exactly
when it is intact, and the verdict on any other tells how long its longest intact start is and which
check the entry behind it fails first. -/
namespace RuleLedger

/-! ### Entries as they are presented -/

/-- An entry as it comes to verification: an entry itself, or a document. -/
inductive Presented where
  | entry (e : Entry)
  | document (doc : Value)

/-- A tick as an integer. -/
def Value.tickInt? (v : Value) : Option Int :=
  match tickNumber? v with
  | some (.int n) => some n
  | _ => none

namespace Presented

def read : Presented → Except Fault Entry
  | .entry e => .ok e
  | .document doc => Entry.ofValue doc

/-- A document is an entry if it is a mapping with all that every entry has. -/
def IsEntry : Presented → Prop
  | .entry _ => True
  | .document doc => ∃ fs, doc = .map fs ∧
      ∀ k ∈ (["id", "operation", "hash"] : List Text), k ∈ Fields.keys fs

def tick : Presented → Value
  | .entry e => e.tick
  | .document doc => doc.fieldOr "tick" (.int 0)

def payload : Presented → Value
  | .entry e => e.payload
  | .document doc => doc.fieldOr "payload" (.map [])

def hash : Presented → Value
  | .entry e => e.hash
  | .document doc => doc.fieldOr "hash" .null

/-- The tick, which is an integer in what follows. -/
def number (x : Presented) : Int := x.tick.tickInt?.getD 0

/-- The hash is the digest of the payload. -/
def Sealed (x : Presented) : Prop :=
  ∃ d : String, x.payload.contentHash = .ok d ∧ x.hash = .str d

/-- Verify what is presented. -/
def verify (xs : List Presented) : Except Fault Verdict := verifyFrom read 0 (.int 0) xs

/-- Entries with the digests of their payloads, whose ticks never go back from a given one on. -/
structure IntactFrom (m : Int) (xs : List Presented) : Prop where
  entries : ∀ x ∈ xs, x.IsEntry
  sealed : ∀ x ∈ xs, x.Sealed
  ordered : (m :: xs.map number).Pairwise (· ≤ ·)

abbrev Intact (xs : List Presented) : Prop := IntactFrom 0 xs

/-- The tick of the last entry, or that before the first one. -/
def lastTick (last : Value) (xs : List Presented) : Value := (xs.getLast?.map tick).getD last

/-- The first check that an entry fails behind a tick, with its defect. -/
inductive Fails (last : Value) (x : Presented) : Defect → Prop
  | malformed {f : Fault} : ¬x.IsEntry → x.read = .error f → Fails last x (.malformed f)
  | hash {d : String} : x.IsEntry → x.payload.contentHash = .ok d → x.hash ≠ .str d →
      Fails last x (.hash d x.hash)
  | tick {m : Int} {s t : Text} : x.IsEntry → x.Sealed → last.tickInt? = some m → x.number < m →
      last.plain = .ok s → x.tick.plain = .ok t → Fails last x (.tick (">= " ++ s) t)

end Presented

/-! ### One check after the other -/

theorem Value.isText_iff {v : Value} {t : Text} : v.isText t = true ↔ v = .str t := by
  cases v <;> simp [isText]

theorem Number.lt_int {m n : Int} : (Number.int m).lt (.int n) = decide (m < n) := by
  have hpos : (0 : Int) < ((1 <<< (-Dyadic.minExponent).toNat : Nat) : Int) := by
    rw [Nat.shiftLeft_eq, Nat.one_mul]
    exact Int.natCast_pos.2 (Nat.two_pow_pos _)
  simp only [lt, position?, Position.lt]
  rw [decide_eq_decide]
  exact Int.mul_lt_mul_right hpos

theorem Value.require_eq_ok {v w : Value} {k : Text} :
    v.require k = .ok w ↔ ∃ fs, v = .map fs ∧ Fields.get? fs k = some w := by
  constructor
  · intro h
    cases v with
    | map fs =>
      rw [require] at h
      split at h
      · rename_i hw
        exact ⟨fs, rfl, hw.trans (congrArg some (Except.ok.inj h))⟩
      · cases h
    | _ => cases h
  · rintro ⟨fs, rfl, hw⟩
    rw [require, hw]

theorem Value.isMalformed_of_require {v : Value} {k : Text} {f : Fault}
    (h : v.require k = .error f) : f.isMalformed = true := by
  cases v with
  | map fs =>
    rw [require] at h
    split at h
    · cases h
    · exact Except.error.inj h ▸ rfl
  | _ => exact Except.error.inj h ▸ rfl

theorem tickNumber?_of_tickInt? {v : Value} {n : Int} (h : v.tickInt? = some n) :
    tickNumber? v = some (.int n) := by
  rw [Value.tickInt?] at h
  split at h
  · rename_i hn
    rw [hn, Option.some.inj h]
  · cases h

theorem tickBefore_int {tick last : Value} {m n : Int} (hn : tick.tickInt? = some n)
    (hm : last.tickInt? = some m) : tickBefore tick last = .ok (decide (n < m)) := by
  rw [tickBefore, tickNumber?_of_tickInt? hn, tickNumber?_of_tickInt? hm]
  exact congrArg Except.ok Number.lt_int

/-- It does not matter where entries are read from. -/
theorem verifyFrom_map {α β : Type} {f : α → β} {read : β → Except Fault Entry}
    {read' : α → Except Fault Entry} (hf : ∀ a, read (f a) = read' a) (checked : Nat) (last : Value)
    (l : List α) : verifyFrom read checked last (l.map f) = verifyFrom read' checked last l := by
  induction l generalizing checked last with
  | nil => rfl
  | cons a l ih =>
    rw [List.map_cons, verifyFrom, verifyFrom, hf]
    simp only [ih]

namespace Entry

variable {e : Entry} {last : Value} {m n : Int}

/-- An entry without a defect carries the digest of its payload. -/
theorem hash_of_defect? (h : e.defect? last = .ok none) :
    ∃ d : String, e.payload.contentHash = .ok d ∧ e.hash = .str d := by
  rw [Entry.defect?, bind_eq_ok] at h
  obtain ⟨d, hd, h⟩ := h
  refine ⟨d, hd, ?_⟩
  by_cases ht : e.hash.isText d = true
  · exact Value.isText_iff.1 ht
  · rw [Bool.not_eq_true] at ht
    simp [ht, pure, Except.pure] at h

theorem defect?_of_hash {d : String} (hd : e.payload.contentHash = .ok d) (hh : e.hash ≠ .str d) :
    e.defect? last = .ok (some (.hash d e.hash)) := by
  have htext : e.hash.isText d = false := by
    rw [Bool.eq_false_iff]
    exact fun ht => hh (Value.isText_iff.1 ht)
  simp only [defect?, hd, bind, Except.bind, pure, Except.pure, htext, Bool.not_false, if_true]

/-- Behind the digest the ticks decide. -/
theorem defect?_of_sealed {d : String} (hd : e.payload.contentHash = .ok d) (hh : e.hash = .str d)
    (hn : e.tick.tickInt? = some n) (hm : last.tickInt? = some m) :
    e.defect? last =
      if n < m then do
        let limit ← last.plain.mapError .numeric
        let actual ← e.tick.plain.mapError .numeric
        return some (.tick (">= " ++ limit) actual)
      else .ok none := by
  have htext : e.hash.isText d = true := Value.isText_iff.2 hh
  simp only [defect?, hd, tickBefore_int hn hm, htext, bind, Except.bind, pure, Except.pure,
    Bool.not_true, Bool.false_eq_true, if_false, decide_eq_true_eq]

theorem defect?_eq_none_iff (hn : e.tick.tickInt? = some n) (hm : last.tickInt? = some m) :
    e.defect? last = .ok none ↔
      (∃ d : String, e.payload.contentHash = .ok d ∧ e.hash = .str d) ∧ m ≤ n := by
  constructor
  · intro h
    obtain ⟨d, hd, hh⟩ := hash_of_defect? h
    refine ⟨⟨d, hd, hh⟩, ?_⟩
    rw [defect?_of_sealed hd hh hn hm] at h
    by_contra hlt
    rw [if_pos (Int.not_le.1 hlt)] at h
    obtain ⟨_, -, h⟩ := bind_eq_ok.1 h
    obtain ⟨_, -, h⟩ := bind_eq_ok.1 h
    cases h
  · rintro ⟨⟨d, hd, hh⟩, hle⟩
    rw [defect?_of_sealed hd hh hn hm, if_neg (Int.not_lt.2 hle)]

end Entry

/-- An integer that is not too long can be written. -/
theorem Value.plain_of_tickInt? {v : Value} {n : Int} (h : v.tickInt? = some n)
    (hn : n.natAbs < 10 ^ digitLimit) : ∃ s, v.plain = .ok s := by
  have hv := tickNumber?_of_tickInt? h
  cases v with
  | num k =>
    obtain rfl := Option.some.inj hv
    rw [plain, display, Number.text, Json.integerText_eq_ok.2 ⟨hn, rfl⟩]
    · exact ⟨_, rfl⟩
    · simp
  | bool b => cases b <;> exact ⟨_, rfl⟩
  | _ => cases hv

namespace Presented

variable {x : Presented} {xs : List Presented} {last : Value} {m : Int} {checked : Nat}

/-- What is an entry is read, with its parts. -/
theorem read_of_isEntry (h : x.IsEntry) :
    ∃ e, x.read = .ok e ∧ e.tick = x.tick ∧ e.payload = x.payload ∧ e.hash = x.hash := by
  cases x with
  | entry e => exact ⟨e, rfl, rfl, rfl, rfl⟩
  | document doc =>
    obtain ⟨fs, rfl, h⟩ := h
    obtain ⟨hid, h⟩ := List.forall_mem_cons.1 h
    obtain ⟨hoperation, h⟩ := List.forall_mem_cons.1 h
    have hhash := List.forall_mem_singleton.1 h
    obtain ⟨id, hid⟩ := Fields.mem_keys_iff.1 hid
    obtain ⟨operation, hoperation⟩ := Fields.mem_keys_iff.1 hoperation
    obtain ⟨hash, hhash⟩ := Fields.mem_keys_iff.1 hhash
    have hread : Entry.ofValue (.map fs) = .ok
        { id := id
          tick := Value.fieldOr (.map fs) "tick" (.int 0)
          timestamp := Value.fieldOr (.map fs) "timestamp" (.str "")
          operation := operation
          payload := Value.fieldOr (.map fs) "payload" (.map [])
          hash := hash } := by
      simp only [Entry.ofValue, Value.require, hid, hoperation, hhash, bind, Except.bind, pure,
        Except.pure]
    have hfield : Value.fieldOr (.map fs) "hash" .null = hash := by
      rw [Value.fieldOr, Value.field?, hhash, Option.getD_some]
    exact ⟨_, hread, rfl, rfl, hfield.symm⟩

/-- Anything else is malformed. -/
theorem read_of_not_isEntry (h : ¬x.IsEntry) : ∃ f, x.read = .error f ∧ f.isMalformed = true := by
  cases x with
  | entry e => exact absurd trivial h
  | document doc =>
    cases hr : (document doc).read with
    | error f =>
      refine ⟨f, rfl, ?_⟩
      rw [read, Entry.ofValue] at hr
      obtain hr | ⟨id, -, hr⟩ := bind_eq_error.1 hr
      · exact Value.isMalformed_of_require hr
      obtain hr | ⟨operation, -, hr⟩ := bind_eq_error.1 hr
      · exact Value.isMalformed_of_require hr
      obtain hr | ⟨hash, -, hr⟩ := bind_eq_error.1 hr
      · exact Value.isMalformed_of_require hr
      cases hr
    | ok e =>
      rw [read, Entry.ofValue] at hr
      obtain ⟨id, hr₁, hr⟩ := bind_eq_ok.1 hr
      obtain ⟨operation, hr₂, hr⟩ := bind_eq_ok.1 hr
      obtain ⟨hash, hr₃, -⟩ := bind_eq_ok.1 hr
      obtain ⟨fs, rfl, hid⟩ := Value.require_eq_ok.1 hr₁
      obtain ⟨_, hfs, hoperation⟩ := Value.require_eq_ok.1 hr₂
      obtain rfl := Value.map.inj hfs
      obtain ⟨_, hfs, hhash⟩ := Value.require_eq_ok.1 hr₃
      obtain rfl := Value.map.inj hfs
      exact absurd ⟨fs, rfl, List.forall_mem_cons.2 ⟨Fields.mem_keys_iff.2 ⟨_, hid⟩,
        List.forall_mem_cons.2 ⟨Fields.mem_keys_iff.2 ⟨_, hoperation⟩,
          List.forall_mem_singleton.2 (Fields.mem_keys_iff.2 ⟨_, hhash⟩)⟩⟩⟩ h

theorem intactFrom_nil (m : Int) : IntactFrom m [] where
  entries := List.forall_mem_nil _
  sealed := List.forall_mem_nil _
  ordered := List.pairwise_singleton _ m

/-- One entry more in front. -/
theorem intactFrom_cons :
    IntactFrom m (x :: xs) ↔ (x.IsEntry ∧ x.Sealed ∧ m ≤ x.number) ∧ IntactFrom x.number xs := by
  constructor
  · rintro ⟨hentries, hsealed, hordered⟩
    obtain ⟨hentry, hentries⟩ := List.forall_mem_cons.1 hentries
    obtain ⟨hseal, hsealed⟩ := List.forall_mem_cons.1 hsealed
    obtain ⟨hle, hordered⟩ := List.pairwise_cons.1 hordered
    exact ⟨⟨hentry, hseal, hle _ List.mem_cons_self⟩, hentries, hsealed, hordered⟩
  · rintro ⟨⟨hentry, hseal, hle⟩, hentries, hsealed, hordered⟩
    refine ⟨List.forall_mem_cons.2 ⟨hentry, hentries⟩, List.forall_mem_cons.2 ⟨hseal, hsealed⟩,
      List.pairwise_cons.2 ⟨List.forall_mem_cons.2 ⟨hle, fun n hn => ?_⟩, hordered⟩⟩
    exact hle.trans ((List.pairwise_cons.1 hordered).1 n hn)

theorem IntactFrom.sublist {ys : List Presented} (h : IntactFrom m xs) (hy : ys.Sublist xs) :
    IntactFrom m ys where
  entries y hm := h.entries y (hy.subset hm)
  sealed y hm := h.sealed y (hy.subset hm)
  ordered := h.ordered.sublist ((hy.map number).cons_cons m)

theorem tickInt?_number (h : x.tick.tickInt?.isSome = true) :
    x.tick.tickInt? = some x.number := by
  obtain ⟨n, hn⟩ := Option.isSome_iff_exists.1 h
  rw [number, hn, Option.getD_some]

theorem lastTick_cons (last : Value) (x : Presented) (xs : List Presented) :
    lastTick last (x :: xs) = lastTick x.tick xs := by
  rw [lastTick, lastTick, List.getLast?_cons, Option.map_some, Option.getD_some]
  cases xs.getLast? <;> rfl

/-! ### What one entry does -/

theorem verifyFrom_of_passes (hentry : x.IsEntry) (hseal : x.Sealed)
    (hx : x.tick.tickInt?.isSome = true) (hm : last.tickInt? = some m) (hle : m ≤ x.number) :
    verifyFrom read checked last (x :: xs) = verifyFrom read (checked + 1) x.tick xs := by
  obtain ⟨e, he, htick, hpayload, hhash⟩ := read_of_isEntry hentry
  have hnone : e.defect? last = .ok none := by
    refine (Entry.defect?_eq_none_iff (htick ▸ tickInt?_number hx) hm).2 ⟨?_, hle⟩
    rw [hpayload, hhash]
    exact hseal
  rw [verifyFrom, he]
  dsimp only
  rw [hnone, htick]

theorem verifyFrom_of_fails {d : Defect} (hf : Fails last x d)
    (hx : x.tick.tickInt?.isSome = true) :
    verifyFrom read checked last (x :: xs) = .ok ⟨checked, some d⟩ := by
  cases hf with
  | malformed hentry hread =>
    obtain ⟨f, hf, hmalformed⟩ := read_of_not_isEntry hentry
    obtain rfl := Except.error.inj (hf.symm.trans hread)
    rw [verifyFrom, hread]
    exact if_pos hmalformed
  | hash hentry hd hne =>
    obtain ⟨e, he, -, hpayload, hhash⟩ := read_of_isEntry hentry
    rw [← hpayload] at hd
    rw [← hhash] at hne ⊢
    rw [verifyFrom, he]
    dsimp only
    rw [Entry.defect?_of_hash hd hne]
  | tick hentry hseal hm hlt hs ht =>
    obtain ⟨e, he, htick, hpayload, hhash⟩ := read_of_isEntry hentry
    obtain ⟨d, hd, hh⟩ := hseal
    rw [← hpayload] at hd
    rw [← hhash] at hh
    rw [verifyFrom, he]
    dsimp only
    rw [Entry.defect?_of_sealed hd hh (htick ▸ tickInt?_number hx) hm, if_pos hlt, htick, hs, ht]
    rfl

/-- An entry passes or fails, when its payload has a digest and both ticks can be written. -/
theorem passes_or_fails (hm : last.tickInt? = some m)
    (hpayload : x.payload.all Value.isSayable = true) (hs : ∃ s, last.plain = .ok s)
    (ht : ∃ t, x.tick.plain = .ok t) :
    (x.IsEntry ∧ x.Sealed ∧ m ≤ x.number) ∨ ∃ d, Fails last x d := by
  by_cases hentry : x.IsEntry
  · obtain ⟨d, hd⟩ := (Value.contentHash_isOk_iff _).2 hpayload
    by_cases hh : x.hash = .str d
    · obtain hlt | hle := lt_or_ge x.number m
      · obtain ⟨s, hs⟩ := hs
        obtain ⟨t, ht⟩ := ht
        exact .inr ⟨_, .tick hentry ⟨d, hd, hh⟩ hm hlt hs ht⟩
      · exact .inl ⟨hentry, ⟨d, hd, hh⟩, hle⟩
    · exact .inr ⟨_, .hash hentry hd hh⟩
  · obtain ⟨f, hf, -⟩ := read_of_not_isEntry hentry
    exact .inr ⟨_, .malformed hentry hf⟩

theorem Fails.not_passes {d : Defect} (hf : Fails last x d) (hm : last.tickInt? = some m) :
    ¬(x.IsEntry ∧ x.Sealed ∧ m ≤ x.number) := by
  rintro ⟨hentry, ⟨d', hd', hh'⟩, hle⟩
  cases hf with
  | malformed hn _ => exact hn hentry
  | hash _ hd hne =>
    obtain rfl := Except.ok.inj (hd'.symm.trans hd)
    exact hne hh'
  | tick _ _ hlast hlt =>
    obtain rfl := Option.some.inj (hm.symm.trans hlast)
    exact absurd hlt (Int.not_lt.2 hle)

/-! ### Whole ledgers -/

theorem verify_entries (l : Ledger) : verify (l.map entry) = l.verify :=
  verifyFrom_map (fun _ => rfl) 0 (.int 0) l

theorem verify_documents (docs : List Value) :
    verify (docs.map document) = verifyDocument (.list docs) :=
  verifyFrom_map (fun _ => rfl) 0 (.int 0) docs

/-- Entries are found valid exactly when they are intact. -/
theorem verifyFrom_valid_iff (hx : ∀ x ∈ xs, x.tick.tickInt?.isSome = true)
    (hm : last.tickInt? = some m) :
    (∃ v, verifyFrom read checked last xs = .ok v ∧ v.valid = true) ↔ IntactFrom m xs := by
  induction xs generalizing checked last m with
  | nil => exact ⟨fun _ => intactFrom_nil m, fun _ => ⟨_, rfl, rfl⟩⟩
  | cons x xs ih =>
    obtain ⟨hx, hxs⟩ := List.forall_mem_cons.1 hx
    rw [intactFrom_cons]
    constructor
    · rintro ⟨v, hv, hvalid⟩
      by_cases hentry : x.IsEntry
      · obtain ⟨e, he, htick, hpayload, hhash⟩ := read_of_isEntry hentry
        have hv' := hv
        rw [verifyFrom, he] at hv'
        dsimp only at hv'
        split at hv'
        · cases hv'
        · obtain rfl := Except.ok.inj hv'
          cases hvalid
        · rename_i hnone
          obtain ⟨hseal, hle⟩ :=
            (Entry.defect?_eq_none_iff (htick ▸ tickInt?_number hx) hm).1 hnone
          rw [hpayload, hhash] at hseal
          rw [htick] at hv'
          exact ⟨⟨hentry, hseal, hle⟩, (ih hxs (tickInt?_number hx)).1 ⟨v, hv', hvalid⟩⟩
      · obtain ⟨f, hf, -⟩ := read_of_not_isEntry hentry
        rw [verifyFrom_of_fails (.malformed hentry hf) hx] at hv
        obtain rfl := Except.ok.inj hv
        cases hvalid
    · rintro ⟨⟨hentry, hseal, hle⟩, hrest⟩
      rw [verifyFrom_of_passes hentry hseal hx hm hle]
      exact (ih hxs (tickInt?_number hx)).2 hrest

theorem verifyFrom_intact (hx : ∀ x ∈ xs, x.tick.tickInt?.isSome = true)
    (hm : last.tickInt? = some m) (h : IntactFrom m xs) :
    verifyFrom read checked last xs = .ok ⟨checked + xs.length, none⟩ := by
  induction xs generalizing checked last m with
  | nil => rfl
  | cons x xs ih =>
    obtain ⟨hx, hxs⟩ := List.forall_mem_cons.1 hx
    obtain ⟨⟨hentry, hseal, hle⟩, hrest⟩ := intactFrom_cons.1 h
    rw [verifyFrom_of_passes hentry hseal hx hm hle, ih hxs (tickInt?_number hx) hrest,
      List.length_cons, Nat.add_assoc, Nat.add_comm 1]

/-- Entries that are not intact are intact up to one that fails. -/
theorem verifyFrom_not_intact (checked : Nat) (hx : ∀ x ∈ xs, x.tick.tickInt?.isSome = true)
    (hm : last.tickInt? = some m) (hpayload : ∀ x ∈ xs, x.payload.all Value.isSayable = true)
    (hs : ∃ s, last.plain = .ok s) (ht : ∀ x ∈ xs, ∃ t, x.tick.plain = .ok t)
    (h : ¬IntactFrom m xs) :
    ∃ before x after d, xs = before ++ x :: after ∧
      verifyFrom read checked last xs = .ok ⟨checked + before.length, some d⟩ ∧
      IntactFrom m before ∧ Fails (lastTick last before) x d ∧
      ¬IntactFrom m (before ++ [x]) := by
  induction xs generalizing checked last m with
  | nil => exact absurd (intactFrom_nil m) h
  | cons x xs ih =>
    obtain ⟨hhead, hxs⟩ := List.forall_mem_cons.1 hx
    obtain ⟨hpx, hpxs⟩ := List.forall_mem_cons.1 hpayload
    obtain ⟨htx, htxs⟩ := List.forall_mem_cons.1 ht
    obtain hpass | ⟨d, hd⟩ := passes_or_fails hm hpx hs htx
    · have hrest : ¬IntactFrom x.number xs := fun hr => h (intactFrom_cons.2 ⟨hpass, hr⟩)
      obtain ⟨before, y, after, d, rfl, hv, hbefore, hd, hnot⟩ :=
        ih (checked + 1) hxs (tickInt?_number hhead) hpxs htx htxs hrest
      refine ⟨x :: before, y, after, d, rfl, ?_, intactFrom_cons.2 ⟨hpass, hbefore⟩, ?_, ?_⟩
      · rw [verifyFrom_of_passes hpass.1 hpass.2.1 hhead hm hpass.2.2, hv, List.length_cons,
          Nat.add_assoc, Nat.add_comm 1]
      · rwa [lastTick_cons]
      · exact fun hi => hnot (intactFrom_cons.1 hi).2
    · refine ⟨[], x, xs, d, rfl, verifyFrom_of_fails hd hhead, intactFrom_nil m, hd, fun hi => ?_⟩
      exact hd.not_passes hm (intactFrom_cons.1 hi).1

/-- The entries in front of one that spoils them are the longest intact start. -/
theorem isGreatest_intact {before after : List Presented} (h : IntactFrom m before)
    (hnot : ¬IntactFrom m (before ++ [x])) :
    IsGreatest {n | n ≤ (before ++ x :: after).length ∧
      IntactFrom m ((before ++ x :: after).take n)} before.length := by
  refine ⟨⟨?_, ?_⟩, fun n hn => ?_⟩
  · rw [List.length_append]
    exact Nat.le_add_right _ _
  · rwa [List.take_left]
  · by_contra hlt
    refine hnot ?_
    have htake := hn.2.sublist (List.take_sublist (before.length + 1) _)
    rw [List.take_take, Nat.min_eq_left (Nat.lt_of_not_le hlt)] at htake
    rwa [List.append_cons, List.take_left' (by simp)] at htake

end Presented
end RuleLedger
