import RuleLedger.Proofs.Hashable
import RuleLedger.Proofs.Run.Step

/-! Entries and violations of two runs side by side, where the second run counts its ticks from
another number and reads another clock. Whether an entry can be stamped depends on neither. -/
namespace RuleLedger

/-- Two results that are both faults, whatever these are, or both none and related. -/
abbrev Both {ε α α' : Type} (R : α → α' → Prop) : Except ε α → Except ε α' → Prop :=
  Agree (fun _ _ => True) R

/-- Whether a tick still can be written after a number of ticks is added. -/
def Fits (n tick : Nat) : Prop := n = 0 ∨ tick + n < 10 ^ digitLimit

theorem Fits.mono {n tick tick' : Nat} (h : Fits n tick) (hle : tick' ≤ tick) : Fits n tick' :=
  h.imp_right fun h => Nat.lt_of_le_of_lt (Nat.add_le_add_right hle n) h

/-- The same violation at a later tick and with another timestamp. -/
def Violation.moved (n : Nat) (timestamp : String) (v : Violation) : Violation :=
  { v with tick := v.tick + n, timestamp := timestamp }

variable {n : Nat} {ts ts' : String} {v : Violation} {A B : Clock}

theorem contentHash_int_isOk {k : Nat} :
    (∃ d, (Value.nat k).contentHash = .ok d) ↔ k < 10 ^ digitLimit := by
  simp [Value.contentHash_isOk_iff, Value.nat, Value.int, Value.all, Value.isSayable]

/-- An entry with a canonical copy of its payload, at an instant. -/
structure Entry.IsStampAt (e : Entry) (timestamp : String) (tick : Nat) (operation : Text)
    (payload : Value) : Prop extends e.IsStamp tick operation payload where
  timestamp : e.timestamp = .str timestamp

theorem Entry.isStampAt_of_stamp {seed : Seed} {tick : Nat} {operation : Text} {payload : Value}
    {e : Entry} (hA : A.timestamp = .ok ts)
    (h : Entry.stamp A seed (.nat tick) operation payload = .ok e) :
    e.IsStampAt ts tick operation payload := by
  refine ⟨Entry.isStamp_of_stamp h, ?_⟩
  simp only [Entry.stamp, bind_eq_ok, pure_eq_ok, mapError_eq_ok, hA] at h
  obtain ⟨_, he, _, -, rfl⟩ := h
  rw [Except.ok.inj he]

theorem Entry.stamp_isOk (hA : A.timestamp = .ok ts) (seed : Seed) (tick : Nat) (operation : Text)
    (payload : Value) :
    (∃ e, Entry.stamp A seed (.nat tick) operation payload = .ok e) ↔
      ∃ d, payload.contentHash = .ok d := by
  simp only [Entry.stamp, bind_eq_ok, pure_eq_ok, mapError_eq_ok, hA, Value.contentHash_canonical]
  constructor
  · rintro ⟨_, _, -, d, hd, -⟩
    exact ⟨d, hd⟩
  · rintro ⟨d, hd⟩
    exact ⟨_, _, rfl, d, hd, rfl⟩

/-- Entries of two payloads of which both or none have digests. -/
theorem Entry.stamp_both {s t : Seed} {i j : Nat} {operation : Text} {p q : Value}
    (hA : A.timestamp = .ok ts) (hB : B.timestamp = .ok ts')
    (h : (∃ d, p.contentHash = .ok d) ↔ ∃ d, q.contentHash = .ok d) :
    Both (fun e e' => e.IsStampAt ts i operation p ∧ e'.IsStampAt ts' j operation q)
      (Entry.stamp A s (.nat i) operation p) (Entry.stamp B t (.nat j) operation q) := by
  have hl := Entry.stamp_isOk hA s i operation p
  have hr := Entry.stamp_isOk hB t j operation q
  cases hx : Entry.stamp A s (.nat i) operation p with
  | error f =>
    cases hy : Entry.stamp B t (.nat j) operation q with
    | error f' => exact .error trivial
    | ok e' =>
      obtain ⟨e, he⟩ := hl.2 (h.2 (hr.1 ⟨e', hy⟩))
      rw [hx] at he
      cases he
  | ok e =>
    obtain ⟨e', hy⟩ := hr.2 (h.1 (hl.1 ⟨e, hx⟩))
    rw [hy]
    exact .ok ⟨Entry.isStampAt_of_stamp hA hx, Entry.isStampAt_of_stamp hB hy⟩

/-- An entry of the one run and the entry of the other that stands for the same. -/
inductive Entry.Moved (n : Nat) (ts ts' : String) : Entry → Entry → Prop
  | step {e e' : Entry} {tick : Nat} {operation : Text} {inputs output : Value} :
    e.IsStampAt ts tick operation (Entry.stepPayload inputs output) →
    e'.IsStampAt ts' (tick + n) operation (Entry.stepPayload inputs output) →
    Entry.Moved n ts ts' e e'
  | violation {e e' : Entry} {v : Violation} : v.timestamp = ts →
    e.IsStampAt ts v.tick Entry.violationOperation v.toValue →
    e'.IsStampAt ts' (v.tick + n) Entry.violationOperation (v.moved n ts').toValue →
    Entry.Moved n ts ts' e e'

/-- An entry without its identifier. -/
def Entry.anonymous (e : Entry) : Entry := { e with id := .null }

/-- Two stamps of one payload at one tick and instant differ in the identifier alone. -/
theorem Entry.IsStampAt.anonymous_eq {e e' : Entry} {tick : Nat} {operation : Text}
    {payload : Value} (h : e.IsStampAt ts tick operation payload)
    (h' : e'.IsStampAt ts tick operation payload) : e.anonymous = e'.anonymous := by
  obtain ⟨d, hd, hh⟩ := h.hash
  obtain ⟨d', hd', hh'⟩ := h'.hash
  rw [h.payload, ← h'.payload] at hd
  obtain rfl := Except.ok.inj (hd.symm.trans hd')
  rw [anonymous, anonymous, h.tick, h.timestamp, h.operation, h.payload, hh, h'.tick, h'.timestamp,
    h'.operation, h'.payload, hh']

/-- Violations of one instant that are not moved stay as they are. -/
theorem Violation.moved_zero (h : v.timestamp = ts) : v.moved 0 ts = v := by
  subst h
  rfl

theorem Entry.Moved.anonymous_eq {e e' : Entry} (h : e.Moved 0 ts ts e') :
    e.anonymous = e'.anonymous := by
  cases h with
  | step he he' => exact he.anonymous_eq he'
  | violation hv he he' =>
    rw [Violation.moved_zero hv] at he'
    exact he.anonymous_eq he'

/-! ### Later ticks -/

/-- A tick so many steps later. -/
def Value.later (n : Nat) : Value → Value
  | .num (.int t) => .int (t + n)
  | v => v

/-- A field, so many steps later if it holds the tick of a violation. -/
def laterField (n : Nat) (f : Text × Value) : Text × Value :=
  (f.1, if f.1 = "tick" then f.2.later n else f.2)

/-- A payload as it is written so many steps later. -/
def Value.laterPayload (n : Nat) : Value → Value
  | .map fs => .map (fs.map (laterField n))
  | v => v

/-- The entry of the same event so many steps later. -/
def Entry.later (n : Nat) (e : Entry) : Entry :=
  { e with
    tick := e.tick.later n
    payload := e.payload.laterPayload n
    hash := match (e.payload.laterPayload n).contentHash with
      | .ok digest => .str digest
      | .error _ => e.hash }

/-- The same violation so many steps later. -/
def Violation.later (n : Nat) (v : Violation) : Violation := { v with tick := v.tick + n }

end RuleLedger
