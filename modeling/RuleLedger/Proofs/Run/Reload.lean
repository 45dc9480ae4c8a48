import RuleLedger.Proofs.Files.Places
import RuleLedger.Proofs.Json.Stored
import RuleLedger.Proofs.Run.Books
import RuleLedger.Proofs.Run.Marked

/-! The documents that a run leaves behind, read again. Main statement: the ledger that is loaded is
the ledger of the run and verifies in full, and the other two documents are the audit trail and the
metrics. -/
namespace RuleLedger

/-! ### Documents in files -/

/-- The text of a stored document. -/
def Json.storedText (doc : Value) : String := String.ofList (indented 0 doc ++ ['\n'])

namespace Work

variable {t u : FileTree} {path : Text} {p : FilePath} {doc : Value}

theorem runOn_store_eq_ok {path : FilePath} (hdoc : doc.isDocument = true) :
    (Artifacts.store path doc).runOn t = (.ok (), u) ↔
      ∃ p, Reaches t path.text p ∧ u = t.store p (Json.storedText doc) := by
  have hpieces : Json.encoded (Json.pieces .stored [] 0 doc) = (Json.indented 0 doc, none) :=
    Json.encoded_pieces hdoc [] 0
  rw [Artifacts.store, hpieces]
  exact runOn_write_eq_ok

theorem runOn_document (hdoc : doc.isDocument = true) (h : Reaches t path p)
    (hf : t.file? p = some (Json.storedText doc)) :
    (document path).runOn t = (.ok doc, t) :=
  runOn_bind_eq_ok.2 ⟨_, t, h.runOn_read hf,
    runOn_ofExcept_eq_ok.2 ⟨Json.readStored_indented hdoc, rfl⟩⟩

end Work

/-! ### Ledgers -/

theorem Entry.ofValue_toValue (e : Entry) : Entry.ofValue e.toValue = .ok e := rfl

theorem Ledger.ofValue_toValue (l : Ledger) : Ledger.ofValue l.toValue = .ok l := by
  have hl : (l.map Entry.toValue).mapM Entry.ofValue = .ok l := by
    induction l with
    | nil => rfl
    | cons e l ih =>
      rw [List.map_cons, List.mapM_cons, Entry.ofValue_toValue, ih]
      rfl
  exact hl

/-- A ledger without a defect has been checked to its end. -/
theorem checked_of_verifyFrom {α : Type} {read : α → Except Fault Entry} {checked : Nat}
    {last : Value} {l : List α} {v : Verdict} (h : verifyFrom read checked last l = .ok v)
    (hv : v.defect = none) : v.checked = checked + l.length := by
  induction l generalizing checked last with
  | nil => exact (Except.ok.inj h).symm ▸ rfl
  | cons x l ih =>
    rw [verifyFrom] at h
    split at h
    · split at h
      · obtain rfl := Except.ok.inj h
        cases hv
      · cases h
    · split at h
      · cases h
      · obtain rfl := Except.ok.inj h
        cases hv
      · rw [ih h, List.length_cons, Nat.add_right_comm, Nat.add_assoc]

/-! ### The ledger of a run as a document -/

theorem Value.isDocument_ofString (s : String) : (str (Text.ofString s)).isDocument = true :=
  isPlain_ofString s

theorem Value.isDocument_nat {n : Nat} (h : n < 10 ^ digitLimit) :
    (nat n).isDocument = true := by
  rw [nat, int, isDocument, all, isPortable, decide_eq_true_eq]
  · exact h
  all_goals simp

theorem Value.isDocument_field? {v w : Value} {k : Text} (h : v.isDocument = true)
    (hk : v.field? k = some w) : w.isDocument = true := by
  cases v with
  | map fs =>
    rw [isDocument, all_map] at h
    exact h.2 (k, w) (Fields.mem_of_get? hk)
  | _ => cases hk

namespace RunResult

variable {setup : Setup} {run : Seed} {initial : Value} {r : RunResult} {bs : List Block}
  {tally : Tally}

theorem isDocument_metric? (h : r.metrics.isDocument = true) {path : List Text} {v : Value}
    (hv : r.metric? path = some v) : v.isDocument = true := by
  induction path using List.reverseRecOn generalizing v with
  | nil =>
    obtain rfl := Option.some.inj hv
    exact h
  | append_singleton path k ih =>
    rw [metric?, List.foldl_append] at hv
    obtain ⟨w, hw, hv⟩ := Option.bind_eq_some_iff.1 hv
    exact Value.isDocument_field? (ih hw) hv

theorem MadeOf.mem_invocations (h : r.MadeOf setup run initial bs tally) {name : Text}
    (hn : name ∈ bs.flatMap Block.calls) : name ∈ tally.invocations.keys := by
  have hcount := Fields.counter_increments [] (bs.flatMap Block.calls) name
  rw [← h.invocations] at hcount
  have hpos := List.count_pos_iff.2 hn
  cases hg : tally.invocations.get? name with
  | some n => exact List.mem_map_of_mem (Fields.mem_of_get? hg)
  | none =>
    rw [hg] at hcount
    simp at hcount
    omega

/-- The name of every primitive that was called is a key of the metrics. -/
theorem MadeOf.isPlain_calls (h : r.MadeOf setup run initial bs tally)
    (hmetrics : r.metrics.isDocument = true) :
    ∀ name ∈ bs.flatMap Block.calls, name.isPlain = true := by
  obtain ⟨timestamp, hm⟩ := h.metrics
  have hcalls : r.metric? ["snapshot", "primitives"] = some (Tally.counters tally.invocations) := by
    rw [metric?, hm]
    rfl
  have hdoc := isDocument_metric? hmetrics hcalls
  rw [Tally.counters, Value.isDocument, Value.all_map, Value.isPortable, Bool.and_eq_true,
    List.all_eq_true, keys_mapValues] at hdoc
  exact fun name hn => hdoc.1.2 name (h.mem_invocations hn)

theorem MadeOf.ticks_lt (h : r.MadeOf setup run initial bs tally)
    (hmetrics : r.metrics.isDocument = true) : r.proof.ticks < 10 ^ digitLimit := by
  obtain ⟨timestamp, hm⟩ := h.metrics
  have hticks : r.metric? ["snapshot", "execution", "totalTicks"] = some (.int r.proof.ticks) := by
    rw [metric?, hm]
    rfl
  exact Json.natAbs_lt_of_isDocument (isDocument_metric? hmetrics hticks)

theorem MadeOf.tick_le (h : r.MadeOf setup run initial bs tally) {b : Block} (hb : b ∈ bs) :
    b.tick ≤ r.proof.ticks := by
  have hmem := List.mem_map_of_mem (f := Block.tick) hb
  rw [h.ticks, List.mem_range'_1] at hmem
  omega

end RunResult

theorem Entry.isDocument_toValue {e : Entry} (h : ∀ f ∈ e.toFields, f.2.isDocument = true) :
    e.toValue.isDocument = true := by
  rw [toValue, Value.isDocument, Value.all_map]
  refine ⟨?_, h⟩
  have hkeys : Fields.keys e.toFields =
      ["id", "tick", "timestamp", "operation", "payload", "hash"].map Text.ofString := rfl
  rw [Value.isPortable, hkeys]
  decide +kernel

/-- The operation of an entry is that of violations or the name of a primitive that was called. -/
theorem Block.Sound.isDocument_operation {setup : Setup} {run : Seed} {b : Block}
    (h : b.Sound setup run) (hcalls : ∀ name ∈ b.calls, name.isPlain = true) :
    ∀ e ∈ b.entries, e.operation.isDocument = true := by
  intro e he
  rcases List.mem_append.1 he with he | he
  · obtain ⟨v, -, hv⟩ := exists_of_mem_right h.recorded he
    rw [hv.operation]
    exact isPlain_ofString Entry.violationOperation
  · have hmem := List.mem_map_of_mem (f := Entry.operation) he
    rw [h.own_operation] at hmem
    obtain ⟨name, hname, hoperation⟩ := List.mem_map.1 hmem
    rw [← hoperation]
    exact hcalls name hname

namespace Setup

variable {setup : Setup} {run : Seed} {initial : Value} {r : RunResult} {log : List LogLine}

/-- The ledger of a run is a document wherever the payloads of its entries and the metrics are. -/
theorem isDocument_ledger (h : setup.execute run initial = .ok (r, log))
    (hpayloads : ∀ e ∈ r.ledger, e.payload.isDocument = true)
    (hmetrics : r.metrics.isDocument = true) : r.ledger.toValue.isDocument = true := by
  obtain ⟨bs, tally, hr⟩ := execute_eq_ok h
  have hcalls := hr.isPlain_calls hmetrics
  have hticks := hr.ticks_lt hmetrics
  rw [Ledger.toValue, Value.isDocument, Value.all_list]
  refine ⟨rfl, List.forall_mem_map.2 fun e he => Entry.isDocument_toValue ?_⟩
  have hmarks := execute_marked h e he
  have hpayload := hpayloads e he
  obtain ⟨d, -, hhash⟩ := execute_hashes h e he
  obtain ⟨seed, hid⟩ := hmarks.id
  obtain ⟨ts, -, htimestamp⟩ := hmarks.timestamp
  rw [hr.ledger] at he
  obtain ⟨b, hb, he⟩ := List.mem_flatMap.1 he
  have htick := (hr.sound b hb).entries_tick e he
  have hoperation := (hr.sound b hb).isDocument_operation
    (fun name hn => hcalls name (List.mem_flatMap.2 ⟨b, hb, hn⟩)) e he
  have hlt : b.tick < 10 ^ digitLimit := Nat.lt_of_le_of_lt (hr.tick_le hb) hticks
  simp only [Entry.toFields, List.forall_mem_cons, hid, htick, htimestamp, hhash]
  exact ⟨Value.isDocument_ofString _, Value.isDocument_nat hlt, Value.isDocument_ofString _,
    hoperation, hpayload, Value.isDocument_ofString _, List.forall_mem_nil _⟩

end Setup

/-! ### Saving and loading -/

/-- Where the documents of a run are kept: a tree with the folders for them, and in it three places
that their paths lead to. -/
structure Artifacts.Fits (a : Artifacts) (before after : FileTree) (p q m : FilePath) : Prop where
  folders : ∃ between, (Work.makeFolders a.folder).runOn before = (.ok (), between) ∧
    (Artifacts.makeParent a.metrics).runOn between = (.ok (), after)
  ledger : Work.Reaches after a.ledger.text p
  violations : Work.Reaches after a.violations.text q
  metrics : Work.Reaches after a.metrics.text m

namespace Artifacts

variable {a : Artifacts} {t t' u : FileTree} {p q m : FilePath} {r : RunResult}

/-- The tree with the documents of a run at three places. -/
def kept (u : FileTree) (p q m : FilePath) (r : RunResult) : FileTree :=
  ((u.store p (Json.storedText r.ledger.toValue)).store q (Json.storedText r.trailValue)).store m
    (Json.storedText r.metrics)

/-- Documents are saved exactly where they fit. -/
theorem runOn_save_eq_ok (hledger : r.ledger.toValue.isDocument = true)
    (htrail : r.trailValue.isDocument = true) (hmetrics : r.metrics.isDocument = true) :
    (a.save r.toValue).runOn t = (.ok (), t') ↔
      ∃ u p q m, a.Fits t u p q m ∧ t' = kept u p q m r := by
  simp only [save, Work.runOn_bind_eq_ok, Work.runOn_ofExcept_eq_ok]
  constructor
  · rintro ⟨⟨⟩, between, hfolder, ⟨⟩, u, hparent, l, _, ⟨hl, rfl⟩, ⟨⟩, u₁, h₁, v, _, ⟨hv, rfl⟩,
      ⟨⟩, u₂, h₂, w, _, ⟨hw, rfl⟩, h₃⟩
    obtain rfl := Except.ok.inj hl
    obtain rfl := Except.ok.inj hv
    obtain rfl := Except.ok.inj hw
    obtain ⟨p, hp, rfl⟩ := (Work.runOn_store_eq_ok hledger).1 h₁
    obtain ⟨q, hq, rfl⟩ := (Work.runOn_store_eq_ok htrail).1 h₂
    obtain ⟨m, hm, rfl⟩ := (Work.runOn_store_eq_ok hmetrics).1 h₃
    exact ⟨u, p, q, m, ⟨⟨between, hfolder, hparent⟩, hp, hq.congr rfl, hm.congr rfl⟩, rfl⟩
  · rintro ⟨u, p, q, m, ⟨⟨between, hfolder, hparent⟩, hp, hq, hm⟩, rfl⟩
    exact ⟨(), between, hfolder, (), u, hparent, _, u, ⟨rfl, rfl⟩,
      (), _, (Work.runOn_store_eq_ok hledger).2 ⟨p, hp, rfl⟩, _, _, ⟨rfl, rfl⟩,
      (), _, (Work.runOn_store_eq_ok htrail).2 ⟨q, hq.congr rfl, rfl⟩, _, _, ⟨rfl, rfl⟩,
      (Work.runOn_store_eq_ok hmetrics).2 ⟨m, hm.congr rfl, rfl⟩⟩

/-- Documents at three places do not overwrite one another. -/
theorem file?_kept (h : [p, q, m].Nodup) (u : FileTree) (r : RunResult) :
    (kept u p q m r).file? p = some (Json.storedText r.ledger.toValue) ∧
      (kept u p q m r).file? q = some (Json.storedText r.trailValue) ∧
      (kept u p q m r).file? m = some (Json.storedText r.metrics) := by
  simp only [List.nodup_cons, List.mem_cons, List.not_mem_nil, or_false, not_or] at h
  obtain ⟨⟨hpq, hpm⟩, hqm, -⟩ := h
  simp only [kept, FileTree.file?_store, hpq, hpm, hqm, if_true, if_false, and_self]

end Artifacts

/-- What a run leaves behind at three places is read again as it was: the ledger entry by entry,
with a verdict that counts every entry and finds no defect, and the audit trail and the metrics
whole. -/
theorem Setup.execute_reloads {setup : Setup} {run : Seed} {initial : Value} {r : RunResult}
    {log : List LogLine} {a : Artifacts} {t u : FileTree} {p q m : FilePath}
    (h : setup.execute run initial = .ok (r, log))
    (hpayloads : ∀ e ∈ r.ledger, e.payload.isDocument = true)
    (htrail : r.trailValue.isDocument = true) (hmetrics : r.metrics.isDocument = true)
    (hfits : a.Fits t u p q m) (hplaces : [p, q, m].Nodup) :
    ∃ t', (a.save r.toValue).runOn t = (.ok (), t') ∧
      (Ledger.load a.ledger.text).runOn t' = (.ok r.ledger, t') ∧
      r.ledger.verify = .ok ⟨r.ledger.length, none⟩ ∧
      (Work.document a.violations.text).runOn t' = (.ok r.trailValue, t') ∧
      (Work.document a.metrics.text).runOn t' = (.ok r.metrics, t') := by
  have hledger := isDocument_ledger h hpayloads hmetrics
  obtain ⟨hp, hq, hm⟩ := Artifacts.file?_kept hplaces u r
  have hreach {path : Text} {place : FilePath} (hu : Work.Reaches u path place) :
      Work.Reaches (Artifacts.kept u p q m r) path place := hu.congr rfl
  have hsave := (Artifacts.runOn_save_eq_ok hledger htrail hmetrics).2 ⟨u, p, q, m, hfits, rfl⟩
  have hload := Work.runOn_document hledger (hreach hfits.ledger) hp
  have hviolations := Work.runOn_document htrail (hreach hfits.violations) hq
  have hsnapshot := Work.runOn_document hmetrics (hreach hfits.metrics) hm
  refine ⟨_, hsave, ?_, ?_, hviolations, hsnapshot⟩
  · exact Work.runOn_bind_eq_ok.2 ⟨_, _, hload,
      Work.runOn_ofExcept_eq_ok.2 ⟨Ledger.ofValue_toValue r.ledger, rfl⟩⟩
  · obtain ⟨⟨checked, defect⟩, hv, rfl⟩ := execute_verifies h
    have hchecked := checked_of_verifyFrom hv rfl
    rw [Nat.zero_add] at hchecked
    rw [hv, ← hchecked]

/-- The documents of a run of two steps, in a folder that is made for them. -/
theorem Setup.sample_reloads :
    let a : Artifacts := ⟨⟨"", ["audit"]⟩, ⟨"", ["metrics_snapshot.json"]⟩⟩
    ∃ r log, sample.execute ⟨[]⟩ (.map []) = .ok (r, log) ∧
      (∀ e ∈ r.ledger, e.payload.isDocument = true) ∧ r.trailValue.isDocument = true ∧
      r.metrics.isDocument = true ∧
      ∃ u p q m, a.Fits .empty u p q m ∧ [p, q, m].Nodup ∧
      ∃ t', (a.save r.toValue).runOn .empty = (.ok (), t') ∧
        (Ledger.load a.ledger.text).runOn t' = (.ok r.ledger, t') ∧
        r.ledger.verify = .ok ⟨r.ledger.length, none⟩ ∧
        (Work.document a.violations.text).runOn t' = (.ok r.trailValue, t') ∧
        (Work.document a.metrics.text).runOn t' = (.ok r.metrics, t') := by
  intro a
  obtain ⟨r, log, h, hdoc⟩ := exists_run sample ⟨[]⟩ (.map [])
    (fun r => r.ledger.all (fun e => e.payload.isDocument) && r.trailValue.isDocument &&
      r.metrics.isDocument) (by decide +kernel)
  simp only [Bool.and_eq_true, List.all_eq_true] at hdoc
  obtain ⟨⟨hpayloads, htrail⟩, hmetrics⟩ := hdoc
  have hfits : a.Fits .empty ⟨[], [⟨"", ["audit"]⟩]⟩ ⟨"", ["audit", Artifacts.ledgerName]⟩
      ⟨"", ["audit", Artifacts.violationsName]⟩ ⟨"", ["metrics_snapshot.json"]⟩ := {
    folders := ⟨⟨[], [⟨"", ["audit"]⟩]⟩, rfl, rfl⟩
    ledger := ⟨rfl, rfl⟩
    violations := ⟨rfl, rfl⟩
    metrics := ⟨rfl, rfl⟩ }
  have hplaces : [(⟨"", ["audit", Artifacts.ledgerName]⟩ : FilePath),
      ⟨"", ["audit", Artifacts.violationsName]⟩, ⟨"", ["metrics_snapshot.json"]⟩].Nodup := by
    decide
  exact ⟨r, log, h, hpayloads, htrail, hmetrics, _, _, _, _, hfits, hplaces,
    execute_reloads h hpayloads htrail hmetrics hfits hplaces⟩

end RuleLedger
