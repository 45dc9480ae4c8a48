import RuleLedger.Invariant.Binding
import RuleLedger.Proofs.Record.Layer

/-! Bindings read from documents. Main statement: from every document a table is read, the innermost
that the document has; the names bound there to a list are kept, with its texts in their order, and
a table that was read once is read again as it is, wherever it stands. -/
namespace RuleLedger
namespace Bindings

variable {doc table : Value} {fs : Fields Value} {b : Bindings} {n : Text}

/-! ### The table of a document -/

/-- The bindings in the contracts of a document. -/
def contractTable? (doc : Value) : Option Value :=
  (doc.field? "contracts").bind (·.field? tableKey)

/-- The table that a document holds: in its contracts, else at its top, else none if it has
contracts or is no mapping, else the document itself. -/
inductive Holds (doc : Value) : Value → Prop
  | contracts {table : Value} : contractTable? doc = some table → Holds doc table
  | top {table : Value} : contractTable? doc = none → doc.field? tableKey = some table →
      Holds doc table
  | absent : contractTable? doc = none → doc.field? tableKey = none →
      (doc.field? "contracts").isSome = true ∨ (∀ fs, doc ≠ .map fs) → Holds doc (.map [])
  | whole {fs : Fields Value} : doc = .map fs → doc.field? "contracts" = none →
      doc.field? tableKey = none → Holds doc doc

theorem exists_holds (doc : Value) : ∃ table, Holds doc table := by
  cases hcontracts : contractTable? doc with
  | some table => exact ⟨table, .contracts hcontracts⟩
  | none =>
    cases htop : doc.field? tableKey with
    | some table => exact ⟨table, .top hcontracts htop⟩
    | none =>
      cases hfield : doc.field? "contracts" with
      | some v => exact ⟨_, .absent hcontracts htop (.inl (by rw [hfield]; rfl))⟩
      | none =>
        cases doc with
        | map fs => exact ⟨_, .whole rfl hfield htop⟩
        | _ => exact ⟨_, .absent hcontracts htop (.inr nofun)⟩

theorem ofDocument_of_holds (h : Holds doc table) : ofDocument doc = ofTable table := by
  rw [ofDocument]
  unfold tableOf
  cases h with
  | contracts hcontracts =>
    rw [contractTable?] at hcontracts
    rw [hcontracts]
  | top hcontracts htop =>
    rw [contractTable?] at hcontracts
    rw [hcontracts, htop]
  | absent hcontracts htop hnone =>
    rw [contractTable?] at hcontracts
    rw [hcontracts, htop]
    dsimp only
    split
    · rename_i fs hfield
      rw [hfield] at hnone
      obtain hnone | hnone := hnone
      · cases hnone
      · exact absurd rfl (hnone fs)
    · rfl
  | whole hmap hfield htop =>
    subst hmap
    rw [hfield, htop]
    rfl

/-- What stands in a document is a document. -/
theorem isJson_of_field? {v w : Value} (hv : v.isJson = true) (h : v.field? n = some w) :
    w.isJson = true := by
  cases v with
  | map fs => exact Value.isJson_of_get? hv h
  | _ => cases h

theorem Holds.isJson (h : Holds doc table) (hdoc : doc.isJson = true) : table.isJson = true := by
  cases h with
  | contracts hcontracts =>
    obtain ⟨cs, hcs, htable⟩ := Option.bind_eq_some_iff.1 hcontracts
    exact isJson_of_field? (isJson_of_field? hdoc hcs) htable
  | top _ htop => exact isJson_of_field? hdoc htop
  | absent => rfl
  | whole => exact hdoc

/-! ### Cleaning -/

/-- The texts of a list, and nothing of any other value. -/
def textsOf : Option Value → List Text
  | some (.list xs) => xs.filterMap Value.text?
  | _ => []

theorem clean_cons (f : Text × Value) (fs : Fields Value) :
    clean (f :: fs) = ((boundNames? f.2).map fun names => (f.1, names)).toList ++ clean fs := by
  rw [clean, List.filterMap_cons]
  cases boundNames? f.2 <;> rfl

theorem notMem_keys_clean (h : n ∉ fs.keys) : n ∉ Fields.keys (clean fs) := by
  intro hn
  obtain ⟨⟨k, names⟩, hmem, rfl⟩ := List.mem_map.1 hn
  obtain ⟨f, hf, hnames⟩ := List.mem_filterMap.1 hmem
  obtain ⟨names', -, heq⟩ := Option.map_eq_some_iff.1 hnames
  exact h (List.mem_map.2 ⟨f, hf, congrArg Prod.fst heq⟩)

/-- What a cleaned table has under a name. -/
theorem checksFor_clean (h : fs.keys.Nodup) (n : Text) :
    checksFor (clean fs) n = textsOf (Fields.get? fs n) := by
  have hget : Fields.get? (clean fs) n = (Fields.get? fs n).bind boundNames? := by
    induction fs with
    | nil => rfl
    | cons f fs ih =>
      obtain ⟨k, v⟩ := f
      obtain ⟨hk, hfs⟩ := List.nodup_cons.1 h
      rw [clean_cons, Fields.get?_cons]
      cases hv : boundNames? v with
      | some names =>
        rw [Option.map_some, Option.toList_some, List.singleton_append, Fields.get?_cons]
        split_ifs
        · exact hv.symm
        · exact ih hfs
      | none =>
        rw [Option.map_none, Option.toList_none, List.nil_append]
        split_ifs with hn
        · subst hn
          rw [Option.bind_some, hv]
          exact Fields.get?_eq_none (notMem_keys_clean hk)
        · exact ih hfs
  rw [checksFor, hget]
  cases Fields.get? fs n with
  | none => rfl
  | some v => cases v <;> rfl

theorem checksFor_ofTable (h : table.isJson = true) (n : Text) :
    checksFor (ofTable table).1 n = textsOf (table.field? n) := by
  cases table with
  | map fs => exact checksFor_clean (Value.isJson_map.1 h).1 n
  | _ => rfl

/-! ### Cleaned tables -/

/-- Bindings as a table. -/
def toValue (b : Bindings) : Value :=
  .map (Fields.mapValues (fun names => .list (names.map .str)) b)

theorem boundNames?_texts (names : List Text) :
    boundNames? (.list (names.map .str)) = some names := by
  rw [boundNames?, List.filterMap_map]
  exact congrArg some List.filterMap_some

/-- A cleaned table is clean. -/
theorem ofTable_toValue (b : Bindings) : ofTable b.toValue = (b, []) := by
  rw [toValue, ofTable, clean, complaints, Fields.mapValues, List.filterMap_map,
    List.filterMap_map]
  refine Prod.ext ?_ ?_
  · refine (List.filterMap_congr fun f _ => ?_).trans List.filterMap_some
    dsimp only [Function.comp_apply]
    rw [boundNames?_texts]
    rfl
  · refine List.filterMap_eq_nil_iff.2 fun f _ => ?_
    dsimp only [Function.comp_apply]
    rw [boundNames?_texts]

/-- From every document a table is read. Under each name it has the texts of the list that is bound
there, and it is read as it is from every document that holds it: in contracts, at the top, or as a
whole if no binding has one of the two names. -/
theorem ofDocument_cleans (hdoc : doc.isJson = true) :
    let b := (ofDocument doc).1
    (∃ table, Holds doc table) ∧
      (∀ table, Holds doc table → ∀ n, b.checksFor n = textsOf (table.field? n)) ∧
      (∀ again, Holds again b.toValue → ofDocument again = (b, [])) ∧
      Holds (.map [("contracts", .map [(tableKey, b.toValue)])]) b.toValue ∧
      Holds (.map [(tableKey, b.toValue)]) b.toValue ∧
      (("contracts" : Text) ∉ Fields.keys b → (tableKey : Text) ∉ Fields.keys b →
        Holds b.toValue b.toValue) := by
  refine ⟨exists_holds doc, fun table htable n => ?_, fun again hagain => ?_, ?_, ?_, ?_⟩
  · rw [ofDocument_of_holds htable]
    exact checksFor_ofTable (htable.isJson hdoc) n
  · rw [ofDocument_of_holds hagain, ofTable_toValue]
  · exact .contracts rfl
  · exact .top rfl rfl
  · intro hcontracts htop
    refine .whole rfl (Fields.get?_eq_none ?_) (Fields.get?_eq_none ?_)
    · rw [keys_mapValues]
      exact hcontracts
    · rw [keys_mapValues]
      exact htop

/-- The table in the contracts goes before the one at the top, and malformed parts of it go. -/
theorem ofDocument_cleans_mixed :
    let doc : Value := .map
      [("contracts", .map [(tableKey, .map [("A", .str "x"), ("B", .list [.str "y", .int 3])])]),
        (tableKey, .map [("A", .list [.str "z"])])]
    doc.isJson = true ∧ (ofDocument doc).1.checksFor "A" = [] ∧
      (ofDocument doc).1.checksFor "B" = ["y"] ∧
      ofDocument (ofDocument doc).1.toValue = ((ofDocument doc).1, []) := by
  intro doc
  have hdoc : doc.isJson = true := by decide +kernel
  obtain ⟨-, hchecks, hagain, -, -, hwhole⟩ := ofDocument_cleans hdoc
  exact ⟨hdoc, hchecks _ (.contracts rfl) "A", hchecks _ (.contracts rfl) "B",
    hagain _ (hwhole (by decide) (by decide))⟩

end Bindings
end RuleLedger
