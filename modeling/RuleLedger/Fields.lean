import RuleLedger.Text.Basic

/-! Mappings from texts that keep the order in which their keys were first written. -/
namespace RuleLedger

abbrev Fields (α : Type) := List (Text × α)

namespace Fields

variable {α β : Type}

def get? (fs : Fields α) (k : Text) : Option α := List.lookup k fs

def has (fs : Fields α) (k : Text) : Bool := fs.any (·.1 == k)

/-- Write a value under a key. A key that is present keeps its place; a new one goes to the end. -/
def put : Fields α → Text → α → Fields α
  | [], k, v => [(k, v)]
  | (k', v') :: fs, k, v => if k' = k then (k, v) :: fs else (k', v') :: put fs k v

/-- Write the fields of the second mapping into the first, in order. -/
def putAll (fs gs : Fields α) : Fields α := gs.foldl (fun acc f => acc.put f.1 f.2) fs

/-- A mapping from pairs in which a key may come again: its last value stands at its first place. -/
def ofPairs (ps : List (Text × α)) : Fields α := putAll [] ps

def keys (fs : Fields α) : List Text := fs.map (·.1)

def mapValues (f : α → β) (fs : Fields α) : Fields β := fs.map fun p => (p.1, f p.2)

/-- Add one to the counter under a key. -/
def increment (fs : Fields Nat) (k : Text) : Fields Nat := fs.put k ((fs.get? k).getD 0 + 1)

@[simp] theorem get?_nil (k : Text) : get? ([] : Fields α) k = none := rfl

theorem get?_cons (k' : Text) (v : α) (fs : Fields α) (k : Text) :
    get? ((k', v) :: fs) k = if k = k' then some v else get? fs k := by
  by_cases h : k = k'
  · simp [get?, h]
  · have hb : (k == k') = false := by simpa using h
    simp [get?, List.lookup_cons, h, hb]

theorem get?_put (fs : Fields α) (k k' : Text) (v : α) :
    get? (put fs k v) k' = if k' = k then some v else get? fs k' := by
  induction fs with
  | nil => simp [put, get?_cons]
  | cons f fs ih =>
    obtain ⟨a, w⟩ := f
    by_cases h : a = k
    · subst h
      by_cases h' : k' = a <;> simp [put, get?_cons, h']
    · by_cases h' : k' = a
      · subst h'
        simp [put, get?_cons, h]
      · simp [put, get?_cons, h, h', ih]

@[simp] theorem get?_put_self (fs : Fields α) (k : Text) (v : α) :
    get? (put fs k v) k = some v := by simp [get?_put]

/-- A write leaves the order of the keys that are there. -/
theorem keys_put (fs : Fields α) (k : Text) (v : α) :
    keys (put fs k v) = if fs.has k then keys fs else keys fs ++ [k] := by
  induction fs with
  | nil => simp [put, keys, has]
  | cons f fs ih =>
    obtain ⟨a, w⟩ := f
    by_cases h : a = k
    · simp [put, keys, has, h]
    · simp only [put, h, ↓reduceIte]
      simp only [keys, has, List.map_cons, List.any_cons] at ih ⊢
      rw [ih]
      by_cases h' : (fs.any fun p => p.1 == k) = true <;> simp [h, h']

end Fields
end RuleLedger
