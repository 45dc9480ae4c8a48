import RuleLedger.Digest.Seed

/-! Identities. Lists, mappings and callables are things: two of them may have the same content and
still be two. An identity says which thing one is. -/
namespace RuleLedger

/-- One step from a container to a value that it holds. -/
inductive Slot where
  | key (name : Text)
  | item (index : Nat)
deriving Repr, DecidableEq

/-- The steps from a container to a value inside it, the innermost step first. -/
abbrev Place := List Slot

inductive Identity where
  /-- A helper that every expression reaches under the same name. -/
  | shelf (name : String)
  /-- The thing at a place of a whole that was made at a seed. -/
  | part (seed : Seed) (place : Place)
  /-- The copy of a thing that was made at a seed. -/
  | copy (seed : Seed) (source : Identity)
deriving Repr, DecidableEq

end RuleLedger
