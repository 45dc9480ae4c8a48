import RuleLedger.Text.Basic

/-! Cutting a text at every occurrence of a symbol, and the ends of its lines. -/
namespace RuleLedger.Text

variable {α : Type} [DecidableEq α]

def splitList (sep : α) : List α → List (List α)
  | [] => [[]]
  | c :: cs =>
    if c = sep then [] :: splitList sep cs
    else
      match splitList sep cs with
      | [] => [[c]]
      | w :: ws => (c :: w) :: ws

theorem splitList_ne_nil (sep : α) (cs : List α) : splitList sep cs ≠ [] := by
  cases cs with
  | nil => simp [splitList]
  | cons c cs =>
    simp only [splitList]
    split
    · simp
    · split <;> simp

/-- The parts between the separators; there is one more part than separators. -/
def splitAt (sep : Symbol) (s : Text) : List Text := (splitList sep s.toList).map ofList

/-- The same lines with a line feed after each: a carriage return, alone or before a line feed, ends
a line too. -/
def plainLines : List Char → List Char
  | '\r' :: '\n' :: cs => '\n' :: plainLines cs
  | '\r' :: cs => '\n' :: plainLines cs
  | c :: cs => c :: plainLines cs
  | [] => []

end RuleLedger.Text
