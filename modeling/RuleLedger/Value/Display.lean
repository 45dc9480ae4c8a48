import RuleLedger.Value.Basic

/-! Values as messages and logs show them. -/
namespace RuleLedger.Value

mutual

/-- A value with its texts between quotes. -/
def display : Value → Except NumericFault Text
  | .null => .ok "None"
  | .bool true => .ok "True"
  | .bool false => .ok "False"
  | .num n => n.text.map .ofString
  | .str s => .ok (Text.quoted s)
  | .list xs => do return "[" ++ Text.intercalate ", " (← displayItems xs) ++ "]"
  | .map fs => do return "\x7b" ++ Text.intercalate ", " (← displayFields fs) ++ "\x7d"
  | .helper h => .ok (helperText h)
  | .method r m => .ok (methodText r m)

def displayItems : List Value → Except NumericFault (List Text)
  | [] => .ok []
  | v :: vs => do return (← display v) :: (← displayItems vs)

def displayFields : List (Text × Value) → Except NumericFault (List Text)
  | [] => .ok []
  | (k, v) :: fs => do return (Text.quoted k ++ ": " ++ (← display v)) :: (← displayFields fs)

end

/-- A value in running text: a text stands without quotes. -/
def plain : Value → Except NumericFault Text
  | .str s => .ok s
  | v => v.display

end RuleLedger.Value
