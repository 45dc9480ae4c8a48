import RuleLedger.Clock
import RuleLedger.Digest.Seed
import RuleLedger.Json.Writer
import RuleLedger.Setting
import RuleLedger.Terminal.Table

/-! What a command finds around it, and what it answers. -/
namespace RuleLedger.Command

structure Surroundings where
  environment : Variables
  clock : Clock
  seed : Seed
  /-- The number of characters in a line of the terminal. -/
  width : Nat

/-- What a command did with the console. -/
inductive Printing where
  /-- Nothing, or it wrote a document past the console. -/
  | unused
  | done
  /-- The console was given a text that cannot be encoded. -/
  | stuck
deriving Repr, DecidableEq

/-- The status of a command and what it prints. -/
structure Report where
  status : Nat
  output : String
  printing : Printing
deriving Repr, DecidableEq

/-! ### Blocks -/

/-- What is printed in one go, all of it or nothing. -/
inductive Block where
  /-- A marked-up text. -/
  | text (s : Text)
  | table (t : Terminal.Table)
  /-- A document over several lines; what does not fit into a line is cut off. -/
  | document (doc : Value)

/-- The lines of a block, unless it cannot be laid out. -/
def Block.layout? (width : Nat) : Block → Option (List (List Symbol))
  | .text s => (Terminal.markedText? s).map (Terminal.wrap width .fold .start)
  | .table t => t.lines? width
  | .document doc =>
    match Json.write .shown doc with
    | .ok s => some ((Text.splitList (.char '\n') s.toList).map (Terminal.crop width))
    | .error _ => none

namespace Report

/-- Print blocks in turn. One that cannot be shown ends the command with status one. -/
def ofBlocks (w : Surroundings) (status : Nat) : List Block → Report
  | [] => ⟨status, "", .done⟩
  | b :: bs =>
    match b.layout? w.width with
    | none => ⟨1, "", .done⟩
    | some lines =>
      match (Text.joinLines (lines.map .ofList)).string? with
      | none => ⟨1, "", .stuck⟩
      | some text =>
        let rest := ofBlocks w status bs
        { rest with output := text ++ rest.output }

/-- A document that cannot be written ends a command with status one. -/
def ofDocument (status : Nat) (layout : Json.Layout) (doc : Value) : Report :=
  match (Json.write layout doc).toOption.bind Text.string? with
  | some s => ⟨status, s ++ "\n", .unused⟩
  | none => ⟨1, "", .unused⟩

/-- A command that could not do its work. `absent` says that a file is not there. -/
def ofFault (w : Surroundings) (json : Bool) (absent : String) : Fault → Report
  | .file .notFound path =>
    if json then ofDocument 2 .line (.map [("error", .str absent), ("path", .str path)])
    else ofBlocks w 2 [.text ("[red]Error: " ++ absent ++ ":[/red] " ++ path)]
  | f =>
    if json then ofDocument 2 .line (.map [("error", .str f.message)])
    else ofBlocks w 2 [.text ("[red]Error:[/red] " ++ f.message)]

end Report
end RuleLedger.Command
