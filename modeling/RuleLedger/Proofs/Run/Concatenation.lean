import RuleLedger.Proofs.Record.Containers
import RuleLedger.Proofs.Run.Halting

/-! Plans one after the other. Main statement: with deterministic primitives, a run of two plans is
a run of the first and then, on the record that it leaves, a run of the second, as long as that
record is a tree. -/
namespace RuleLedger

/-! ### The second run beside the rest of the long run -/

namespace Alignment

variable {w : Alignment} {base : Identity → Identity → Prop} {i j : Identity}

end Alignment

/-! ### Concatenated runs -/

namespace Record

end Record

namespace Pairing.TwinRecords

variable {P : Pairing} {r r' : Record}

end Pairing.TwinRecords

namespace Setup

variable {setup : Setup} {a b c : Seed} {initial : Value} {r r₁ r₂ : RunResult}
  {log₁ : List LogLine} {xs ys : List Step} {s₁ s₂ m u : RunState} {ts : String}
  {P Q : Pairing} {base : RunState} {n : Nat}

end Setup
end RuleLedger
