import RuleLedger.Digest.Sha256
import RuleLedger.Text.Quoted

/-! Identifiers. A seed has any number of independent descendants, one for each place that may
need an identifier, so that no two places draw the same one. -/
namespace RuleLedger

structure Seed where
  path : List Nat
deriving Repr, DecidableEq

namespace Seed

def fork (s : Seed) (i : Nat) : Seed := ⟨i :: s.path⟩

/-- Sixteen bytes that hang on the whole path. -/
def bytes (s : Seed) : List UInt8 :=
  let text := ",".intercalate (s.path.map toString)
  ((Sha256.digest text.toUTF8.toList).flatMap fun w => Sha256.bigEndian 4 w.toNat).take 16

/-- Mark bytes as a random identifier: version four and the standard variant. -/
def markRandom (bs : List UInt8) : List UInt8 :=
  bs.mapIdx fun i b =>
    if i = 6 then (b &&& 0x0f) ||| 0x40 else if i = 8 then (b &&& 0x3f) ||| 0x80 else b

/-- The identifier of a seed, in groups of 8, 4, 4, 4 and 12 hexadecimal digits. -/
def identifier (s : Seed) : String :=
  let digits := (markRandom s.bytes).flatMap fun b => Text.hex 2 b.toNat
  let group (start size : Nat) : String := String.ofList ((digits.drop start).take size)
  "-".intercalate [group 0 8, group 8 4, group 12 4, group 16 4, group 20 12]

end Seed
end RuleLedger
