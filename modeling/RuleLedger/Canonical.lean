import RuleLedger.Json.Writer
import RuleLedger.Digest.Sha256

/-! The canonical form of values: sorted keys, compact text, and the digest of that text. Values
that differ only in the order of keys have one canonical text. -/
namespace RuleLedger

/-- Put a field before the first one whose key is not smaller. -/
def insertField (f : Text × Value) : List (Text × Value) → List (Text × Value)
  | [] => [f]
  | g :: gs => if Text.le f.1 g.1 then f :: g :: gs else g :: insertField f gs

/-- Fields in ascending order of their keys. -/
def sortFields : List (Text × Value) → List (Text × Value)
  | [] => []
  | f :: fs => insertField f (sortFields fs)

mutual

/-- The same value with the keys of every mapping in ascending order. -/
def Value.canonical : Value → Value
  | .list xs => .list (canonicalItems xs)
  | .map fs => .map (sortFields (canonicalFields fs))
  | v => v

def canonicalItems : List Value → List Value
  | [] => []
  | v :: vs => v.canonical :: canonicalItems vs

def canonicalFields : List (Text × Value) → List (Text × Value)
  | [] => []
  | (k, v) :: fs => (k, v.canonical) :: canonicalFields fs

end

/-- The text that is hashed. A NaN is written by its name, a callable by the text that shows it. -/
def Value.canonicalText (v : Value) : Except Fault String := do
  (← Json.write .compact v.canonical).encode.mapError .encoding

/-- A digest in hexadecimal. -/
def Sha256.hexDigest (text : String) : String :=
  String.ofList ((Sha256.digest text.toUTF8.toList).flatMap fun w => Text.hex 8 w.toNat)

/-- The digest of the canonical text. -/
def Value.contentHash (v : Value) : Except Fault String := v.canonicalText.map Sha256.hexDigest

end RuleLedger
