import RuleLedger.Number.Basic
import RuleLedger.Text.Quoted

/-! Everything that can go wrong, by cause, with the wording of each cause. -/
namespace RuleLedger

/-- Why an instant has no timestamp. -/
inductive TimeFault where
  /-- Only the years 1 to 9999 are written. -/
  | year (y : Int)
  /-- The year does not fit the calendar. -/
  | calendar
  /-- The seconds do not fit the timer. -/
  | timer
  | tooLarge
deriving Repr, DecidableEq

def TimeFault.message : TimeFault → Text
  | .year y => "year " ++ toString y ++ " is out of range"
  | .calendar => "[Errno 75] Value too large for defined data type"
  | .timer => "timestamp out of range for platform time_t"
  | .tooLarge => NumericFault.integerTooLarge.message

def TimeFault.label : TimeFault → String
  | .year _ => "ValueError"
  | .calendar => "OSError"
  | .timer | .tooLarge => "OverflowError"

/-- Why a key path is malformed or cannot be written. -/
inductive PathFault where
  | invalid
  | emptySegment (text : Text)
  | wholeRecord
  | cannotDescend (kind : String) (segment path : Text)
  | cannotAssign (kind : String) (segment path : Text)
deriving Repr, DecidableEq

def PathFault.message : PathFault → Text
  | .invalid => "Invalid or missing path"
  | .emptySegment text => "Empty segment in path: " ++ Text.quoted text
  | .wholeRecord => "Whole-record assignment requires a mapping"
  | .cannotDescend kind segment path =>
    "Cannot descend into " ++ kind ++ " at '" ++ segment ++ "' of '" ++ path ++ "'"
  | .cannotAssign kind segment path =>
    "Cannot assign into " ++ kind ++ " at '" ++ segment ++ "' of '" ++ path ++ "'"

/-- Why expression text does not match the grammar. Offsets count characters. -/
inductive ParseFault where
  | notText (kind : String)
  | unexpectedCharacter (c : Symbol) (offset : Nat)
  | empty
  | expected (wanted : String) (offset : Nat) (kind : String) (text : Text)
  | unexpectedToken (offset : Nat) (kind : String) (text : Text)
  | trailing (offset : Nat) (text : Text)
deriving Repr, DecidableEq

def ParseFault.message : ParseFault → Text
  | .notText kind => "Expression must be a string, got " ++ kind
  | .unexpectedCharacter c offset =>
    "Unexpected character " ++ Text.quoted (Text.singleton c) ++ " at offset " ++ toString offset
  | .empty => "Empty expression"
  | .expected wanted offset kind text =>
    "Expected " ++ wanted ++ " at offset " ++ toString offset ++ ", got " ++ kind ++ ":" ++
      Text.quoted text
  | .unexpectedToken offset kind text =>
    "Unexpected token at offset " ++ toString offset ++ ": " ++ kind ++ ":" ++ Text.quoted text
  | .trailing offset text =>
    "Unexpected trailing token at offset " ++ toString offset ++ ": " ++ Text.quoted text

/-- Why an expression has no value in its scope. -/
inductive EvaluationFault where
  | undefined (name : Text)
  | notAvailable (group : String) (member : Text)
  | nullRead (key : Text)
  | notAFunction (callee : Text)
  /-- A helper was called with the wrong number of arguments. -/
  | arity (name detail : String)
  /-- A helper failed on its arguments. -/
  | helper (name : String) (cause : Text)
  | places
  | numeric (cause : NumericFault)
  | helperResult (shown : Text)
  | tooDeep
deriving Repr, DecidableEq

def EvaluationFault.message : EvaluationFault → Text
  | .undefined name => name ++ " is not defined"
  | .notAvailable group member => group ++ "." ++ member ++ " is not available"
  | .nullRead key => "Cannot read properties of null (reading '" ++ key ++ "')"
  | .notAFunction callee => callee ++ " is not a function"
  | .arity name detail => name ++ ": " ++ detail
  | .helper name cause => name ++ ": " ++ cause
  | .places => "toFixed() digits argument must be between 0 and 100"
  | .numeric cause => "Numeric evaluation failed: " ++ cause.message
  | .helperResult shown => "Expression produced " ++ shown ++ ", not a value"
  | .tooDeep => "Expression nesting too deep"

/-- One step on the way to a misfit in a plan document. -/
inductive Locus where
  | key (name : Text)
  | item (index : Nat)
deriving Repr, DecidableEq

/-- What a part of a plan document lacks. -/
inductive Misfit where
  | missing
  | notText
  | notList
  | notMapping
  | notStep
deriving Repr, DecidableEq

def Misfit.code : Misfit → String
  | .missing => "missing"
  | .notText => "string_type"
  | .notList => "list_type"
  | .notMapping => "dict_type"
  | .notStep => "model_type"

inductive PlanFault where
  | noSteps
  | stepsNotList
  | invalid (misfits : List (List Locus × Misfit))
deriving Repr, DecidableEq

def PlanFault.message : PlanFault → Text
  | .noSteps => "Plan document must be a step list or carry 'transformation_pipeline'"
  | .stepsNotList => "'transformation_pipeline' must be a list"
  | .invalid _ => "Invalid plan"

/-- A value of the wrong kind where a particular kind is needed. -/
inductive KindFault where
  | notIterable (kind : String)
  /-- Membership is asked of a value that holds no members. -/
  | notContainer (kind : String)
  | notSubscriptable (kind : String)
  | listKey
  | textKey
  | noMember (kind member : String)
  | notOrdered (left right : String)
  /-- An element that should be a pair of a key and a value. -/
  | notPair (index : Nat)
  /-- A container in the place of a key. -/
  | notKey (kind : String)
  | notData (kind : String)
  | operands (operator left right : String)
deriving Repr, DecidableEq

def KindFault.message : KindFault → Text
  | .notIterable kind => "'" ++ kind ++ "' object is not iterable"
  | .notContainer kind => "argument of type '" ++ kind ++ "' is not iterable"
  | .notSubscriptable kind => "'" ++ kind ++ "' object is not subscriptable"
  | .listKey => "list indices must be integers or slices, not str"
  | .textKey => "string indices must be integers, not 'str'"
  | .noMember kind member =>
    "'" ++ kind ++ "' object has no attribute '" ++ member ++ "'"
  | .notOrdered left right =>
    "'<' not supported between instances of '" ++ left ++ "' and '" ++ right ++ "'"
  | .notPair index =>
    "cannot convert dictionary update sequence element #" ++ toString index ++ " to a sequence"
  | .notKey kind => "unhashable type: '" ++ kind ++ "'"
  | .notData kind => "Object of type " ++ kind ++ " is not JSON serializable"
  | .operands operator left right =>
    "unsupported operand type(s) for " ++ operator ++ ": '" ++ left ++ "' and '" ++ right ++ "'"

def KindFault.label : KindFault → String
  | .noMember _ _ => "AttributeError"
  | _ => "TypeError"

/-- Why a text is not a JSON document. Line and column count from one. -/
structure JsonFault where
  problem : String
  line : Nat
  column : Nat
  offset : Nat
deriving Repr, DecidableEq

def JsonFault.message (f : JsonFault) : Text :=
  f.problem ++ ": line " ++ toString f.line ++ " column " ++ toString f.column ++ " (char " ++
    toString f.offset ++ ")"

/-- The halves that stand in the way of an encoding, by number when there is only one. -/
def encodingMessage (u : Text.Unencodable) : Text :=
  let which : Text := if u.length = 1
    then " '" ++ Text.ofList (Text.numbered (.half u.first)) ++ "' in position " ++
      toString u.offset
    else "s in position " ++ toString u.offset ++ "-" ++ toString (u.offset + u.length - 1)
  "'utf-8' codec can't encode character" ++ which ++ ": surrogates not allowed"

/-- Why a file cannot be read or written. -/
inductive FileFault where
  | notFound
  /-- A file stands where a folder should be made. -/
  | occupied
  /-- The way goes through a file. -/
  | notFolder
  | isFolder
  /-- The path or one of its names is longer than the system takes. -/
  | tooLong
  /-- The path holds a character that ends texts on the system. -/
  | nullByte
deriving Repr, DecidableEq

def FileFault.message (path : Text) : FileFault → Text
  | .notFound => "[Errno 2] No such file or directory: " ++ Text.quoted path
  | .occupied => "[Errno 17] File exists: " ++ Text.quoted path
  | .notFolder => "[Errno 20] Not a directory: " ++ Text.quoted path
  | .isFolder => "[Errno 21] Is a directory: " ++ Text.quoted path
  | .tooLong => "[Errno 36] File name too long: " ++ Text.quoted path
  | .nullByte => "embedded null byte"

def FileFault.label : FileFault → String
  | .notFound => "FileNotFoundError"
  | .occupied => "FileExistsError"
  | .notFolder => "NotADirectoryError"
  | .isFolder => "IsADirectoryError"
  | .tooLong => "OSError"
  | .nullByte => "ValueError"

inductive Fault where
  | numeric (cause : NumericFault)
  | time (cause : TimeFault)
  | path (cause : PathFault)
  | parse (cause : ParseFault)
  | evaluation (cause : EvaluationFault)
  | plan (cause : PlanFault)
  | integrity (index : Nat) (problem : Text)
  | kind (cause : KindFault)
  | missingKey (key : Text)
  | json (cause : JsonFault)
  /-- A text with halves of pairs is to be encoded. -/
  | encoding (cause : Text.Unencodable)
  | file (cause : FileFault) (path : Text)
  /-- The text nests deeper than it is read. -/
  | nesting
  | negativeCount
  /-- An element with a number of parts other than a key and a value. -/
  | pairLength (index length : Nat)
  /-- A fault of a primitive that is not built in. -/
  | raised (label : String) (message : Text)
deriving Repr, DecidableEq

namespace Fault

def message : Fault → Text
  | .numeric f => f.message
  | .time f => f.message
  | .path f => f.message
  | .parse f => f.message
  | .evaluation f => f.message
  | .plan f => f.message
  | .integrity index problem =>
    "Ledger integrity check failed at entry " ++ toString index ++ ": " ++ problem
  | .kind f => f.message
  | .missingKey key => Text.quoted key
  | .json f => f.message
  | .encoding u => encodingMessage u
  | .file f p => f.message p
  | .nesting => "maximum recursion depth exceeded"
  | .negativeCount => "Counters can only be incremented by non-negative amounts."
  | .pairLength index length =>
    "dictionary update sequence element #" ++ toString index ++ " has length " ++ toString length ++
      "; 2 is required"
  | .raised _ message => message

/-- The class under which a fault is reported. -/
def label : Fault → String
  | .numeric f => f.label
  | .time f => f.label
  | .path _ => "PathError"
  | .parse _ => "ParseError"
  | .evaluation _ => "EvaluationError"
  | .plan _ => "PlanError"
  | .integrity _ _ => "IntegrityError"
  | .kind f => f.label
  | .missingKey _ => "KeyError"
  | .json _ => "JSONDecodeError"
  | .encoding _ => "UnicodeEncodeError"
  | .file f _ => f.label
  | .nesting => "RecursionError"
  | .negativeCount | .pairLength _ _ => "ValueError"
  | .raised label _ => label

/-- Faults of an expression: its text is malformed, or it has no value in its scope. -/
def ofExpression : Fault → Bool
  | .parse _ | .evaluation _ => true
  | _ => false

end Fault
end RuleLedger
