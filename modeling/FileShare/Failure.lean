import FileShare.Failure.Rejection

/-! # Failures

A call fails by a rejection, which is part of the drive's contract, or by a breakdown, which is
not: the call went beyond what the parts under it can do.
-/
namespace FileShare

/-- A value that cannot be compared for equality with others in a set. -/
inductive Container where
  | list
  | object
deriving DecidableEq, Repr

inductive Breakdown where
  | unhashable (kind : Container)
  | unknownTerm (shown : String)
  | integerTooWide
  /-- A text without a UTF-8 form had to be encoded. -/
  | notEncodable
  | repetitionTooLarge
  | numberTooLong
  | conflictingAlphabets
  | unknownOperator
  | identifierTaken
  | unusablePattern
  | unknownPackage (name : String)
  | badSettings (names : List String)
  | tooFewArguments
  | tooManyArguments
  | badArgument (text : String)
  | badFormat (text : String)
  | infiniteInteger
  | integerBeyondReal
  | notACodePoint
  | unknownAttribute
  | instantOutOfRange
  | sizeTooWide (target : String)
deriving DecidableEq, Repr

def Breakdown.message? : Breakdown → Option String
  | unhashable .list => some "unhashable type: 'list'"
  | unhashable .object => some "unhashable type: 'dict'"
  | unknownTerm shown => some ("unsupported matcher term: " ++ shown)
  | integerTooWide => some "Python int too large to convert to SQLite INTEGER"
  | repetitionTooLarge => some "the repetition number is too large"
  | unknownPackage name => some s!"未找到名为 '{name}' 的业务包，可用选项：drive"
  | badSettings names => some (",".intercalate names)
  | tooFewArguments => some "not enough arguments for format string"
  | tooManyArguments => some "not all arguments converted during string formatting"
  | badArgument text => some text
  | infiniteInteger => some "cannot convert float infinity to integer"
  | integerBeyondReal => some "int too large to convert to float"
  | notACodePoint => some "%c arg not in range(0x110000)"
  | sizeTooWide target => some ("Python int too large to convert to C " ++ target)
  | _ => none

inductive Failure where
  | rejected (cause : Rejection)
  | broken (cause : Breakdown)
deriving Repr

def reject (cause : Rejection) : Except Failure α := .error (.rejected cause)

def breakDown (cause : Breakdown) : Except Failure α := .error (.broken cause)

/-- The text in its UTF-8 form, in which it can be stored or compared with what is stored. -/
def RawText.encode : RawText → Except Failure String
  | text s => .ok s
  | unpaired .. => breakDown .notEncodable

end FileShare
