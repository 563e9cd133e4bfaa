/-
Everything that can go wrong, by cause. A cause carries the values and
type names it is about; the wording is in `message`, the name of the
class of error in `kind`, the classes that this class is a kind of in
`bases`, and the class of the error it was raised from, if any, in
`causeKind`. Errors of a caller's own comparator pass through as `foreign`;
they may be of any class, a kind of one of these among them.
-/
import Collation.Text.Template
import Collation.Value.Display

namespace Collation

-- ================================================== text and documents

/-- Octets that are no text in the encoding they claim: the part of the
input that cannot be read, ends as positions, and why. -/
structure DecodingFault where
  codec : String
  start : Nat
  stop : Nat
  firstOctet : UInt8
  reason : String
  deriving DecidableEq

def DecodingFault.message (f : DecodingFault) : String :=
  let place :=
    if f.stop = f.start + 1 then
      "byte 0x" ++ String.ofList (Text.hex 2 f.firstOctet.toNat) ++ " in position "
        ++ toString f.start
    else "bytes in position " ++ toString f.start ++ "-" ++ toString (f.stop - 1)
  "'" ++ f.codec ++ "' codec can't decode " ++ place ++ ": " ++ f.reason

/-- What a JSON text lacks. -/
inductive SyntaxCause where
  | value
  | entryName
  | colon
  | comma
  | closingQuote
  | escape
  | hexEscape
  | controlCharacter
  | extraData
  | byteOrderMark
  deriving DecidableEq

def SyntaxCause.message : SyntaxCause → String
  | value => "Expecting value"
  | entryName => "Expecting property name enclosed in double quotes"
  | colon => "Expecting ':' delimiter"
  | comma => "Expecting ',' delimiter"
  | closingQuote => "Unterminated string starting at"
  | escape => "Invalid \\escape"
  | hexEscape => "Invalid \\uXXXX escape"
  | controlCharacter => "Invalid control character at"
  | extraData => "Extra data"
  | byteOrderMark => "Unexpected UTF-8 BOM (decode using utf-8-sig)"

/-- A JSON text that cannot be read, and where: line and column count from
1, the offset from 0. -/
structure SyntaxFault where
  cause : SyntaxCause
  line : Nat
  column : Nat
  offset : Nat
  deriving DecidableEq

def SyntaxFault.message (f : SyntaxFault) : String :=
  f.cause.message ++ ": line " ++ toString f.line ++ " column " ++ toString f.column
    ++ " (char " ++ toString f.offset ++ ")"

/-- The class of error of a template that cannot be filled. -/
def Text.TemplateCause.kind : Text.TemplateCause → String
  | incomplete | widthTooBig | precisionTooBig _ => "ValueError"
  | unknownLetter script letter _ =>
    if script = .octets ∧ 0x80 ≤ letter.code then "OverflowError" else "ValueError"
  | numberTooBig _ | noCharacter _ | noFloat .characters => "OverflowError"
  | named | taken | unused _ | notOctets | noFloat .octets => "TypeError"

def Text.TemplateCause.message : Text.TemplateCause → String
  | incomplete => "incomplete format"
  | unknownLetter script letter index =>
    if script = .octets ∧ 0x80 ≤ letter.code then
      "character argument not in range(0x110000)"
    else
      let shown :=
        if script = .octets || (0x20 ≤ letter.code && letter.code < 0x7F) then letter.toChar
        else '?'
      "unsupported format character '" ++ shown.toString ++ "' (0x"
        ++ String.ofList (Nat.toDigits 16 letter.code) ++ ") at index " ++ toString index
  | widthTooBig => "width too big"
  | precisionTooBig .characters => "precision too big"
  | precisionTooBig .octets => "prec too big"
  | numberTooBig word => "Python int too large to convert to C " ++ word
  | named => "format requires a mapping"
  | taken => "not enough arguments for format string"
  | unused .characters => "not all arguments converted during string formatting"
  | unused .octets => "not all arguments converted during bytes formatting"
  | notOctets =>
    "%b requires a bytes-like object, or an object that implements __bytes__, not 'int'"
  | noCharacter .characters => "%c arg not in range(0x110000)"
  | noCharacter .octets => "%c arg not in range(256)"
  | noFloat .characters => "int too large to convert to float"
  | noFloat .octets => "float argument required, not int"

/-- What is wrong with one field of a wire document. -/
inductive FieldCause where
  | missing
  | notAnInteger
  | tooSmall (least : Int)
  | notAString
  | notUnicode
  | notAList
  | notARecord (record : String)
  | unknownField
  | notAName
  | unsupportedFormat (found expected : Text)
  | valueCount (claimed : Int) (actual : Nat)
  | keyCount (claimed : Int) (actual : Nat)
  | notABoolean
  deriving DecidableEq

def FieldCause.code : FieldCause → String
  | missing => "missing"
  | notAnInteger => "int_type"
  | tooSmall _ => "greater_than_equal"
  | notAString => "string_type"
  | notUnicode => "string_unicode"
  | notAList => "list_type"
  | notARecord _ => "model_type"
  | unknownField => "extra_forbidden"
  | notAName => "invalid_key"
  | unsupportedFormat .. | valueCount .. | keyCount .. => "value_error"
  | notABoolean => "bool_parsing"

def FieldCause.message : FieldCause → String
  | missing => "Field required"
  | notAnInteger => "Input should be a valid integer"
  | tooSmall least => "Input should be greater than or equal to " ++ toString least
  | notAString => "Input should be a valid string"
  | notUnicode =>
    "Input should be a valid string, unable to parse raw data as a unicode string"
  | notAList => "Input should be a valid list"
  | notARecord record => "Input should be a valid dictionary or instance of " ++ record
  | unknownField => "Extra inputs are not permitted"
  | notAName => "Keys should be strings"
  | unsupportedFormat found expected =>
    "Value error, unsupported format " ++ Text.quoted found ++ ", expected "
      ++ Text.quoted expected
  | valueCount claimed actual =>
    "Value error, value_count is " ++ toString claimed ++ " but " ++ toString actual
      ++ " values follow"
  | keyCount claimed actual =>
    "Value error, key_count is " ++ toString claimed ++ " but " ++ toString actual
      ++ " slots follow"
  | notABoolean => "Input should be a valid boolean, unable to interpret input"

/-- A fault of a field and the path to that field. -/
structure FieldFault where
  place : List String
  cause : FieldCause
  deriving DecidableEq

-- =============================================================== files

/-- Why a file cannot be read or written. -/
inductive FileCause where
  | missing
  | alreadyExists
  | notADirectory
  | isADirectory
  | nameTooLong
  | nullInName
  deriving DecidableEq

def FileCause.kind : FileCause → String
  | missing => "FileNotFoundError"
  | alreadyExists => "FileExistsError"
  | notADirectory => "NotADirectoryError"
  | isADirectory => "IsADirectoryError"
  | nameTooLong => "OSError"
  | nullInName => "ValueError"

/-- The wording of a cause about a path. -/
def FileCause.message (path : String) : FileCause → String
  | missing => "[Errno 2] No such file or directory: " ++ Text.quoted path
  | alreadyExists => "[Errno 17] File exists: " ++ Text.quoted path
  | notADirectory => "[Errno 20] Not a directory: " ++ Text.quoted path
  | isADirectory => "[Errno 21] Is a directory: " ++ Text.quoted path
  | nameTooLong => "[Errno 36] File name too long: " ++ Text.quoted path
  | nullInName => "embedded null byte"

-- =========================================================== arguments

/-- An argument that cannot be used. -/
inductive Misuse where
  | setWithoutComparator
  | withoutKeyComparator
  | withoutValueComparator
  | singleTextAsValues (key values : Value)
  | emptyName
  | notCallable (name : Value)
  | nameTaken (name : Value)
  | unknownName (name : Value)
  | unregistered (shown : String)
  | notFinite (place : String) (x : Value)
  | entryNameNotText (place : String) (name : Value)
  | notJson (place : String) (x : Value)

def Misuse.message : Misuse → String
  | setWithoutComparator => "SortedValueSet requires a comparator."
  | withoutKeyComparator =>
    "key_comparator is required; pass natural_order for natural ordering."
  | withoutValueComparator =>
    "value_comparator is required; pass natural_order for natural ordering."
  | singleTextAsValues key values =>
    "Values for key " ++ key.display ++ " must be an iterable of values, not "
      ++ values.typeName ++ " " ++ values.display ++ "; wrap a single value in a list."
  | emptyName => "Comparator name must be a non-empty string."
  | notCallable name => "Comparator " ++ name.display ++ " is not callable."
  | nameTaken name => "Comparator " ++ name.display ++ " is already registered."
  | unknownName name => "Unknown comparator name: " ++ name.display
  | unregistered shown =>
    "Comparator " ++ shown ++ " is not registered and cannot be encoded."
  | notFinite place x =>
    place ++ " cannot be encoded: non-finite float " ++ x.display
  | entryNameNotText place name =>
    place ++ " cannot be encoded: dict key " ++ name.display ++ " is not a str"
  | notJson place x =>
    place ++ " cannot be encoded: " ++ x.typeName ++ " " ++ x.display
      ++ " does not survive a JSON round trip"

/-- Arguments that do not fit the parameters of an operation. -/
inductive CallCause where
  | missing (names : List String)
  | unexpected (name : String)
  | repeated (name : String)
  /-- More arguments than places; some more may be given by name alone. -/
  | tooMany (least most given named : Nat)

/-- The wording of a cause about an operation. -/
def CallCause.message (operation : String) : CallCause → String
  | missing names =>
    operation ++ "() missing " ++ toString names.length ++ " required positional argument"
      ++ plural names.length ++ ": " ++ listed (names.map fun name => "'" ++ name ++ "'")
  | unexpected name =>
    operation ++ "() got an unexpected keyword argument '" ++ name ++ "'"
  | repeated name => operation ++ "() got multiple values for argument '" ++ name ++ "'"
  | tooMany least most given named =>
    let range := if least = most then toString most
      else "from " ++ toString least ++ " to " ++ toString most
    let byName := if named = 0 then ""
      else " positional argument" ++ plural given ++ " (and " ++ toString named
        ++ " keyword-only argument" ++ plural named ++ ")"
    let verb := if given = 1 && named = 0 then " was given" else " were given"
    operation ++ "() takes " ++ range ++ " positional argument"
      ++ (if least = most then plural most else "s") ++ " but " ++ toString given ++ byName
      ++ verb
where
  plural (n : Nat) : String := if n = 1 then "" else "s"
  /-- Words in a row, the last one after an "and". -/
  listed : List String → String
    | [] => ""
    | [a] => a
    | [a, b] => a ++ " and " ++ b
    | [a, b, c] => a ++ ", " ++ b ++ ", and " ++ c
    | a :: rest => a ++ ", " ++ listed rest

-- ============================================================= all faults

/-- A failed operation. -/
inductive Fault where
  /-- The two types have no such order relation. -/
  | incomparable (relation left right : String)
  | badOperands (operator left right : String)
  | badOperand (operator type : String)
  | notIterable (type : String)
  /-- There is nothing to look for in such a thing. -/
  | notSearchable (type : String)
  /-- Only a text can be part of a text. -/
  | notPartOfText (type : String)
  /-- Only octets can be part of octets. -/
  | notOctets (type : String)
  | octetRange
  | notUnpackable (type : String)
  | unhashable (type : String)
  | notReversible (type : String)
  | unsized (type : String)
  | notSubscriptable (type : String)
  | badIndex (container index : String)
  | template (cause : Text.TemplateCause)
  /-- What stands in place of a comparator cannot be called. -/
  | notCallable (type : String)
  | notFoldable (type : String)
  | badEntryName (type : String)
  | notSerializable (type : String)
  | notJsonText (type : String)
  | lacksOperation (type name : String)
  | tooFewParts (got : Nat)
  | tooManyParts
  | tooManyDigits (digits : Nat)
  /-- An integer has more digits than are ever written. -/
  | integerTooLong
  | zeroModulus (ofFloats : Bool)
  | outOfFloatRange
  /-- A look-up of this key found nothing. -/
  | absent (key : Value)
  /-- The collection to take an element from is empty. -/
  | emptyPop (about : String)
  | nothingToPop
  /-- The collection to look at one end of is empty. -/
  | emptyEnd (about : String)
  | indexRange (container : String)
  /-- Nothing can be assigned to, or deleted from, such a thing. -/
  | immutable (type change : String)
  /-- The index is no machine word. -/
  | indexTooLarge
  /-- There is no room for all that is to be listed. -/
  | outOfMemory
  | syntaxError (fault : SyntaxFault)
  | undecodable (fault : DecodingFault)
  /-- A record of the wire whose fields are at fault. -/
  | invalidRecord (record : String) (faults : List FieldFault)
  | file (cause : FileCause) (path : String)
  | call (operation : String) (cause : CallCause)
  | nameNotText (type : String)
  | notAPath (type : String)
  | octetsAsPath
  /-- A text with halves of surrogate pairs in it has no octets: the text from
  the first half on, and the place of that. -/
  | unencodable (rest : List CodePoint) (start : Nat)
  | misuse (cause : Misuse)
  | nullRejected (role : String) (cause : Fault)
  /-- Encoded data that is not JSON text. -/
  | corruptSyntax (fault : SyntaxFault)
  | corruptText (fault : DecodingFault)
  | corruptRoot (type : String)
  | corruptFields (faults : List FieldFault)
  | corruptHash (expected found : Text)
  | corruptName (cause : Misuse)
  | corruptSlot (key : Value) (cause : Fault)
  /-- An error of a caller's own function. -/
  | foreign (type : ErrorClass) (message : String)

namespace Fault

/-- The name of an error's class. -/
def kind : Fault → String
  | incomparable .. | badOperands .. | badOperand .. | notIterable _ | notSearchable _
  | notPartOfText _ | notOctets _ | notUnpackable _
  | unhashable _ | notReversible _ | unsized _ | notSubscriptable _ | badIndex ..
  | notCallable _ | notFoldable _ | badEntryName _ | notSerializable _
  | notJsonText _ | notAPath _ | octetsAsPath | immutable .. | call ..
  | nameNotText _ => "TypeError"
  | template cause => cause.kind
  | lacksOperation .. => "AttributeError"
  | tooFewParts _ | tooManyParts | tooManyDigits _ | integerTooLong | octetRange => "ValueError"
  | zeroModulus _ => "ZeroDivisionError"
  | outOfFloatRange => "OverflowError"
  | absent _ | emptyPop _ | nothingToPop => "KeyError"
  | emptyEnd _ | indexRange _ | indexTooLarge => "IndexError"
  | outOfMemory => "MemoryError"
  | syntaxError _ => "JSONDecodeError"
  | undecodable _ => "UnicodeDecodeError"
  | unencodable .. => "UnicodeEncodeError"
  | invalidRecord .. => "ValidationError"
  | file cause _ => cause.kind
  | misuse _ => "InvalidArgumentError"
  | nullRejected .. => "NullRejectedError"
  | corruptSyntax _ | corruptText _ | corruptRoot _ | corruptFields _ | corruptHash ..
  | corruptName _ | corruptSlot .. => "CorruptDataError"
  | foreign type _ => type.name

/-- The classes that an error's class is a kind of. -/
def bases : Fault → List String
  | absent _ | emptyPop _ | nothingToPop | emptyEnd _ | indexRange _ | indexTooLarge =>
    ["LookupError"]
  | zeroModulus _ | outOfFloatRange => ["ArithmeticError"]
  | template cause => if cause.kind = "OverflowError" then ["ArithmeticError"] else []
  | syntaxError _ | invalidRecord .. => ["ValueError"]
  | undecodable _ | unencodable .. => ["UnicodeError", "ValueError"]
  | file cause _ =>
    match cause with
    | .nullInName | .nameTooLong => []
    | _ => ["OSError"]
  | misuse _ | corruptSyntax _ | corruptText _ | corruptRoot _ | corruptFields _
  | corruptHash .. | corruptName _ | corruptSlot .. => ["SortedMultimapError", "ValueError"]
  | nullRejected .. => ["InvalidArgumentError", "SortedMultimapError", "ValueError"]
  | foreign type _ => type.bases
  | _ => []

/-- The class of an error. -/
def type (e : Fault) : ErrorClass := ⟨e.kind, e.bases⟩

/-- Whether an error is of a class, be it by a kind of that class. -/
def isA (e : Fault) (name : String) : Bool := e.kind == name || e.bases.contains name

/-- The wording of an error. -/
def message : Fault → String
  | incomparable relation left right =>
    "'" ++ relation ++ "' not supported between instances of '" ++ left ++ "' and '"
      ++ right ++ "'"
  | badOperands operator left right =>
    "unsupported operand type(s) for " ++ operator ++ ": '" ++ left ++ "' and '" ++ right
      ++ "'"
  | badOperand operator type =>
    "bad operand type for " ++ operator ++ ": '" ++ type ++ "'"
  | notIterable type => "'" ++ type ++ "' object is not iterable"
  | notSearchable type => "argument of type '" ++ type ++ "' is not iterable"
  | notPartOfText type => "'in <string>' requires string as left operand, not " ++ type
  | notOctets type => "a bytes-like object is required, not '" ++ type ++ "'"
  | octetRange => "byte must be in range(0, 256)"
  | notUnpackable type => "cannot unpack non-iterable " ++ type ++ " object"
  | unhashable type => "unhashable type: '" ++ type ++ "'"
  | notReversible type => "'" ++ type ++ "' object is not reversible"
  | unsized type => "object of type '" ++ type ++ "' has no len()"
  | notSubscriptable type => "'" ++ type ++ "' object is not subscriptable"
  | badIndex container index =>
    if container = "string" then "string indices must be integers, not '" ++ index ++ "'"
    else container ++ " indices must be integers or slices, not " ++ index
  | template cause => cause.message
  | notCallable type => "'" ++ type ++ "' object is not callable"
  | notFoldable type =>
    "descriptor 'casefold' for 'str' objects doesn't apply to a '" ++ type ++ "' object"
  | badEntryName type => "keys must be str, int, float, bool or None, not " ++ type
  | notSerializable type => "Object of type " ++ type ++ " is not JSON serializable"
  | notJsonText type => "the JSON object must be str, bytes or bytearray, not " ++ type
  | lacksOperation type name => "'" ++ type ++ "' object has no attribute '" ++ name ++ "'"
  | tooFewParts got => "not enough values to unpack (expected 2, got " ++ toString got ++ ")"
  | tooManyParts => "too many values to unpack (expected 2)"
  | tooManyDigits digits =>
    "Exceeds the limit (4300 digits) for integer string conversion: value has "
      ++ toString digits
      ++ " digits; use sys.set_int_max_str_digits() to increase the limit"
  | integerTooLong =>
    "Exceeds the limit (4300 digits) for integer string conversion; "
      ++ "use sys.set_int_max_str_digits() to increase the limit"
  | zeroModulus ofFloats => if ofFloats then "float modulo" else "integer modulo by zero"
  | outOfFloatRange => "int too large to convert to float"
  | absent key => key.display
  | emptyPop about => Text.quoted about
  | nothingToPop | outOfMemory => ""
  | emptyEnd about => about
  | indexRange container => container ++ " out of range"
  | immutable type change => "'" ++ type ++ "' object " ++ change
  | call operation cause => cause.message operation
  | nameNotText type => "attribute name must be string, not '" ++ type ++ "'"
  | indexTooLarge => "cannot fit 'int' into an index-sized integer"
  | syntaxError fault => fault.message
  | undecodable fault => fault.message
  | invalidRecord record _ => record
  | file cause path => cause.message path
  | notAPath type => "expected str, bytes or os.PathLike object, not " ++ type
  | octetsAsPath =>
    "argument should be a str object or an os.PathLike object returning str, not "
      ++ "<class 'bytes'>"
  | unencodable rest start =>
    let place :=
      match rest.takeWhile CodePoint.isHalf with
      | [half] =>
        " '\\u" ++ String.ofList (Text.hex 4 half.code) ++ "' in position " ++ toString start
      | halves =>
        "s in position " ++ toString start ++ "-" ++ toString (start + halves.length - 1)
    "'utf-8' codec can't encode character" ++ place ++ ": surrogates not allowed"
  | misuse cause => cause.message
  | nullRejected role cause =>
    "The " ++ role ++ " comparator does not accept None: " ++ cause.message
  | corruptSyntax fault => "Encoded multimap is not valid JSON: " ++ fault.message
  | corruptText fault => "Encoded multimap is not valid JSON: " ++ fault.message
  | corruptRoot type => "Encoded multimap must be a JSON object, got " ++ type
  | corruptFields _ => "Malformed encoded multimap"
  | corruptHash expected found =>
    "Payload hash mismatch: expected " ++ Text.quoted expected ++ ", got "
      ++ Text.quoted found
  | corruptName cause => cause.message
  | corruptSlot key cause =>
    "Slot " ++ key.display ++ " cannot be ordered by the decoded comparators: "
      ++ cause.kind ++ ": " ++ cause.message
  | foreign _ message => message

/-- The class of the error that this one was raised from. -/
def causeKind : Fault → Option String
  | nullRejected _ cause => some cause.kind
  | corruptSyntax _ => some "JSONDecodeError"
  | corruptText _ => some "UnicodeDecodeError"
  | corruptFields _ => some "ValidationError"
  | corruptName _ => some "InvalidArgumentError"
  | corruptSlot _ cause => some cause.kind
  | _ => none

/-- Whether a mapping's defaulting look-up takes this error for an absent
key. It goes by the class alone, so an absent key of another mapping,
met inside a comparator, counts too, and so does any kind of absence that
a comparator has a class of its own for. -/
def isAbsence (e : Fault) : Bool := e.isA "KeyError"

/-- Whether the error is a misused argument; a rejected null is one. -/
def isMisuse (e : Fault) : Bool := e.isA "InvalidArgumentError"

end Fault

end Collation
