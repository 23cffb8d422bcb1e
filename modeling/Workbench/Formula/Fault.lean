import Workbench.Formula.Tree
import Workbench.Text.Quoted

/-! What can go wrong on the way from the text of a formula to a number, and how it is reported. -/

set_option autoImplicit false

namespace Workbench.Formula

open Text (Codes)

inductive FaultKind where
  | form
  | name
  | unset
  | division
  | overflow
  | value
  | type
  | memory
  | recursion
  | field
  | index
  | key
  | lookup
  | running
  | exhausted
  | encoding
  | decoding
  deriving DecidableEq, Repr

inductive Arity where
  | exactly (count : Nat)
  | atLeast (count : Nat)
  | atMost (count : Nat)
  deriving DecidableEq, Repr

def plural (count : Nat) : String := if count == 1 then "" else "s"

inductive Misuse where
  | takesNone (method : String) (given : Nat)
  | takesOne (method : String) (given : Nat)
  | takesNoNames (method : String)
  | takesOnlyNames (method : String)
  | expected (method : String) (arity : Arity) (given : Nat)
  | wanted (count given : Nat)
  | unpacked (arity : Arity) (given : Nat)
  | takes (method : String) (arity : Arity) (given : Nat)
  | takesByPosition (method : String) (arity : Arity) (given : Nat)
  | unknownName (method name : String)
  | givenTwice (method name : String) (position : Nat)
  | missing (method name : String) (position : Nat)
  | argument (method which sort type : String)
  deriving DecidableEq, Repr

def Misuse.message : Misuse → String
  | takesNone method given => method ++ "() takes no arguments (" ++ toString given ++ " given)"
  | takesOne method given => method ++ "() takes exactly one argument (" ++ toString given ++ " given)"
  | takesNoNames method => method ++ "() takes no keyword arguments"
  | takesOnlyNames method => method ++ "() takes no positional arguments"
  | expected method arity given => method ++ " " ++ wantedOf arity given
  | unpacked arity given => wantedOf arity given
  | wanted count given =>
    "expected " ++ toString count ++ " argument" ++ plural count ++ ", got " ++ toString given
  | takes method arity given => method ++ "() takes " ++ counted arity "" given
  | takesByPosition method arity given => method ++ "() takes " ++ counted arity "positional " given
  | unknownName method word => "'" ++ word ++ "' is an invalid keyword argument for " ++ method ++ "()"
  | givenTwice method word position =>
    "argument for " ++ method ++ "() given by name ('" ++ word ++ "') and position (" ++
      toString position ++ ")"
  | missing method word position =>
    method ++ "() missing required argument '" ++ word ++ "' (pos " ++ toString position ++ ")"
  | argument method which sort type =>
    method ++ "() " ++ which ++ " must be " ++ sort ++ ", not " ++ type
where
  wantedOf (arity : Arity) (given : Nat) : String :=
    let (bound, count) := match arity with
      | .exactly count => ("", count)
      | .atLeast count => ("at least ", count)
      | .atMost count => ("at most ", count)
    "expected " ++ bound ++ toString count ++ " argument" ++ plural count ++ ", got " ++ toString given
  counted (arity : Arity) (sort : String) (given : Nat) : String :=
    let (bound, count) := match arity with
      | .exactly count => ("exactly ", count)
      | .atLeast count => ("at least ", count)
      | .atMost count => ("at most ", count)
    bound ++ toString count ++ " " ++ sort ++ "argument" ++ plural count ++ " (" ++ toString given ++
      " given)"

inductive Mismatch where
  | missing (sort : String) (names : List String)
  | tooMany (least most given names : Nat)
  | unexpected (name : String)
  | twice (name : String)
  | byNameOnly (names : List String)
  deriving DecidableEq, Repr

def enumerated : List String → String
  | [] => ""
  | [word] => "'" ++ word ++ "'"
  | [first, second] => "'" ++ first ++ "' and '" ++ second ++ "'"
  | names =>
    ", ".intercalate (names.dropLast.map fun word => "'" ++ word ++ "'") ++ ", and '" ++
      names.getLast?.getD "" ++ "'"

def Mismatch.message (callee : String) (mismatch : Mismatch) : String :=
  callee ++ "() " ++ match mismatch with
  | missing sort names =>
    "missing " ++ toString names.length ++ " required " ++ sort ++ " argument" ++
      plural names.length ++ ": " ++ enumerated names
  | tooMany least most given names =>
    let taken :=
      if least == most then toString most ++ " positional argument" ++ plural most
      else "from " ++ toString least ++ " to " ++ toString most ++ " positional arguments"
    let also :=
      if names == 0 then ""
      else " positional argument" ++ plural given ++ " (and " ++ toString names ++
        " keyword-only argument" ++ plural names ++ ")"
    "takes " ++ taken ++ " but " ++ toString given ++ also ++
      (if given == 1 && names == 0 then " was given" else " were given")
  | unexpected word => "got an unexpected keyword argument '" ++ word ++ "'"
  | twice word => "got multiple values for argument '" ++ word ++ "'"
  | byNameOnly names =>
    "got some positional-only arguments passed as keyword arguments: '" ++ ", ".intercalate names ++ "'"

inductive LayoutFault where
  | tooManyDigits
  | bothSeparators
  | noPrecision
  | malformed (description type : String)
  | separator (separator : Char) (code : Nat)
  | unknownCode (code : Nat) (type : String)
  | signOnText
  | blankOnText
  | zeroOnText
  | alternateOnText
  | alignmentOnText
  | precisionOnInteger
  | zeroOnInteger
  | signOnCharacter
  | alternateOnCharacter
  | zeroPaddingOnComplex
  | alignmentOnComplex
  | unsupported (type : String)
  | precisionTooBig
  deriving DecidableEq, Repr

def letterShown (code : Nat) : String :=
  if 32 < code && code < 128 then (Char.ofNat code).toString
  else "\\x" ++ String.ofList (Nat.toDigits 16 code)

def LayoutFault.message : LayoutFault → String
  | tooManyDigits => "Too many decimal digits in format string"
  | bothSeparators => "Cannot specify both ',' and '_'."
  | noPrecision => "Format specifier missing precision"
  | malformed description type =>
    "Invalid format specifier '" ++ description ++ "' for object of type '" ++ type ++ "'"
  | separator sign code =>
    "Cannot specify '" ++ sign.toString ++ "' with '" ++ letterShown code ++ "'."
  | unknownCode code type =>
    "Unknown format code '" ++ letterShown code ++ "' for object of type '" ++ type ++ "'"
  | signOnText => "Sign not allowed in string format specifier"
  | blankOnText => "Space not allowed in string format specifier"
  | zeroOnText => "Negative zero coercion (z) not allowed in string format specifier"
  | alternateOnText => "Alternate form (#) not allowed in string format specifier"
  | alignmentOnText => "'=' alignment not allowed in string format specifier"
  | precisionOnInteger => "Precision not allowed in integer format specifier"
  | zeroOnInteger => "Negative zero coercion (z) not allowed in integer format specifier"
  | signOnCharacter => "Sign not allowed with integer format specifier 'c'"
  | alternateOnCharacter => "Alternate form (#) not allowed with integer format specifier 'c'"
  | zeroPaddingOnComplex => "Zero padding is not allowed in complex format specifier"
  | alignmentOnComplex => "'=' alignment flag is not allowed in complex format specifier"
  | unsupported type => "unsupported format string passed to " ++ type ++ ".__format__"
  | precisionTooBig => "precision too big"

inductive BraceFault where
  | singleOpening
  | singleClosing
  | unclosed
  | openingInField
  | unmatchedInLayout
  | tooDeep
  | switchToNumbers
  | switchToNames
  | emptyField
  | unclosedBracket
  | afterBracket
  | noConversion
  | noColon
  | unknownConversion (code : Nat)
  | fieldTooLarge
  | outOfRange (index : Nat)
  | needsSequence
  deriving DecidableEq, Repr

def BraceFault.message : BraceFault → String
  | singleOpening => "Single '\x7b' encountered in format string"
  | singleClosing => "Single '\x7d' encountered in format string"
  | unclosed => "expected '\x7d' before end of string"
  | openingInField => "unexpected '\x7b' in field name"
  | unmatchedInLayout => "unmatched '\x7b' in format spec"
  | tooDeep => "Max string recursion exceeded"
  | switchToNumbers =>
    "cannot switch from automatic field numbering to manual field specification"
  | switchToNames =>
    "cannot switch from manual field specification to automatic field numbering"
  | emptyField => "Empty attribute in format string"
  | unclosedBracket => "Missing ']' in format string"
  | afterBracket => "Only '.' or '[' may follow ']' in format field specifier"
  | noConversion => "end of string while looking for conversion specifier"
  | noColon => "expected ':' after conversion specifier"
  | unknownConversion code => "Unknown conversion specifier " ++ letterShown code
  | fieldTooLarge => "Too many decimal digits in format string"
  | outOfRange index =>
    "Replacement index " ++ toString index ++ " out of range for positional args tuple"
  | needsSequence => "Format string contains positional fields"

inductive Fault where
  | malformed
  | nullCharacter
  | outOfMemory
  | tooDeepToRead
  | tooManyCalls
  | comparisonTooDeep
  | writingTooDeep
  | undefined (name : String)
  | unsetLocal (name : String)
  | unsetOuter (name : String)
  | intDivision
  | floatDivision
  | intFloorDivision
  | intModulo
  | floatFloorDivision
  | floatModulo
  | floatDivmod
  | complexDivision
  | zeroToNegative
  | zeroToComplex
  | infiniteToInt
  | undefinedToInt
  | infiniteToRatio
  | undefinedToRatio
  | quotientTooLarge
  | roundedTooLarge
  | intTooLarge
  | powerTooLarge
  | complexTooLarge
  | negativeShift
  | tooManyBits
  | notAnInteger (text : Codes)
  | bytesNotAnInteger (bytes : Codes)
  | tooManyDigits (count : Nat)
  | notConvertible (type : String)
  | notAFloat (text : String)
  | notFloatConvertible (type : String)
  | concatenation (left right : String)
  | bytesConcatenation (right : String)
  | repetition (type : String)
  | countTooLarge
  | wordTooLarge
  | halfWordTooLarge
  | longTooLarge
  | textTooLong
  | bytesTooLong
  | unconverted (kind : String)
  | tooFewArguments
  | mappingNeeded
  | incompleteKey
  | widthNotInteger
  | incompleteFormat
  | unknownFormat (code index : Nat)
  | integerNeeded (format : Char) (type : String)
  | realNeeded (format : Char) (type : String)
  | floatNeeded (type : String)
  | byteFloat (type : String)
  | characterNeeded
  | characterRange
  | byteNeeded
  | byteFormatRange
  | bytesNeeded (type : String)
  | widthTooBig
  | precisionTooBig
  | textOfTooMany
  | operands (operator : Operator) (left right : String)
  | signed (sign : Sign) (type : String)
  | order (comparison : Comparison) (left right : String)
  | notContainer (type : String)
  | notIterable (type : String)
  | notSpreadable (type : String)
  | notSpreadableIn (function type : String)
  | notMappingIn (function type : String)
  | notMapping (type : String)
  | namedTwice (function name : String)
  | namesNotTexts
  | notUnpackable (type : String)
  | tooFewItems (wanted given : Nat)
  | tooFewItemsFor (wanted given : Nat)
  | tooManyItems (wanted : Nat)
  | notAssignable (type : String)
  | noFieldAssignment (type name : String)
  | textMember (type : String)
  | bytesMember (type : String)
  | byteRange
  | byteValue
  | notCallable (type : String)
  | noAttribute (type name : String)
  | noTypeAttribute (type name : String)
  | notSubscriptable (type : String)
  | typeNotSubscriptable (type : String)
  | textIndex (type : String)
  | bytesIndex (type : String)
  | sequenceIndex (sequence type : String)
  | textIndexRange
  | bytesIndexRange
  | sequenceIndexRange (sequence : String)
  | assignmentRange
  | indexTooLarge
  | sliceBound
  | searchBound
  | zeroStep
  | unhashable (type : String)
  | missingKey (written : String)
  | emptyList
  | popRange
  | notInList (written : String)
  | notToRemove
  | notInTuple
  | emptySet
  | emptyMapping
  | pairNotSequence (index : Nat)
  | pairLength (index length : Nat)
  | mappingChanged
  | setChanged
  | listChanged
  | exhausted
  | notIndex (type : String)
  | notIterator (type : String)
  | negativeSpan
  | joinNeedsIterable
  | joinItem (index : Nat) (type : String)
  | joinBytesItem (index : Nat) (type : String)
  | stripArgument (method : String)
  | textNeeded (type : String)
  | textOrNothingNeeded (type : String)
  | fillNotText (type : String)
  | fillLength
  | byteFill (method type : String)
  | affixNeeded (method expected type : String)
  | affixItem (method expected type : String)
  | emptySeparator
  | notFound (part : String)
  | byteOrBytesNeeded (type : String)
  | unknownEncoding (name : String)
  | unknownHandling (name : String)
  | cannotEncode (encoding : String) (shown : String) (position : String) (reason : String)
  | cannotDecode (encoding : String) (shown : String) (position : String) (reason : String)
  | tableLengths
  | tableNotMapping
  | tableCodeRange
  | tableEntry
  | tableKeyLength
  | tableKey
  | tableFirst
  | bytesTableLength
  | bytesTablePartner
  | byteOrder
  | negativeLength
  | bytesTooSmall
  | negativeToBytes
  | notBytes (type : String)
  | hexPosition (position : Nat)
  | hexFloat
  | hexTooLarge
  | hexArgument
  | separatorLength
  | separatorAscii
  | layoutNotText (type : String)
  | powerModulus
  | notInstance (method expected given : String)
  | noOwner (type method : String)
  | complexFirst (type : String)
  | complexSecond (type : String)
  | textWithoutEncoding
  | negativeCount
  | decodingText
  | decodingOther (type : String)
  | encodingOther
  | typeArguments
  | takesNoArguments (type : String)
  | notConstructible (type : String)
  | layout (fault : LayoutFault)
  | braces (fault : BraceFault)
  | misuse (fault : Misuse)
  | mismatch (callee : String) (fault : Mismatch)
  deriving DecidableEq, Repr

/-- The most digits an integer may have on its way to or from text. -/
def digitLimit : Nat := 4300

def limitMessage (detail : String) : String :=
  "Exceeds the limit (" ++ toString digitLimit ++ " digits) for integer string conversion" ++ detail ++
    "; use sys.set_int_max_str_digits() to increase the limit"

/-- What does not spell an integer is shown up to two hundred characters. -/
def notAnIntegerMessage (shown : String) : String :=
  "invalid literal for int() with base 10: " ++ (shown.take 200).toString

namespace Fault

def message : Fault → String
  | malformed => "<SyntaxError>"
  | nullCharacter => "source code string cannot contain null bytes"
  | outOfMemory => ""
  | tooDeepToRead => "maximum recursion depth exceeded during compilation"
  | tooManyCalls => "maximum recursion depth exceeded"
  | comparisonTooDeep => "maximum recursion depth exceeded in comparison"
  | writingTooDeep => "maximum recursion depth exceeded while getting the repr of an object"
  | undefined word => "name '" ++ word ++ "' is not defined"
  | unsetLocal word =>
    "cannot access local variable '" ++ word ++ "' where it is not associated with a value"
  | unsetOuter word =>
    "cannot access free variable '" ++ word ++
      "' where it is not associated with a value in enclosing scope"
  | intDivision => "division by zero"
  | floatDivision => "float division by zero"
  | intFloorDivision => "integer division or modulo by zero"
  | intModulo => "integer modulo by zero"
  | floatFloorDivision => "float floor division by zero"
  | floatModulo => "float modulo"
  | floatDivmod => "float divmod()"
  | complexDivision => "complex division by zero"
  | zeroToNegative => "0.0 cannot be raised to a negative power"
  | zeroToComplex => "0.0 to a negative or complex power"
  | infiniteToInt => "cannot convert float infinity to integer"
  | undefinedToInt => "cannot convert float NaN to integer"
  | infiniteToRatio => "cannot convert Infinity to integer ratio"
  | undefinedToRatio => "cannot convert NaN to integer ratio"
  | quotientTooLarge => "integer division result too large for a float"
  | roundedTooLarge => "rounded value too large to represent"
  | intTooLarge => "int too large to convert to float"
  | powerTooLarge => "(34, 'Numerical result out of range')"
  | complexTooLarge => "complex exponentiation"
  | negativeShift => "negative shift count"
  | tooManyBits => "too many digits in integer"
  | notAnInteger text => notAnIntegerMessage (Text.quotedCodes text)
  | bytesNotAnInteger bytes => notAnIntegerMessage (Text.quotedBytes bytes)
  | tooManyDigits count => limitMessage (": value has " ++ toString count ++ " digits")
  | notConvertible type =>
    "int() argument must be a string, a bytes-like object or a real number, not '" ++ type ++ "'"
  | notAFloat text => "could not convert string to float: " ++ text
  | notFloatConvertible type =>
    "float() argument must be a string or a real number, not '" ++ type ++ "'"
  | concatenation left right =>
    "can only concatenate " ++ left ++ " (not \"" ++ right ++ "\") to " ++ left
  | bytesConcatenation right => "can't concat " ++ right ++ " to bytes"
  | repetition type => "can't multiply sequence by non-int of type '" ++ type ++ "'"
  | countTooLarge | indexTooLarge => "cannot fit 'int' into an index-sized integer"
  | wordTooLarge => "Python int too large to convert to C ssize_t"
  | halfWordTooLarge => "Python int too large to convert to C int"
  | longTooLarge => "Python int too large to convert to C long"
  | textTooLong => "repeated string is too long"
  | bytesTooLong => "repeated bytes are too long"
  | unconverted kind => "not all arguments converted during " ++ kind ++ " formatting"
  | tooFewArguments => "not enough arguments for format string"
  | mappingNeeded => "format requires a mapping"
  | incompleteKey => "incomplete format key"
  | widthNotInteger => "* wants int"
  | incompleteFormat => "incomplete format"
  | unknownFormat code index =>
    "unsupported format character '" ++
      (if 31 ≤ code && code ≤ 126 then (Char.ofNat code).toString else "?") ++ "' (0x" ++
      String.ofList (Nat.toDigits 16 code) ++ ") at index " ++ toString index
  | integerNeeded format type =>
    "%" ++ format.toString ++ " format: an integer is required, not " ++ type
  | realNeeded format type =>
    "%" ++ format.toString ++ " format: a real number is required, not " ++ type
  | floatNeeded type => "must be real number, not " ++ type
  | byteFloat type => "float argument required, not " ++ type
  | characterNeeded => "%c requires int or char"
  | characterRange => "%c arg not in range(0x110000)"
  | byteNeeded => "%c requires an integer in range(256) or a single byte"
  | byteFormatRange => "%c arg not in range(256)"
  | bytesNeeded type =>
    "%b requires a bytes-like object, or an object that implements __bytes__, not '" ++ type ++ "'"
  | widthTooBig => "width too big"
  | precisionTooBig => "precision too big"
  | textOfTooMany => limitMessage ""
  | operands operator left right =>
    "unsupported operand type(s) for " ++ operator.sign ++ ": '" ++ left ++ "' and '" ++ right ++ "'"
  | signed sign type => "bad operand type for unary " ++ sign.spelling ++ ": '" ++ type ++ "'"
  | order comparison left right =>
    "'" ++ comparison.sign ++ "' not supported between instances of '" ++ left ++ "' and '" ++ right ++ "'"
  | notContainer type => "argument of type '" ++ type ++ "' is not iterable"
  | notIterable type => "'" ++ type ++ "' object is not iterable"
  | notSpreadable type => "Value after * must be an iterable, not " ++ type
  | notSpreadableIn callee type => callee ++ " argument after * must be an iterable, not " ++ type
  | notMappingIn callee type => callee ++ " argument after ** must be a mapping, not " ++ type
  | notMapping type => "'" ++ type ++ "' object is not a mapping"
  | namedTwice callee word => callee ++ " got multiple values for keyword argument '" ++ word ++ "'"
  | namesNotTexts => "keywords must be strings"
  | notUnpackable type => "cannot unpack non-iterable " ++ type ++ " object"
  | tooFewItems wanted given =>
    "not enough values to unpack (expected " ++ toString wanted ++ ", got " ++ toString given ++ ")"
  | tooFewItemsFor wanted given =>
    "not enough values to unpack (expected at least " ++ toString wanted ++ ", got " ++
      toString given ++ ")"
  | tooManyItems wanted => "too many values to unpack (expected " ++ toString wanted ++ ")"
  | notAssignable type => "'" ++ type ++ "' object does not support item assignment"
  | noFieldAssignment type word => "'" ++ type ++ "' object has no attribute '" ++ word ++ "'"
  | textMember type => "'in <string>' requires string as left operand, not " ++ type
  | bytesMember type => "a bytes-like object is required, not '" ++ type ++ "'"
  | byteRange => "byte must be in range(0, 256)"
  | byteValue => "bytes must be in range(0, 256)"
  | notCallable type => "'" ++ type ++ "' object is not callable"
  | noAttribute type word => "'" ++ type ++ "' object has no attribute '" ++ word ++ "'"
  | noTypeAttribute type word => "type object '" ++ type ++ "' has no attribute '" ++ word ++ "'"
  | notSubscriptable type => "'" ++ type ++ "' object is not subscriptable"
  | typeNotSubscriptable type => "type '" ++ type ++ "' is not subscriptable"
  | textIndex type => "string indices must be integers, not '" ++ type ++ "'"
  | bytesIndex type => "byte indices must be integers or slices, not " ++ type
  | sequenceIndex sequence type => sequence ++ " indices must be integers or slices, not " ++ type
  | textIndexRange => "string index out of range"
  | bytesIndexRange => "index out of range"
  | sequenceIndexRange sequence => sequence ++ " index out of range"
  | assignmentRange => "list assignment index out of range"
  | sliceBound => "slice indices must be integers or None or have an __index__ method"
  | searchBound => "slice indices must be integers or have an __index__ method"
  | zeroStep => "slice step cannot be zero"
  | unhashable type => "unhashable type: '" ++ type ++ "'"
  | missingKey written => written
  | emptyList => "pop from empty list"
  | popRange => "pop index out of range"
  | notInList written => written ++ " is not in list"
  | notToRemove => "list.remove(x): x not in list"
  | notInTuple => "tuple.index(x): x not in tuple"
  | emptySet => "'pop from an empty set'"
  | emptyMapping => "'popitem(): dictionary is empty'"
  | pairNotSequence index =>
    "cannot convert dictionary update sequence element #" ++ toString index ++ " to a sequence"
  | pairLength index length =>
    "dictionary update sequence element #" ++ toString index ++ " has length " ++ toString length ++
      "; 2 is required"
  | mappingChanged => "dictionary changed size during iteration"
  | setChanged => "Set changed size during iteration"
  | listChanged => "list modified during sort"
  | exhausted => ""
  | notIndex type => "'" ++ type ++ "' object cannot be interpreted as an integer"
  | notIterator type => "'" ++ type ++ "' object is not an iterator"
  | negativeSpan => "length should not be negative"
  | joinNeedsIterable => "can only join an iterable"
  | joinItem index type =>
    "sequence item " ++ toString index ++ ": expected str instance, " ++ type ++ " found"
  | joinBytesItem index type =>
    "sequence item " ++ toString index ++ ": expected a bytes-like object, " ++ type ++ " found"
  | stripArgument method => method ++ " arg must be None or str"
  | textNeeded type => "must be str, not " ++ type
  | textOrNothingNeeded type => "must be str or None, not " ++ type
  | fillNotText type => "The fill character must be a unicode character, not " ++ type
  | fillLength => "The fill character must be exactly one character long"
  | byteFill method type =>
    method ++ "() argument 2 must be a byte string of length 1, not " ++ type
  | affixNeeded method expected type =>
    method ++ " first arg must be " ++ expected ++ " or a tuple of " ++ expected ++ ", not " ++ type
  | affixItem method expected type =>
    "tuple for " ++ method ++ " must only contain " ++ expected ++ ", not " ++ type
  | emptySeparator => "empty separator"
  | notFound part => part ++ " not found"
  | byteOrBytesNeeded type =>
    "argument should be integer or bytes-like object, not '" ++ type ++ "'"
  | unknownEncoding word => "unknown encoding: " ++ word
  | unknownHandling word => "unknown error handler name '" ++ word ++ "'"
  | cannotEncode encoding shown position reason =>
    "'" ++ encoding ++ "' codec can't encode character" ++ shown ++ " in position " ++ position ++
      ": " ++ reason
  | cannotDecode encoding shown position reason =>
    "'" ++ encoding ++ "' codec can't decode byte" ++ shown ++ " in position " ++ position ++ ": " ++
      reason
  | tableLengths => "the first two maketrans arguments must have equal length"
  | tableNotMapping => "if you give only one argument to maketrans it must be a dict"
  | tableCodeRange => "character mapping must be in range(0x110000)"
  | tableEntry => "character mapping must return integer, None or str"
  | tableKeyLength => "string keys in translate table must be of length 1"
  | tableKey => "keys in translate table must be strings or integers"
  | tableFirst =>
    "first maketrans argument must be a string if there is a second argument"
  | bytesTableLength => "translation table must be 256 characters long"
  | bytesTablePartner => "maketrans arguments must have same length"
  | byteOrder => "byteorder must be either 'little' or 'big'"
  | negativeLength => "length argument must be non-negative"
  | bytesTooSmall => "int too big to convert"
  | negativeToBytes => "can't convert negative int to unsigned"
  | notBytes type => "cannot convert '" ++ type ++ "' object to bytes"
  | hexPosition position =>
    "non-hexadecimal number found in fromhex() arg at position " ++ toString position
  | hexFloat => "invalid hexadecimal floating-point string"
  | hexTooLarge => "hexadecimal value too large to represent as a float"
  | hexArgument => "bad argument type for built-in operation"
  | separatorLength => "sep must be length 1."
  | separatorAscii => "sep must be ASCII."
  | layoutNotText type => "__format__() argument must be str, not " ++ type
  | powerModulus => "pow() 3rd argument cannot be 0"
  | notInstance method expected given =>
    "descriptor '" ++ method ++ "' for '" ++ expected ++ "' objects doesn't apply to a '" ++ given ++
      "' object"
  | noOwner type method =>
    if method.startsWith "__" then
      "descriptor '" ++ method ++ "' of '" ++ type ++ "' object needs an argument"
    else "unbound method " ++ type ++ "." ++ method ++ "() needs an argument"
  | complexFirst type => "complex() first argument must be a string or a number, not '" ++ type ++ "'"
  | complexSecond type => "complex() second argument must be a number, not '" ++ type ++ "'"
  | textWithoutEncoding => "string argument without an encoding"
  | negativeCount => "negative count"
  | decodingText => "decoding str is not supported"
  | decodingOther type => "decoding to str: need a bytes-like object, " ++ type ++ " found"
  | encodingOther => "encoding without a string argument"
  | typeArguments => "type() takes 1 or 3 arguments"
  | takesNoArguments type => type ++ " takes no arguments"
  | notConstructible type => "cannot create '" ++ type ++ "' instances"
  | layout fault => fault.message
  | braces fault => fault.message
  | misuse fault => fault.message
  | mismatch callee fault => fault.message callee

def kind : Fault → FaultKind
  | malformed => .form
  | outOfMemory => .memory
  | tooDeepToRead | tooManyCalls | comparisonTooDeep | writingTooDeep => .recursion
  | undefined _ | unsetOuter _ => .name
  | unsetLocal _ => .unset
  | intDivision | floatDivision | intFloorDivision | intModulo | floatFloorDivision | floatModulo
  | floatDivmod | complexDivision | zeroToNegative | zeroToComplex => .division
  | infiniteToInt | infiniteToRatio | quotientTooLarge | roundedTooLarge | intTooLarge | powerTooLarge
  | complexTooLarge | tooManyBits | countTooLarge | wordTooLarge | halfWordTooLarge | longTooLarge
  | textTooLong | bytesTooLong | hexTooLarge | characterRange | byteFormatRange | bytesTooSmall
  | negativeToBytes => .overflow
  | nullCharacter | undefinedToInt | undefinedToRatio | notAnInteger _ | bytesNotAnInteger _
  | tooManyDigits _ | notAFloat _ | negativeShift | byteRange | byteValue | incompleteKey
  | incompleteFormat | unknownFormat .. | widthTooBig | precisionTooBig | textOfTooMany
  | tooFewItems .. | tooFewItemsFor .. | tooManyItems _ | zeroStep | notInList _ | notToRemove
  | notInTuple | pairLength .. | listChanged | emptySeparator | notFound _ | tableLengths
  | tableCodeRange | tableKeyLength | bytesTableLength | bytesTablePartner | byteOrder
  | negativeLength | negativeSpan | negativeCount | hexPosition _ | hexFloat
  | separatorLength | separatorAscii | powerModulus => .value
  | layout (.unsupported _) => .type
  | layout _ => .value
  | braces (.outOfRange _) => .index
  | braces _ => .value
  | noAttribute .. | noTypeAttribute .. | noFieldAssignment .. => .field
  | textIndexRange | bytesIndexRange | sequenceIndexRange _ | assignmentRange | indexTooLarge
  | emptyList | popRange => .index
  | missingKey _ | emptySet | emptyMapping => .key
  | unknownEncoding _ | unknownHandling _ => .lookup
  | mappingChanged | setChanged => .running
  | exhausted => .exhausted
  | cannotEncode .. => .encoding
  | cannotDecode .. => .decoding
  | _ => .type

end Fault

end Workbench.Formula
