import VoiceCall.Foundation.Bytes
import VoiceCall.Foundation.Decimal

namespace VoiceCall.Transport
open Foundation

/-- The conversions between a `double` and its text are parameters, and reading takes a byte. -/
class DoubleText (Double : Type) where
  dtoa : Double → List UInt8
  strtod : List UInt8 → Option (Double × List UInt8)
  strtod_length : ∀ {text : List UInt8} {value : Double} {rest : List UInt8},
    strtod text = some (value, rest) → rest.length < text.length

/-- Nothing is written or read where no `double` occurs. -/
instance : DoubleText Empty := ⟨nofun, fun _ => none, nofun⟩

/-- A number that fits `int64_t` is one, and a larger one is a `uint64_t` or a `double`. -/
inductive Value (Double : Type) where
  | null
  | bool (value : Bool)
  | int64 (value : Int64)
  | uint64 (value : UInt64) (large : 2 ^ 63 ≤ value.toNat)
  | double (value : Double)
  | string (value : List UInt8)
  | array (elements : List (Value Double))
  | object (members : List (List UInt8 × Value Double))

/-- A text is refused with an error, or an assertion ends the process. -/
inductive Failure where
  | refused
  | aborted
deriving DecidableEq, Repr

variable {Double : Type} [DoubleText Double]

namespace Writer

/-- The `escape` table of `WriteString`; an entry of zero copies the byte. -/
def escape (byte : UInt8) : UInt8 :=
  if byte = 0x08 then 'b'.toUInt8
  else if byte = 0x09 then 't'.toUInt8
  else if byte = 0x0A then 'n'.toUInt8
  else if byte = 0x0C then 'f'.toUInt8
  else if byte = 0x0D then 'r'.toUInt8
  else if byte < 0x20 then 'u'.toUInt8
  else if byte = '"'.toUInt8 then '"'.toUInt8
  else if byte = '\\'.toUInt8 then '\\'.toUInt8
  else 0

def hexDigits (nibble : UInt8) : UInt8 :=
  if nibble < 10 then '0'.toUInt8 + nibble else 'A'.toUInt8 + (nibble - 10)

/-- One turn of the loop of `WriteString`. -/
def writeChar (byte : UInt8) : List UInt8 :=
  if escape byte = 0 then [byte]
  else if escape byte = 'u'.toUInt8 then
    ascii "\\u00" ++ [hexDigits (byte >>> 4), hexDigits (byte &&& 0xF)]
  else ['\\'.toUInt8, escape byte]

def writeString (text : List UInt8) : List UInt8 :=
  '"'.toUInt8 :: text.flatMap writeChar ++ ['"'.toUInt8]

/-- A negative number is its sign and the text of its size. -/
def i64toa (value : Int64) : List UInt8 :=
  if value.toInt < 0 then '-'.toUInt8 :: decimal value.toInt.natAbs
  else decimal value.toInt.natAbs

/-- A comma comes before every value of a level but the first. -/
def comma (later : Bool) : List UInt8 := if later then [','.toUInt8] else []

mutual

/-- The text that the writer prints for a value without white space. -/
def write : Value Double → List UInt8
  | .null => ascii "null"
  | .bool value => if value then ascii "true" else ascii "false"
  | .int64 value => i64toa value
  | .uint64 value _ => decimal value.toNat
  | .double value => DoubleText.dtoa value
  | .string value => writeString value
  | .array elements => '['.toUInt8 :: writeElements false elements ++ [']'.toUInt8]
  | .object members => '{'.toUInt8 :: writeMembers false members ++ ['}'.toUInt8]

def writeElements (later : Bool) : List (Value Double) → List UInt8
  | [] => []
  | element :: elements => comma later ++ write element ++ writeElements true elements

def writeMembers (later : Bool) : List (List UInt8 × Value Double) → List UInt8
  | [] => []
  | (name, value) :: members =>
      comma later ++ writeString name ++ ':'.toUInt8 :: write value ++ writeMembers true members

end

end Writer

namespace Reader

def isWhitespace (byte : UInt8) : Bool :=
  byte = ' '.toUInt8 || byte = '\n'.toUInt8 || byte = '\r'.toUInt8 || byte = '\t'.toUInt8

def skipWhitespace (is : List UInt8) : List UInt8 := is.dropWhile isWhitespace

/-- The bytes that follow the first one of `null`, `true` and `false`. -/
def takeLiteral (expected is : List UInt8) : Option (List UInt8) :=
  if expected.isPrefixOf is then some (is.drop expected.length) else none

def hexValue (byte : UInt8) : Option Nat :=
  if isDigit byte then some (byte.toNat - 48)
  else if 'A'.toUInt8 ≤ byte ∧ byte ≤ 'F'.toUInt8 then some (byte.toNat - 55)
  else if 'a'.toUInt8 ≤ byte ∧ byte ≤ 'f'.toUInt8 then some (byte.toNat - 87)
  else none

/-- The digits that are left are read, and one that is none is taken before that is noticed.
Behind the end of the text nothing may be taken. -/
def parseHex4 : Nat → Nat → List UInt8 → Option (Option Nat × List UInt8)
  | 0, codepoint, is => some (some codepoint, is)
  | _ + 1, _, [] => none
  | left + 1, codepoint, byte :: is =>
      match hexValue byte with
      | some digit => parseHex4 left (codepoint * 16 + digit) is
      | none => some (none, is)

/-- This function is `UTF8::Encode`. -/
def encode (codepoint : Nat) : List UInt8 :=
  if codepoint ≤ 0x7F then [UInt8.ofNat codepoint]
  else if codepoint ≤ 0x7FF then
    [UInt8.ofNat (0xC0 ||| codepoint >>> 6), UInt8.ofNat (0x80 ||| codepoint &&& 0x3F)]
  else if codepoint ≤ 0xFFFF then
    [UInt8.ofNat (0xE0 ||| codepoint >>> 12), UInt8.ofNat (0x80 ||| codepoint >>> 6 &&& 0x3F),
      UInt8.ofNat (0x80 ||| codepoint &&& 0x3F)]
  else
    [UInt8.ofNat (0xF0 ||| codepoint >>> 18), UInt8.ofNat (0x80 ||| codepoint >>> 12 &&& 0x3F),
      UInt8.ofNat (0x80 ||| codepoint >>> 6 &&& 0x3F), UInt8.ofNat (0x80 ||| codepoint &&& 0x3F)]

/-- An error can only be assigned once, which `RAPIDJSON_PARSE_ERROR_NORETURN` asserts. -/
def raise (broken : Bool) : Failure := if broken then .aborted else .refused

/-- A high surrogate needs the low one in a second escape. Digits that cannot be read are an
error of the text whose string goes on with a zero, but as a low surrogate they are two errors. -/
def parseUnicode (broken : Bool) (is : List UInt8) :
    Except Failure (List UInt8 × Bool × List UInt8) :=
  match parseHex4 4 0 is with
  | none => .error .aborted
  | some (none, is) => if broken then .error .aborted else .ok (encode 0, true, is)
  | some (some codepoint, is) =>
      if 0xD800 ≤ codepoint ∧ codepoint ≤ 0xDBFF then
        match takeLiteral (ascii "\\u") is with
        | none => .error (raise broken)
        | some is =>
            match parseHex4 4 0 is with
            | some (some codepoint2, is) =>
                if codepoint2 < 0xDC00 ∨ 0xDFFF < codepoint2 then .error (raise broken)
                else
                  .ok (encode ((((codepoint - 0xD800) <<< 10) ||| (codepoint2 - 0xDC00)) + 0x10000),
                    broken, is)
            | _ => .error .aborted
      else .ok (encode codepoint, broken, is)

/-- The `escape` table of `ParseStringToStream`; an entry of zero is no simple escape. -/
def escape (byte : UInt8) : UInt8 :=
  if byte = '"'.toUInt8 then '"'.toUInt8
  else if byte = '/'.toUInt8 then '/'.toUInt8
  else if byte = '\\'.toUInt8 then '\\'.toUInt8
  else if byte = 'b'.toUInt8 then 0x08
  else if byte = 'f'.toUInt8 then 0x0C
  else if byte = 'n'.toUInt8 then 0x0A
  else if byte = 'r'.toUInt8 then 0x0D
  else if byte = 't'.toUInt8 then 0x09
  else 0

def parseEscape (broken : Bool) :
    List UInt8 → Except Failure (List UInt8 × Bool × List UInt8)
  | [] => .error (raise broken)
  | byte :: is =>
      if escape byte ≠ 0 then .ok ([escape byte], broken, is)
      else if byte = 'u'.toUInt8 then parseUnicode broken is
      else .error (raise broken)

/-- The loop of `ParseStringToStream` starts after the opening quote, and goes on to the closing
one behind digits that cannot be read. A terminating zero is below the bytes that a string may
contain. -/
def parseString : Nat → Bool → List UInt8 → Except Failure (List UInt8 × List UInt8)
  | 0, broken, _ => .error (raise broken)
  | _ + 1, broken, [] => .error (raise broken)
  | fuel + 1, broken, byte :: is =>
      if byte = '\\'.toUInt8 then
        (parseEscape broken is).bind fun (put, broken, is) =>
          (parseString fuel broken is).map fun (text, is) => (put ++ text, is)
      else if byte = '"'.toUInt8 then if broken then .error .refused else .ok ([], is)
      else if byte < 0x20 then .error (raise broken)
      else (parseString fuel broken is).map fun (text, is) => (byte :: text, is)

/-- The loops of `ParseNumber` read the digits into 32 bits, then into 64 bits.
The two flags tell whether a digit was left over from the first and from the second. -/
def parseInteger (minus : Bool) : List UInt8 → Option (Nat × Bool × Bool × List UInt8)
  | [] => none
  | byte :: is =>
      if byte = '0'.toUInt8 then some (0, false, false, is)
      else if isDigit byte then
        let (i, use64bit, is) :=
          if minus then takeWithin 214748364 8 (digitValue byte) is
          else takeWithin 429496729 5 (digitValue byte) is
        if use64bit then
          let (i64, useDouble, is) :=
            if minus then takeWithin 0x0CCCCCCCCCCCCCCC 8 i is
            else takeWithin 0x1999999999999999 5 i is
          some (i64, true, useDouble, is)
        else some (i, false, false, is)
      else none

/-- A value keeps an unsigned number with its top bit clear as an `int64_t`. -/
def ofUint64 (value : UInt64) : Value Double :=
  if large : 2 ^ 63 ≤ value.toNat then .uint64 value large
  else .int64 (Int64.ofInt value.toNat)

def integer (minus : Bool) (value : Nat) : Value Double :=
  if minus then .int64 (Int64.ofInt (-value)) else ofUint64 (UInt64.ofNat value)

/-- A fraction, an exponent or a number beyond 64 bits makes a `double`. -/
def isDouble (is : List UInt8) : Bool :=
  is.head? = some '.'.toUInt8 || is.head? = some 'e'.toUInt8 || is.head? = some 'E'.toUInt8

def parseNumber (is : List UInt8) : Option (Value Double × List UInt8) :=
  let minus : Bool := is.head? = some '-'.toUInt8
  (parseInteger minus (if minus then is.tail else is)).bind fun (value, _, useDouble, rest) =>
    if useDouble || isDouble rest then
      (DoubleText.strtod is).map fun (value, rest) => (.double value, rest)
    else some (integer minus value, rest)

/-- What a part of the text does not allow is an error. -/
def orRefuse {Result : Type} : Option Result → Except Failure Result
  | none => .error .refused
  | some result => .ok result

mutual

/-- The recursion of `ParseValue` is bounded by a fuel that no text needs in full. -/
def parseValue : Nat → List UInt8 → Except Failure (Value Double × List UInt8)
  | 0, _ => .error .refused
  | _ + 1, [] => .error .refused
  | fuel + 1, byte :: is =>
      if byte = 'n'.toUInt8 then
        (orRefuse (takeLiteral (ascii "ull") is)).map fun is => (.null, is)
      else if byte = 't'.toUInt8 then
        (orRefuse (takeLiteral (ascii "rue") is)).map fun is => (.bool true, is)
      else if byte = 'f'.toUInt8 then
        (orRefuse (takeLiteral (ascii "alse") is)).map fun is => (.bool false, is)
      else if byte = '"'.toUInt8 then
        (parseString (is.length + 1) false is).map fun (text, is) => (.string text, is)
      else if byte = '{'.toUInt8 then
        if (skipWhitespace is).head? = some '}'.toUInt8 then
          .ok (.object [], (skipWhitespace is).tail)
        else (parseMembers fuel (skipWhitespace is)).map fun (members, is) => (.object members, is)
      else if byte = '['.toUInt8 then
        if (skipWhitespace is).head? = some ']'.toUInt8 then
          .ok (.array [], (skipWhitespace is).tail)
        else
          (parseElements fuel (skipWhitespace is)).map fun (elements, is) => (.array elements, is)
      else orRefuse (parseNumber (byte :: is))

/-- One turn of the loop of `ParseArray` reads a value and what separates it from the next. -/
def parseElements : Nat → List UInt8 → Except Failure (List (Value Double) × List UInt8)
  | 0, _ => .error .refused
  | fuel + 1, is =>
      (parseValue fuel is).bind fun (element, is) =>
        match skipWhitespace is with
        | [] => .error .refused
        | byte :: is =>
            if byte = ','.toUInt8 then
              (parseElements fuel (skipWhitespace is)).map fun (elements, is) =>
                (element :: elements, is)
            else if byte = ']'.toUInt8 then .ok ([element], is)
            else .error .refused

/-- One turn of the loop of `ParseObject` reads a name, a colon and a value. -/
def parseMembers :
    Nat → List UInt8 → Except Failure (List (List UInt8 × Value Double) × List UInt8)
  | 0, _ => .error .refused
  | _ + 1, [] => .error .refused
  | fuel + 1, quote :: is =>
      if quote ≠ '"'.toUInt8 then .error .refused
      else (parseString (is.length + 1) false is).bind fun (name, is) =>
        match skipWhitespace is with
        | [] => .error .refused
        | colon :: is =>
            if colon ≠ ':'.toUInt8 then .error .refused
            else (parseValue fuel (skipWhitespace is)).bind fun (value, is) =>
              match skipWhitespace is with
              | [] => .error .refused
              | byte :: is =>
                  if byte = ','.toUInt8 then
                    (parseMembers fuel (skipWhitespace is)).map fun (members, is) =>
                      ((name, value) :: members, is)
                  else if byte = '}'.toUInt8 then .ok ([(name, value)], is)
                  else .error .refused

end

/-- Only white space may stand between the root and the end of the text, or a zero byte. -/
def parseRoot (text : List UInt8) : Except Failure (Value Double) :=
  let is := skipWhitespace text
  (parseValue (2 * is.length + 1) is).bind fun (value, rest) =>
    if (skipWhitespace rest).headD 0 = 0 then .ok value else .error .refused

/-- A document that could not be parsed stays null, and one that aborts has no outcome. -/
def parse (text : List UInt8) : Option (Value Double) :=
  match parseRoot text with
  | .ok value => some value
  | .error .refused => some .null
  | .error .aborted => none

end Reader

end VoiceCall.Transport
