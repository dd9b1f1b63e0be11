import VoiceCall.Foundation.OrderedMap
import VoiceCall.Transport.Document

namespace VoiceCall.Transport
open Foundation

/-- A `message::ptr` is null or points to a message of one of eight kinds. -/
inductive Message (Double : Type) where
  | nullptr
  | integer (value : Int64)
  | double (value : Double)
  | string (value : List UInt8)
  | binary (value : List UInt8)
  | array (elements : List (Message Double))
  | object (members : List (List UInt8 × Message Double))
  | boolean (value : Bool)
  | null

variable {Double : Type}

/-- The name `kBIN_PLACE_HOLDER`. -/
def placeholder : List UInt8 := ascii "_placeholder"

def num : List UInt8 := ascii "num"

/-- The object that stands for a buffer holds its number as an `int`. -/
def acceptBinaryMessage (buffers : Nat) : Value Double :=
  .object [(placeholder, .bool true), (num, .int64 (Int32.ofNat buffers).toInt64)]

mutual

/-- A message becomes a document, and its binaries are appended to the buffers.
A null pointer is dereferenced, which has no outcome. -/
def acceptMessage (buffers : List (List UInt8)) :
    Message Double → Option (Value Double × List (List UInt8))
  | .nullptr => none
  | .integer value => some (.int64 value, buffers)
  | .double value => some (.double value, buffers)
  | .string value => some (.string value, buffers)
  | .binary value => some (acceptBinaryMessage buffers.length, buffers ++ [value])
  | .array elements =>
      (acceptElements buffers elements).map fun (values, buffers) => (.array values, buffers)
  | .object members =>
      (acceptMembers buffers members).map fun (values, buffers) => (.object values, buffers)
  | .boolean value => some (.bool value, buffers)
  | .null => some (.null, buffers)

def acceptElements (buffers : List (List UInt8)) :
    List (Message Double) → Option (List (Value Double) × List (List UInt8))
  | [] => some ([], buffers)
  | element :: elements =>
      (acceptMessage buffers element).bind fun (value, buffers) =>
        (acceptElements buffers elements).map fun (values, buffers) => (value :: values, buffers)

def acceptMembers (buffers : List (List UInt8)) :
    List (List UInt8 × Message Double) →
      Option (List (List UInt8 × Value Double) × List (List UInt8))
  | [] => some ([], buffers)
  | (name, message) :: members =>
      (acceptMessage buffers message).bind fun (value, buffers) =>
        (acceptMembers buffers members).map fun (values, buffers) =>
          ((name, value) :: values, buffers)

end

/-- `GetBool` asserts that a value is a boolean. -/
def getBool : Value Double → Option Bool
  | .bool value => some value
  | _ => none

/-- `GetInt` asserts that a value is a number that fits an `int`. -/
def getInt : Value Double → Option Int
  | .int64 value =>
      if -2 ^ 31 ≤ value.toInt ∧ value.toInt < 2 ^ 31 then some value.toInt else none
  | _ => none

/-- A number outside the buffers gives a null pointer. -/
def fromPlaceholder (buffers : List (List UInt8)) (members : List (List UInt8 × Value Double)) :
    Option (Message Double) :=
  ((Members.find num members).bind getInt).map fun number =>
    if 0 ≤ number ∧ number < (Int32.ofNat buffers.length).toInt then
      .binary (buffers.getD number.toNat [])
    else .nullptr

mutual

/-- A document becomes a message, and `none` is a failed assertion of the document's reader. -/
def fromJson (buffers : List (List UInt8)) : Value Double → Option (Message Double)
  | .int64 value => some (.integer value)
  | .uint64 _ _ => some .nullptr
  | .double value => some (.double value)
  | .string value => some (.string value)
  | .array elements => (fromElements buffers elements).map .array
  | .object members =>
      match (Members.find placeholder members).map getBool with
      | some none => none
      | some (some true) => fromPlaceholder buffers members
      | _ => (fromMembers buffers members).map fun decoded => .object (Members.insertAll [] decoded)
  | .bool value => some (.boolean value)
  | .null => some .null

def fromElements (buffers : List (List UInt8)) :
    List (Value Double) → Option (List (Message Double))
  | [] => some []
  | value :: values =>
      (fromJson buffers value).bind fun message =>
        (fromElements buffers values).map fun messages => message :: messages

def fromMembers (buffers : List (List UInt8)) :
    List (List UInt8 × Value Double) → Option (List (List UInt8 × Message Double))
  | [] => some []
  | (name, value) :: values =>
      (fromJson buffers value).bind fun message =>
        (fromMembers buffers values).map fun messages => (name, message) :: messages

end

namespace Message

mutual

/-- The binaries of a message in the order of its text. -/
def binaries : Message Double → List (List UInt8)
  | .binary value => [value]
  | .array elements => elementBinaries elements
  | .object members => memberBinaries members
  | _ => []

def elementBinaries : List (Message Double) → List (List UInt8)
  | [] => []
  | element :: elements => element.binaries ++ elementBinaries elements

def memberBinaries : List (List UInt8 × Message Double) → List (List UInt8)
  | [] => []
  | (_, message) :: members => message.binaries ++ memberBinaries members

end

mutual

/-- A property holds everywhere when it holds of a message and of all that are inside it. -/
def everywhere (property : Message Double → Bool) : Message Double → Bool
  | .array elements => property (.array elements) && inElements property elements
  | .object members => property (.object members) && inMembers property members
  | message => property message

def inElements (property : Message Double → Bool) : List (Message Double) → Bool
  | [] => true
  | element :: elements => element.everywhere property && inElements property elements

def inMembers (property : Message Double → Bool) : List (List UInt8 × Message Double) → Bool
  | [] => true
  | (_, message) :: members => message.everywhere property && inMembers property members

end

def isNotNull : Message Double → Bool
  | .nullptr => false
  | _ => true

/-- The keys of a map are in order. -/
def hasOrder : Message Double → Bool
  | .object members => Members.Ordered members
  | _ => true

/-- An object poses as a buffer unless its placeholder member is missing or false. -/
def doesNotPose : Message Double → Bool
  | .object members =>
      match Members.find placeholder members with
      | none => true
      | some (.boolean false) => true
      | some _ => false
  | _ => true

def isNotDouble : Message Double → Bool
  | .double _ => false
  | _ => true

/-- No null pointer is inside a complete message. -/
abbrev complete (message : Message Double) : Bool := message.everywhere isNotNull

/-- Every map inside an ordered message is one that `std::map` can hold. -/
abbrev ordered (message : Message Double) : Bool := message.everywhere hasOrder

/-- No object inside an honest message poses as a buffer. -/
abbrev honest (message : Message Double) : Bool := message.everywhere doesNotPose

/-- No `double` is inside an exact message. -/
abbrev exact (message : Message Double) : Bool := message.everywhere isNotDouble

@[simp] theorem complete_array (elements : List (Message Double)) :
    (Message.array elements).complete = inElements isNotNull elements := rfl

@[simp] theorem complete_object (members : List (List UInt8 × Message Double)) :
    (Message.object members).complete = inMembers isNotNull members := rfl

@[simp] theorem ordered_array (elements : List (Message Double)) :
    (Message.array elements).ordered = inElements hasOrder elements := rfl

@[simp] theorem ordered_object (members : List (List UInt8 × Message Double)) :
    (Message.object members).ordered = (hasOrder (.object members) && inMembers hasOrder members) :=
  rfl

@[simp] theorem honest_array (elements : List (Message Double)) :
    (Message.array elements).honest = inElements doesNotPose elements := rfl

@[simp] theorem honest_object (members : List (List UInt8 × Message Double)) :
    (Message.object members).honest =
      (doesNotPose (.object members) && inMembers doesNotPose members) := rfl

@[simp] theorem exact_array (elements : List (Message Double)) :
    (Message.array elements).exact = inElements isNotDouble elements := rfl

@[simp] theorem exact_object (members : List (List UInt8 × Message Double)) :
    (Message.object members).exact = inMembers isNotDouble members := rfl

end Message
end VoiceCall.Transport
