import VoiceCall.Transport.Document

namespace VoiceCall.Transport
open Foundation

variable {Double : Type} [DoubleText Double]

/-- A byte is written as it is, as a `u` escape of a control byte, or as a simple escape. -/
theorem escape_cases : ∀ byte : UInt8,
    (Writer.escape byte = 0 ∧ byte ≠ '\\'.toUInt8 ∧ byte ≠ '"'.toUInt8 ∧ ¬byte < 0x20) ∨
    (Writer.escape byte = 'u'.toUInt8 ∧ byte < 0x20) ∨
    (Writer.escape byte ≠ 0 ∧ Writer.escape byte ≠ 'u'.toUInt8 ∧
      Reader.escape (Writer.escape byte) = byte ∧ byte ≠ 0) :=
  forall_byte (by decide +kernel)

/-- The two digits of a `u` escape name the control byte. -/
theorem hexValue_hexDigits : ∀ byte : UInt8, byte < 0x20 →
    ∃ high low, Reader.hexValue (Writer.hexDigits (byte >>> 4)) = some high ∧
      Reader.hexValue (Writer.hexDigits (byte &&& 0xF)) = some low ∧
      Reader.encode (high * 16 + low) = [byte] ∧ high * 16 + low < 0x20 :=
  forall_byte fun number control => by
    have known : ∀ number : Fin 256, UInt8.ofFin number < 0x20 →
        Reader.hexValue (Writer.hexDigits (UInt8.ofFin number >>> 4)) = some (number / 16) ∧
        Reader.hexValue (Writer.hexDigits (UInt8.ofFin number &&& 0xF)) = some (number % 16) ∧
        Reader.encode (number / 16 * 16 + number % 16) = [UInt8.ofFin number] ∧
        number / 16 * 16 + number % 16 < (0x20 : Nat) := by decide +kernel
    exact ⟨_, _, known number control⟩

/-- The reader undoes one escape of the writer. -/
theorem parseString_writeChar (fuel : Nat) (byte : UInt8) (tail : List UInt8) :
    Reader.parseString (fuel + 1) false (Writer.writeChar byte ++ tail) =
      (Reader.parseString fuel false tail).map fun (text, is) => (byte :: text, is) := by
  rcases escape_cases byte with ⟨plain, notSlash, notQuote, printable⟩ | ⟨unicode, control⟩ |
    ⟨some, notUnicode, undone, nonzero⟩
  · rw [Writer.writeChar, if_pos plain, List.singleton_append, Reader.parseString,
      if_neg notSlash, if_neg notQuote, if_neg printable]
  · obtain ⟨high, low, isHigh, isLow, encoded, small⟩ := hexValue_hexDigits byte control
    have zero : Reader.hexValue 48 = some 0 := rfl
    have noSurrogate : ¬(0xD800 ≤ high * 16 + low ∧ high * 16 + low ≤ 0xDBFF) := by omega
    have digits : Reader.parseUnicode false (48 :: 48 :: Writer.hexDigits (byte >>> 4) ::
        Writer.hexDigits (byte &&& 0xF) :: tail) = .ok ([byte], false, tail) := by
      simp [Reader.parseUnicode, Reader.parseHex4, zero, isHigh, isLow, noSurrogate, encoded]
    have read : Reader.parseEscape false (117 :: 48 :: 48 :: Writer.hexDigits (byte >>> 4) ::
        Writer.hexDigits (byte &&& 0xF) :: tail) = .ok ([byte], false, tail) := by
      rw [Reader.parseEscape, if_neg (by decide), if_pos (by decide), digits]
    have written : Writer.writeChar byte ++ tail = 92 :: 117 :: 48 :: 48 ::
        Writer.hexDigits (byte >>> 4) :: Writer.hexDigits (byte &&& 0xF) :: tail := by
      rw [Writer.writeChar, if_neg (by rw [unicode]; decide), if_pos unicode]
      rfl
    rw [written, Reader.parseString, if_pos (by decide), read]
    rfl
  · have written : Writer.writeChar byte ++ tail = 92 :: Writer.escape byte :: tail := by
      rw [Writer.writeChar, if_neg some, if_neg notUnicode]
      rfl
    have read : Reader.parseEscape false (Writer.escape byte :: tail) =
        .ok ([byte], false, tail) := by
      rw [Reader.parseEscape, undone, if_pos nonzero]
    rw [written, Reader.parseString, if_pos (by decide), read]
    rfl

theorem writeChar_length_pos (byte : UInt8) : 0 < (Writer.writeChar byte).length := by
  unfold Writer.writeChar
  split_ifs <;> simp

theorem length_le_flatMap_writeChar (text : List UInt8) :
    text.length ≤ (text.flatMap Writer.writeChar).length := by
  induction text with
  | nil => exact Nat.le_refl 0
  | cons byte text ih =>
      have positive := writeChar_length_pos byte
      simp only [List.flatMap_cons, List.length_cons, List.length_append]
      omega

/-- The reader gets back the bytes of a written string, whatever they are. -/
theorem parseString_written {fuel : Nat} {text tail : List UInt8} (enough : text.length < fuel) :
    Reader.parseString fuel false (text.flatMap Writer.writeChar ++ '"'.toUInt8 :: tail) =
      .ok (text, tail) := by
  induction text generalizing fuel with
  | nil =>
      obtain ⟨fuel, rfl⟩ := Nat.exists_eq_succ_of_ne_zero (Nat.ne_of_gt enough)
      rfl
  | cons byte text ih =>
      obtain ⟨fuel, rfl⟩ := Nat.exists_eq_succ_of_ne_zero (Nat.ne_of_gt (Nat.zero_lt_of_lt enough))
      rw [List.flatMap_cons, List.append_assoc, parseString_writeChar,
        ih (Nat.lt_of_succ_lt_succ enough)]
      rfl

/-- The text behind the opening quote has fuel for each of its characters. -/
theorem parseString_writeString (text tail : List UInt8) :
    Reader.parseString ((text.flatMap Writer.writeChar ++ '"'.toUInt8 :: tail).length + 1) false
      (text.flatMap Writer.writeChar ++ '"'.toUInt8 :: tail) = .ok (text, tail) := by
  apply parseString_written
  have shorter := length_le_flatMap_writeChar text
  rw [List.length_append]
  omega

/-- What follows a number neither continues it nor makes it a `double`. -/
structure Delimited (tail : List UInt8) : Prop where
  noDigit : NoDigit tail
  noDouble : Reader.isDouble tail = false

theorem delimited_nil : Delimited [] := ⟨nofun, rfl⟩

theorem delimited_separator {byte : UInt8} (tail : List UInt8)
    (separator : byte = ','.toUInt8 ∨ byte = ']'.toUInt8 ∨ byte = '}'.toUInt8) :
    Delimited (byte :: tail) := by
  refine ⟨?_, ?_⟩
  · intro other same
    cases same
    rcases separator with rfl | rfl | rfl <;> rfl
  · rcases separator with rfl | rfl | rfl <;> rfl

/-- The second loop goes on where the first one stopped. -/
theorem takeWithin_twice (bound last bound' last' start : Nat) {digits tail : List UInt8}
    (areDigits : ∀ byte ∈ digits, isDigit byte = true) (ends : NoDigit tail)
    (small : last < 10) (small' : last' < 10)
    (within : readDecimal start digits ≤ bound' * 10 + last') :
    ∃ i use64bit is, takeWithin bound last start (digits ++ tail) = (i, use64bit, is) ∧
      (use64bit = false → i = readDecimal start digits ∧ is = tail) ∧
      takeWithin bound' last' i is = (readDecimal start digits, false, tail) := by
  obtain ⟨taken, left, parts, result, _⟩ :=
    takeWithin_append bound last start areDigits ends small
  refine ⟨_, _, _, result, ?_, ?_⟩
  · intro done
    have none : left = [] := by simpa using done
    rw [parts, none, List.append_nil, List.nil_append]
    exact ⟨rfl, rfl⟩
  · have whole : readDecimal (readDecimal start taken) left = readDecimal start digits := by
      rw [parts, readDecimal_append]
    rw [← whole]
    refine takeWithin_all bound' last' _ (fun byte member => ?_) ends small' (by rw [whole]; exact within)
    exact areDigits byte (parts ▸ List.mem_append_right taken member)

/-- A decimal text within 64 bits is read by one of the two loops. -/
theorem parseInteger_decimal (minus : Bool) {value : Nat} {tail : List UInt8}
    (ends : NoDigit tail) (within : value ≤ if minus then 2 ^ 63 else 2 ^ 64 - 1) :
    ∃ use64bit, Reader.parseInteger minus (decimal value ++ tail) =
      some (value, use64bit, false, tail) := by
  rcases Nat.eq_zero_or_pos value with zero | positive
  · rw [zero, decimal_zero]
    exact ⟨false, rfl⟩
  · obtain ⟨byte, text, shape, digit, nonzero⟩ := decimal_cons_of_pos positive
    have areDigits : ∀ other ∈ text, isDigit other = true := fun other member =>
      isDigit_of_mem_decimal (show other ∈ decimal value from shape ▸ List.mem_cons_of_mem byte member)
    have reads : readDecimal (digitValue byte) text = value := by
      have whole := readDecimal_decimal value
      rw [shape, readDecimal_cons, Nat.zero_mul, Nat.zero_add] at whole
      exact whole
    rw [shape, List.cons_append, Reader.parseInteger, if_neg nonzero, if_pos digit]
    cases minus with
    | false =>
        obtain ⟨i, use64bit, is, first, done, second⟩ :=
          takeWithin_twice 429496729 5 0x1999999999999999 5 (digitValue byte) areDigits ends
            (by decide) (by decide) (by rw [reads]; exact within)
        simp only [Bool.false_eq_true, if_false, first, second, reads]
        cases use64bit with
        | false =>
            obtain ⟨rfl, rfl⟩ := done rfl
            exact ⟨false, by rw [reads]; rfl⟩
        | true => exact ⟨true, rfl⟩
    | true =>
        obtain ⟨i, use64bit, is, first, done, second⟩ :=
          takeWithin_twice 214748364 8 0x0CCCCCCCCCCCCCCC 8 (digitValue byte) areDigits ends
            (by decide) (by decide) (by rw [reads]; exact within)
        simp only [if_true, first, second, reads]
        cases use64bit with
        | false =>
            obtain ⟨rfl, rfl⟩ := done rfl
            exact ⟨false, by rw [reads]; rfl⟩
        | true => exact ⟨true, rfl⟩

/-- The head of a decimal text is a digit. -/
theorem decimal_head (value : Nat) :
    ∃ byte text, decimal value = byte :: text ∧ isDigit byte = true := by
  obtain ⟨byte, text, shape⟩ := List.exists_cons_of_ne_nil (decimal_ne_nil value)
  exact ⟨byte, text, shape, isDigit_of_mem_decimal (shape ▸ List.mem_cons_self)⟩

/-- A decimal text without a sign is read as an unsigned number. -/
theorem parseNumber_decimal {value : Nat} {tail : List UInt8} (delimited : Delimited tail)
    (within : value < 2 ^ 64) :
    Reader.parseNumber (decimal value ++ tail) =
      some ((Reader.integer false value : Value Double), tail) := by
  obtain ⟨byte, text, shape, digit⟩ := decimal_head value
  have unsigned : decide ((decimal value ++ tail).head? = some '-'.toUInt8) = false := by
    rw [shape]
    refine decide_eq_false fun same => ?_
    cases same
    exact absurd digit (by decide)
  obtain ⟨use64bit, read⟩ := parseInteger_decimal false delimited.noDigit
    (show value ≤ if false then 2 ^ 63 else 2 ^ 64 - 1 from Nat.le_sub_one_of_lt within)
  rw [Reader.parseNumber]
  simp only [unsigned, Bool.false_eq_true, if_false, read, Option.bind_some, delimited.noDouble,
    Bool.or_false]

/-- The text of a signed number is read as the number. -/
theorem parseNumber_i64toa (value : Int64) {tail : List UInt8} (delimited : Delimited tail) :
    Reader.parseNumber (Writer.i64toa value ++ tail) =
      some ((.int64 value : Value Double), tail) := by
  have above := value.toInt_lt
  have below := value.le_toInt
  unfold Writer.i64toa
  split
  · next negative =>
      obtain ⟨use64bit, read⟩ := parseInteger_decimal true delimited.noDigit
        (show value.toInt.natAbs ≤ if true then 2 ^ 63 else 2 ^ 64 - 1 by
          simp only [if_true]; omega)
      have size : -(value.toInt.natAbs : Int) = value.toInt := by omega
      rw [Reader.parseNumber]
      simp only [List.cons_append, List.head?_cons, decide_true, if_true, List.tail_cons, read,
        Option.bind_some, delimited.noDouble, Bool.or_false, Bool.false_eq_true, if_false]
      rw [Reader.integer, if_pos rfl, size, Int64.ofInt_toInt]
  · next nonnegative =>
      have size : (value.toInt.natAbs : Int) = value.toInt := by omega
      have small : value.toInt.natAbs < 2 ^ 63 := by omega
      have same : (UInt64.ofNat value.toInt.natAbs).toNat = value.toInt.natAbs :=
        UInt64.toNat_ofNat_of_lt' (by change _ < 2 ^ 64; omega)
      rw [parseNumber_decimal delimited (by omega), Reader.integer, if_neg (by decide),
        Reader.ofUint64, dif_neg (by omega), same, size, Int64.ofInt_toInt]

namespace Value

mutual

/-- The text of a value is exact when no `double` is in it. -/
def exact : Value Double → Bool
  | .double _ => false
  | .array elements => exactElements elements
  | .object members => exactMembers members
  | _ => true

def exactElements : List (Value Double) → Bool
  | [] => true
  | element :: elements => exact element && exactElements elements

def exactMembers : List (List UInt8 × Value Double) → Bool
  | [] => true
  | (_, value) :: members => exact value && exactMembers members

end

end Value

/-- A number begins with its sign or with a digit. -/
def beginsNumber (byte : UInt8) : Bool := isDigit byte || byte = '-'.toUInt8

/-- No other value and no white space begins like a number. -/
theorem beginsNumber_ne : ∀ byte : UInt8, beginsNumber byte = true →
    Reader.isWhitespace byte = false ∧ byte ≠ 'n'.toUInt8 ∧ byte ≠ 't'.toUInt8 ∧
      byte ≠ 'f'.toUInt8 ∧ byte ≠ '"'.toUInt8 ∧ byte ≠ '{'.toUInt8 ∧ byte ≠ '['.toUInt8 ∧
      byte ≠ ']'.toUInt8 :=
  forall_byte (by decide +kernel)

theorem decimal_begins (value : Nat) :
    ∃ byte text, decimal value = byte :: text ∧ beginsNumber byte = true := by
  obtain ⟨byte, text, shape, digit⟩ := decimal_head value
  exact ⟨byte, text, shape, by simp [beginsNumber, digit]⟩

theorem i64toa_begins (value : Int64) :
    ∃ byte text, Writer.i64toa value = byte :: text ∧ beginsNumber byte = true := by
  unfold Writer.i64toa
  split
  · exact ⟨_, _, rfl, by decide⟩
  · exact decimal_begins _

/-- The first byte of a value is neither white space nor the end of an array. -/
theorem write_head {value : Value Double} (exact : value.exact = true) :
    ∃ byte text, Writer.write value = byte :: text ∧ Reader.isWhitespace byte = false ∧
      byte ≠ ']'.toUInt8 := by
  cases value with
  | null => exact ⟨_, _, rfl, by decide, by decide⟩
  | bool value => cases value <;> exact ⟨_, _, rfl, by decide, by decide⟩
  | int64 value =>
      obtain ⟨byte, text, shape, begins⟩ := i64toa_begins value
      have differs := beginsNumber_ne byte begins
      exact ⟨byte, text, by rw [Writer.write, shape], differs.1, differs.2.2.2.2.2.2.2⟩
  | uint64 value large =>
      obtain ⟨byte, text, shape, begins⟩ := decimal_begins value.toNat
      have differs := beginsNumber_ne byte begins
      exact ⟨byte, text, by rw [Writer.write, shape], differs.1, differs.2.2.2.2.2.2.2⟩
  | double value => exact absurd exact (by simp [Value.exact])
  | string value => exact ⟨_, _, by rw [Writer.write, Writer.writeString]; rfl, by decide, by decide⟩
  | array elements => exact ⟨_, _, by rw [Writer.write]; rfl, by decide, by decide⟩
  | object members => exact ⟨_, _, by rw [Writer.write]; rfl, by decide, by decide⟩

theorem skipWhitespace_cons {byte : UInt8} (is : List UInt8)
    (visible : Reader.isWhitespace byte = false) :
    Reader.skipWhitespace (byte :: is) = byte :: is := by
  rw [Reader.skipWhitespace, List.dropWhile_cons_of_neg (by simp [visible])]

/-- Behind a written value the reader sees its first byte at once. -/
theorem skipWhitespace_write {value : Value Double} (exact : value.exact = true)
    (tail : List UInt8) :
    Reader.skipWhitespace (Writer.write value ++ tail) = Writer.write value ++ tail := by
  obtain ⟨byte, text, shape, visible, _⟩ := write_head exact
  rw [shape, List.cons_append, skipWhitespace_cons _ visible]

/-- A text that begins like a number is left to `ParseNumber`. -/
theorem parseValue_number {text : List UInt8} (fuel : Nat) (tail : List UInt8)
    (begins : ∃ byte rest, text = byte :: rest ∧ beginsNumber byte = true) :
    (Reader.parseValue (fuel + 1) (text ++ tail) : Except Failure (Value Double × List UInt8)) =
      Reader.orRefuse (Reader.parseNumber (text ++ tail)) := by
  obtain ⟨byte, rest, rfl, begins⟩ := begins
  obtain ⟨_, notN, notT, notF, notQuote, notBrace, notBracket, _⟩ := beginsNumber_ne byte begins
  rw [List.cons_append, Reader.parseValue, if_neg notN, if_neg notT, if_neg notF, if_neg notQuote,
    if_neg notBrace, if_neg notBracket]

theorem takeLiteral_append (expected tail : List UInt8) :
    Reader.takeLiteral expected (expected ++ tail) = some tail := by
  rw [Reader.takeLiteral, if_pos (by simp), List.drop_left]

/-- The values after the first one begin with a comma. -/
theorem writeElements_later (element : Value Double) (elements : List (Value Double)) :
    Writer.writeElements true (element :: elements) =
      ','.toUInt8 :: Writer.writeElements false (element :: elements) := by
  rw [Writer.writeElements, Writer.writeElements]
  rfl

theorem writeMembers_later (member : List UInt8 × Value Double)
    (members : List (List UInt8 × Value Double)) :
    Writer.writeMembers true (member :: members) =
      ','.toUInt8 :: Writer.writeMembers false (member :: members) := by
  obtain ⟨name, value⟩ := member
  rw [Writer.writeMembers, Writer.writeMembers]
  rfl

theorem writeMembers_cons (name : List UInt8) (value : Value Double)
    (members : List (List UInt8 × Value Double)) :
    Writer.writeMembers false ((name, value) :: members) =
      '"'.toUInt8 :: (name.flatMap Writer.writeChar ++ '"'.toUInt8 :: ':'.toUInt8 ::
        (Writer.write value ++ Writer.writeMembers true members)) := by
  rw [Writer.writeMembers, Writer.writeString]
  simp [Writer.comma]

/-- A comma behind a value makes another turn, and the closing bracket ends the loop. -/
theorem parseElements_next {fuel : Nat} {is left : List UInt8} {element : Value Double}
    (read : Reader.parseValue fuel is = .ok (element, ','.toUInt8 :: left)) :
    Reader.parseElements (fuel + 1) is =
      (Reader.parseElements fuel (Reader.skipWhitespace left)).map fun (elements, is) =>
        (element :: elements, is) := by
  rw [Reader.parseElements, read]
  rfl

theorem parseElements_last {fuel : Nat} {is left : List UInt8} {element : Value Double}
    (read : Reader.parseValue fuel is = .ok (element, ']'.toUInt8 :: left)) :
    Reader.parseElements (fuel + 1) is = .ok ([element], left) := by
  rw [Reader.parseElements, read]
  rfl

/-- The text of a member is its written name, a colon and its value. -/
theorem parseMembers_next {fuel : Nat} {is left : List UInt8} {name : List UInt8}
    {value : Value Double} (read : Reader.parseValue fuel (Reader.skipWhitespace is) =
      .ok (value, ','.toUInt8 :: left)) :
    Reader.parseMembers (fuel + 1) ('"'.toUInt8 :: (name.flatMap Writer.writeChar ++
        '"'.toUInt8 :: ':'.toUInt8 :: is)) =
      (Reader.parseMembers fuel (Reader.skipWhitespace left)).map fun (members, is) =>
        ((name, value) :: members, is) := by
  rw [Reader.parseMembers, if_neg (by decide), parseString_writeString, Except.bind]
  simp only [skipWhitespace_cons is (show Reader.isWhitespace ':'.toUInt8 = false by decide), read]
  rfl

theorem parseMembers_last {fuel : Nat} {is left : List UInt8} {name : List UInt8}
    {value : Value Double} (read : Reader.parseValue fuel (Reader.skipWhitespace is) =
      .ok (value, '}'.toUInt8 :: left)) :
    Reader.parseMembers (fuel + 1) ('"'.toUInt8 :: (name.flatMap Writer.writeChar ++
        '"'.toUInt8 :: ':'.toUInt8 :: is)) = .ok ([(name, value)], left) := by
  rw [Reader.parseMembers, if_neg (by decide), parseString_writeString, Except.bind]
  simp only [skipWhitespace_cons is (show Reader.isWhitespace ':'.toUInt8 = false by decide), read]
  rfl

mutual

/-- The reader gets back an exact value from its text, and leaves what follows. -/
theorem parseValue_write (value : Value Double) (exact : value.exact = true) (fuel : Nat)
    (enough : (Writer.write value).length ≤ fuel) (tail : List UInt8)
    (delimited : Delimited tail) :
    Reader.parseValue fuel (Writer.write value ++ tail) = .ok (value, tail) := by
  obtain ⟨byte, text, shape, _⟩ := write_head exact
  obtain ⟨fuel, rfl⟩ : ∃ more, fuel = more + 1 := by
    refine Nat.exists_eq_succ_of_ne_zero ?_
    rw [shape, List.length_cons] at enough
    omega
  clear shape
  cases value with
  | null =>
      change Reader.parseValue (fuel + 1) ('n'.toUInt8 :: (ascii "ull" ++ tail)) = _
      rw [Reader.parseValue, if_pos rfl, takeLiteral_append]
      rfl
  | bool value =>
      cases value with
      | false =>
          change Reader.parseValue (fuel + 1) ('f'.toUInt8 :: (ascii "alse" ++ tail)) = _
          rw [Reader.parseValue, if_neg (by decide), if_neg (by decide), if_pos rfl,
            takeLiteral_append]
          rfl
      | true =>
          change Reader.parseValue (fuel + 1) ('t'.toUInt8 :: (ascii "rue" ++ tail)) = _
          rw [Reader.parseValue, if_neg (by decide), if_pos rfl, takeLiteral_append]
          rfl
  | int64 value =>
      rw [Writer.write, parseValue_number fuel tail (i64toa_begins value),
        parseNumber_i64toa value delimited, Reader.orRefuse]
  | uint64 value large =>
      rw [Writer.write, parseValue_number fuel tail (decimal_begins value.toNat),
        parseNumber_decimal delimited value.toNat_lt, Reader.integer, if_neg (by decide),
        UInt64.ofNat_toNat, Reader.ofUint64, dif_pos large, Reader.orRefuse]
  | double value => exact absurd exact (by simp [Value.exact])
  | string value =>
      rw [Writer.write, Writer.writeString, List.cons_append, List.cons_append, List.append_assoc,
        List.singleton_append, Reader.parseValue, if_neg (by decide), if_neg (by decide),
        if_neg (by decide), if_pos rfl, parseString_writeString]
      rfl
  | array elements =>
      rw [Writer.write, List.cons_append, List.length_cons, List.length_append,
        List.length_singleton] at enough
      rw [Writer.write, List.cons_append, List.cons_append, List.append_assoc,
        List.singleton_append, Reader.parseValue, if_neg (by decide), if_neg (by decide),
        if_neg (by decide), if_neg (by decide), if_neg (by decide), if_pos rfl]
      cases elements with
      | nil => rfl
      | cons element elements =>
          have parts : element.exact = true ∧ Value.exactElements elements = true := by
            simpa [Value.exact, Value.exactElements] using exact
          have read := parseElements_write element elements parts.1 parts.2 fuel (by omega) tail
          obtain ⟨byte, text, shape, visible, notEnd⟩ := write_head parts.1
          have visibleAll : Reader.skipWhitespace (Writer.writeElements false (element :: elements) ++
              ']'.toUInt8 :: tail) =
              Writer.writeElements false (element :: elements) ++ ']'.toUInt8 :: tail := by
            rw [Writer.writeElements, shape]
            exact skipWhitespace_cons _ visible
          have notClosed : (Writer.writeElements false (element :: elements) ++
              ']'.toUInt8 :: tail).head? ≠ some ']'.toUInt8 := by
            rw [Writer.writeElements, shape]
            simpa [Writer.comma] using notEnd
          rw [visibleAll, if_neg notClosed, read]
          rfl
  | object members =>
      rw [Writer.write, List.cons_append, List.length_cons, List.length_append,
        List.length_singleton] at enough
      rw [Writer.write, List.cons_append, List.cons_append, List.append_assoc,
        List.singleton_append, Reader.parseValue, if_neg (by decide), if_neg (by decide),
        if_neg (by decide), if_neg (by decide), if_pos rfl]
      cases members with
      | nil => rfl
      | cons member members =>
          obtain ⟨name, value⟩ := member
          have parts : value.exact = true ∧ Value.exactMembers members = true := by
            simpa [Value.exact, Value.exactMembers] using exact
          have read := parseMembers_write name value members parts.1 parts.2 fuel (by omega) tail
          have visibleAll : Reader.skipWhitespace (Writer.writeMembers false ((name, value) :: members) ++
              '}'.toUInt8 :: tail) =
              Writer.writeMembers false ((name, value) :: members) ++ '}'.toUInt8 :: tail := by
            rw [writeMembers_cons]
            exact skipWhitespace_cons _ (by decide)
          have notClosed : (Writer.writeMembers false ((name, value) :: members) ++
              '}'.toUInt8 :: tail).head? ≠ some '}'.toUInt8 := by
            rw [writeMembers_cons, List.cons_append, List.head?_cons]
            decide
          rw [visibleAll, if_neg notClosed, read]
          rfl
termination_by fuel

/-- The reader gets back the elements of an array up to its closing bracket. -/
theorem parseElements_write (element : Value Double) (elements : List (Value Double))
    (exact : element.exact = true) (exactRest : Value.exactElements elements = true) (fuel : Nat)
    (enough : (Writer.writeElements false (element :: elements)).length + 1 ≤ fuel)
    (tail : List UInt8) :
    Reader.parseElements fuel (Writer.writeElements false (element :: elements) ++
      ']'.toUInt8 :: tail) = .ok (element :: elements, tail) := by
  obtain ⟨fuel, rfl⟩ : ∃ more, fuel = more + 1 := Nat.exists_eq_succ_of_ne_zero (by omega)
  have first : Writer.writeElements false (element :: elements) =
      Writer.write element ++ Writer.writeElements true elements := by
    rw [Writer.writeElements]
    rfl
  rw [first, List.length_append] at enough
  rw [first, List.append_assoc]
  cases elements with
  | nil =>
      rw [Writer.writeElements, List.nil_append]
      exact parseElements_last (parseValue_write element exact fuel (by omega) _
        (delimited_separator _ (by decide)))
  | cons next elements =>
      have parts : next.exact = true ∧ Value.exactElements elements = true := by
        simpa [Value.exactElements] using exactRest
      have nonempty : 0 < (Writer.write element).length := by
        obtain ⟨byte, text, shape, _⟩ := write_head exact
        rw [shape]
        exact Nat.zero_lt_succ _
      rw [writeElements_later, List.length_cons] at enough
      have rest := parseElements_write next elements parts.1 parts.2 fuel (by omega) tail
      have visible : Reader.skipWhitespace (Writer.writeElements false (next :: elements) ++
          ']'.toUInt8 :: tail) =
          Writer.writeElements false (next :: elements) ++ ']'.toUInt8 :: tail := by
        rw [Writer.writeElements, Writer.comma, if_neg (by decide), List.nil_append,
          List.append_assoc, skipWhitespace_write parts.1]
      rw [writeElements_later, List.cons_append]
      rw [parseElements_next (parseValue_write element exact fuel (by omega) _
        (delimited_separator _ (by decide))), visible, rest]
      rfl
termination_by fuel

/-- The reader gets back the members of an object up to its closing brace. -/
theorem parseMembers_write (name : List UInt8) (value : Value Double)
    (members : List (List UInt8 × Value Double)) (exact : value.exact = true)
    (exactRest : Value.exactMembers members = true) (fuel : Nat)
    (enough : (Writer.writeMembers false ((name, value) :: members)).length + 1 ≤ fuel)
    (tail : List UInt8) :
    Reader.parseMembers fuel (Writer.writeMembers false ((name, value) :: members) ++
      '}'.toUInt8 :: tail) = .ok ((name, value) :: members, tail) := by
  obtain ⟨fuel, rfl⟩ : ∃ more, fuel = more + 1 := Nat.exists_eq_succ_of_ne_zero (by omega)
  simp only [writeMembers_cons, List.length_cons, List.length_append] at enough
  rw [writeMembers_cons, List.cons_append, List.append_assoc, List.cons_append, List.cons_append,
    List.append_assoc]
  cases members with
  | nil =>
      rw [Writer.writeMembers, List.nil_append]
      apply parseMembers_last
      rw [skipWhitespace_write exact]
      exact parseValue_write value exact fuel (by omega) _ (delimited_separator _ (by decide))
  | cons member members =>
      obtain ⟨next, nextValue⟩ := member
      have parts : nextValue.exact = true ∧ Value.exactMembers members = true := by
        simpa [Value.exactMembers] using exactRest
      rw [writeMembers_later, List.length_cons] at enough
      have rest := parseMembers_write next nextValue members parts.1 parts.2 fuel (by omega) tail
      have visible : Reader.skipWhitespace (Writer.writeMembers false ((next, nextValue) :: members) ++
          '}'.toUInt8 :: tail) =
          Writer.writeMembers false ((next, nextValue) :: members) ++ '}'.toUInt8 :: tail := by
        rw [writeMembers_cons, List.cons_append, skipWhitespace_cons _ (by decide)]
      rw [writeMembers_later, List.cons_append]
      rw [parseMembers_next (by
        rw [skipWhitespace_write exact]
        exact parseValue_write value exact fuel (by omega) _ (delimited_separator _ (by decide))),
        visible, rest]
      rfl
termination_by fuel

end

/-- The root of a written text is the whole text. -/
theorem parseRoot_written {value : Value Double} (exact : value.exact = true) :
    Reader.parseRoot (Writer.write value) = .ok value := by
  have visible : Reader.skipWhitespace (Writer.write value) = Writer.write value := by
    simpa using skipWhitespace_write exact []
  have read := parseValue_write value exact (2 * (Writer.write value).length + 1) (by omega) []
    delimited_nil
  rw [List.append_nil] at read
  rw [Reader.parseRoot, visible, read]
  rfl

/-- A document without a `double` is read back from its text, with every byte of its strings. -/
theorem document_read_back {value : Value Double} (exact : value.exact = true) :
    Reader.parse (Writer.write value) = some value := by
  rw [Reader.parse, parseRoot_written exact]

def nestedDocument : Value Empty :=
  .object [([0, 34], .array [.int64 (-7), .string [200, 10]])]

theorem document_read_back_nested :
    Reader.parse (Writer.write nestedDocument) = some nestedDocument :=
  document_read_back (by decide)

end VoiceCall.Transport
