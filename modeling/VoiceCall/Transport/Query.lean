import VoiceCall.Transport.Document

namespace VoiceCall.Transport
open Foundation

/-- The digits of a byte under `std::hex`, `std::uppercase` and `std::setw(2)`.
The stream still fills with spaces, so a byte below 16 has no leading zero. -/
def hexText (byte : UInt8) : List UInt8 :=
  if byte < 16 then [' '.toUInt8, Writer.hexDigits byte]
  else [Writer.hexDigits (byte >>> 4), Writer.hexDigits (byte &&& 0xF)]

def isAlphanumeric (byte : UInt8) : Bool :=
  ('a'.toUInt8 ≤ byte && byte ≤ 'z'.toUInt8) || ('A'.toUInt8 ≤ byte && byte ≤ 'Z'.toUInt8) ||
    ('0'.toUInt8 ≤ byte && byte ≤ '9'.toUInt8)

/-- One turn of the loop of `encode_query_string`. -/
def encodeQueryChar (byte : UInt8) : List UInt8 :=
  if isAlphanumeric byte then [byte] else '%'.toUInt8 :: hexText byte

def encodeQueryString (query : List UInt8) : List UInt8 := query.flatMap encodeQueryChar

/-- Only the value of a parameter is encoded. -/
def queryParameter (parameter : List UInt8 × List UInt8) : List UInt8 :=
  parameter.1 ++ '='.toUInt8 :: encodeQueryString parameter.2

/-- The text that `connect` makes of its query, each parameter behind its own sign. -/
def queryString (query : List (List UInt8 × List UInt8)) : List UInt8 :=
  query.flatMap fun parameter => '&'.toUInt8 :: queryParameter parameter

/-- The bytes that stand for themselves in a percent-encoding. -/
def isUnreserved (byte : UInt8) : Bool :=
  isAlphanumeric byte || byte == '-'.toUInt8 || byte == '.'.toUInt8 || byte == '_'.toUInt8 ||
    byte == '~'.toUInt8

/-- A percent-encoding writes an unreserved byte as itself, and any byte as a percent sign and
two hexadecimal digits. -/
inductive PercentEncodes : List UInt8 → List UInt8 → Prop
  | nil : PercentEncodes [] []
  | plain {byte : UInt8} {text bytes : List UInt8} (unreserved : isUnreserved byte = true)
      (rest : PercentEncodes text bytes) : PercentEncodes (byte :: text) (byte :: bytes)
  | escaped {byte high low : UInt8} {first second : Nat} {text bytes : List UInt8}
      (isHigh : Reader.hexValue high = some first) (isLow : Reader.hexValue low = some second)
      (named : UInt8.ofNat (16 * first + second) = byte) (rest : PercentEncodes text bytes) :
      PercentEncodes ('%'.toUInt8 :: high :: low :: text) (byte :: bytes)

/-- An encoded query holds an encoded name and an encoded value for each parameter. -/
inductive QueryEncodes : List UInt8 → List (List UInt8 × List UInt8) → Prop
  | nil : QueryEncodes [] []
  | cons {name value text : List UInt8} {parameter : List UInt8 × List UInt8}
      {query : List (List UInt8 × List UInt8)} (isName : PercentEncodes name parameter.1)
      (isValue : PercentEncodes value parameter.2) (rest : QueryEncodes text query) :
      QueryEncodes ('&'.toUInt8 :: (name ++ '='.toUInt8 :: (value ++ text))) (parameter :: query)

/-- A byte from 16 on is written with two digits, which name it. -/
theorem hexText_named : ∀ byte : UInt8, 16 ≤ byte →
    ∃ high low, hexText byte = [Writer.hexDigits (byte >>> 4), Writer.hexDigits (byte &&& 0xF)] ∧
      Reader.hexValue (Writer.hexDigits (byte >>> 4)) = some high ∧
      Reader.hexValue (Writer.hexDigits (byte &&& 0xF)) = some low ∧
      UInt8.ofNat (16 * high + low) = byte :=
  forall_byte fun number large => by
    have known : ∀ number : Fin 256, 16 ≤ UInt8.ofFin number →
        hexText (UInt8.ofFin number) = [Writer.hexDigits (UInt8.ofFin number >>> 4),
          Writer.hexDigits (UInt8.ofFin number &&& 0xF)] ∧
        Reader.hexValue (Writer.hexDigits (UInt8.ofFin number >>> 4)) = some (number / 16) ∧
        Reader.hexValue (Writer.hexDigits (UInt8.ofFin number &&& 0xF)) = some (number % 16) ∧
        UInt8.ofNat (16 * (number / 16) + number % 16) = UInt8.ofFin number := by
      decide +kernel
    exact ⟨_, _, known number large⟩

/-- A smaller byte is written with a space, and is no letter or digit. -/
theorem encodeQueryChar_small : ∀ byte : UInt8, byte < 16 →
    encodeQueryChar byte = ['%'.toUInt8, ' '.toUInt8, Writer.hexDigits byte] :=
  forall_byte (by decide +kernel)

theorem isAlphanumeric_plain : ∀ byte : UInt8, isAlphanumeric byte = true →
    16 ≤ byte ∧ byte ≠ '%'.toUInt8 :=
  forall_byte (by decide +kernel)

/-- The three signs of a query are reserved. -/
theorem isUnreserved_sign : ∀ byte : UInt8, isUnreserved byte = true →
    byte ≠ '&'.toUInt8 ∧ byte ≠ '='.toUInt8 ∧ byte ≠ '%'.toUInt8 :=
  forall_byte (by decide +kernel)

theorem hexValue_sign : ∀ byte : UInt8, (Reader.hexValue byte).isSome = true →
    byte ≠ '&'.toUInt8 ∧ byte ≠ '='.toUInt8 :=
  forall_byte (by decide +kernel)

/-- No byte is written with one of the two signs that divide a query. -/
theorem encodeQueryChar_no_sign : ∀ byte : UInt8,
    '&'.toUInt8 ∉ encodeQueryChar byte ∧ '='.toUInt8 ∉ encodeQueryChar byte :=
  forall_byte (by decide +kernel)

theorem encodeQueryString_no_ampersand (query : List UInt8) :
    '&'.toUInt8 ∉ encodeQueryString query := by
  intro member
  obtain ⟨byte, _, isSign⟩ := List.mem_flatMap.mp member
  exact (encodeQueryChar_no_sign byte).1 isSign

namespace PercentEncodes

variable {text bytes : List UInt8}

/-- An encoding has none of the two signs that divide a query. -/
theorem no_sign (encodes : PercentEncodes text bytes) :
    '&'.toUInt8 ∉ text ∧ '='.toUInt8 ∉ text := by
  induction encodes with
  | nil => exact ⟨List.not_mem_nil, List.not_mem_nil⟩
  | plain unreserved _ ih =>
      obtain ⟨ampersand, equals, _⟩ := isUnreserved_sign _ unreserved
      simp only [List.mem_cons, not_or]
      exact ⟨⟨ampersand.symm, ih.1⟩, equals.symm, ih.2⟩
  | escaped isHigh isLow _ _ ih =>
      have high := hexValue_sign _ (Option.isSome_of_eq_some isHigh)
      have low := hexValue_sign _ (Option.isSome_of_eq_some isLow)
      simp only [List.mem_cons, not_or]
      exact ⟨⟨by decide, high.1.symm, low.1.symm, ih.1⟩, by decide, high.2.symm, low.2.symm, ih.2⟩

/-- An encoding is no shorter than what it encodes. -/
theorem length_le (encodes : PercentEncodes text bytes) : bytes.length ≤ text.length := by
  induction encodes with
  | nil => exact Nat.le_refl 0
  | plain _ _ ih =>
      simp only [List.length_cons]
      omega
  | escaped _ _ _ _ ih =>
      simp only [List.length_cons]
      omega

/-- An encoding of the same length writes every byte as itself. -/
theorem all_unreserved (encodes : PercentEncodes text bytes) (same : text.length = bytes.length) :
    ∀ byte ∈ bytes, isUnreserved byte = true := by
  induction encodes with
  | nil => exact fun _ member => absurd member List.not_mem_nil
  | plain unreserved _ ih =>
      simp only [List.length_cons, Nat.add_right_cancel_iff] at same
      exact List.forall_mem_cons.mpr ⟨unreserved, ih same⟩
  | escaped _ _ _ rest _ =>
      have longer := rest.length_le
      simp only [List.length_cons] at same
      omega

theorem of_unreserved (unreserved : ∀ byte ∈ bytes, isUnreserved byte = true) :
    PercentEncodes bytes bytes := by
  induction bytes with
  | nil => exact .nil
  | cons byte bytes ih =>
      obtain ⟨first, rest⟩ := List.forall_mem_cons.mp unreserved
      exact .plain first (ih rest)

/-- Names are not encoded, so that only unreserved bytes in them are as they should be. -/
theorem itself_iff : PercentEncodes bytes bytes ↔ ∀ byte ∈ bytes, isUnreserved byte = true :=
  ⟨fun encodes => encodes.all_unreserved rfl, of_unreserved⟩

/-- A byte is encoded exactly when it is not below 16. -/
theorem encodeQueryChar_iff (byte : UInt8) :
    PercentEncodes (encodeQueryChar byte ++ text) (byte :: bytes) ↔
      16 ≤ byte ∧ PercentEncodes text bytes := by
  by_cases large : 16 ≤ byte
  · unfold encodeQueryChar
    split
    · next alphanumeric =>
      rw [List.singleton_append]
      constructor
      · intro encodes
        cases encodes with
        | plain _ rest => exact ⟨large, rest⟩
        | escaped => exact absurd rfl (isAlphanumeric_plain _ alphanumeric).2
      · rintro ⟨_, rest⟩
        exact .plain (by simp [isUnreserved, alphanumeric]) rest
    · obtain ⟨high, low, written, isHigh, isLow, named⟩ := hexText_named byte large
      rw [written]
      constructor
      · intro encodes
        cases encodes with
        | plain unreserved _ => exact absurd rfl (isUnreserved_sign _ unreserved).2.2
        | escaped _ _ _ rest => exact ⟨large, rest⟩
      · rintro ⟨_, rest⟩
        exact .escaped isHigh isLow named rest
  · rw [encodeQueryChar_small byte (UInt8.not_le.mp large)]
    refine iff_of_false ?_ fun both => large both.1
    intro encodes
    cases encodes with
    | plain unreserved _ => exact absurd rfl (isUnreserved_sign _ unreserved).2.2
    | escaped isHigh _ _ _ => cases isHigh

/-- The text of a value encodes it exactly when no byte is below 16. -/
theorem encodeQueryString_iff :
    PercentEncodes (encodeQueryString bytes) bytes ↔ ∀ byte ∈ bytes, 16 ≤ byte := by
  induction bytes with
  | nil => exact iff_of_true .nil (fun _ member => absurd member List.not_mem_nil)
  | cons byte bytes ih =>
      rw [encodeQueryString, List.flatMap_cons, encodeQueryChar_iff, List.forall_mem_cons, ← ih]
      rfl

end PercentEncodes

theorem head_cons (sign : UInt8) (rest : List UInt8) :
    ∀ byte ∈ (sign :: rest).head?, byte = sign :=
  fun _ member => (Option.some.inj member).symm

/-- Two texts with the same first sign are the same before it and from it on. -/
theorem append_inj_of_sign {sign : UInt8} {first second rest other : List UInt8}
    (free : sign ∉ first) (freeToo : sign ∉ second) (starts : ∀ byte ∈ rest.head?, byte = sign)
    (startsToo : ∀ byte ∈ other.head?, byte = sign) (same : first ++ rest = second ++ other) :
    first = second ∧ rest = other := by
  induction first generalizing second with
  | nil =>
      cases second with
      | nil => exact ⟨rfl, same⟩
      | cons byte second =>
          have isSign := starts byte (by rw [show rest = _ from same]; rfl)
          exact absurd (List.mem_cons.mpr (.inl isSign.symm)) freeToo
  | cons byte first ih =>
      cases second with
      | nil =>
          have isSign := startsToo byte (by rw [← show _ = other from same]; rfl)
          exact absurd (List.mem_cons.mpr (.inl isSign.symm)) free
      | cons head second =>
          obtain ⟨rfl, tails⟩ := List.cons.inj same
          obtain ⟨rfl, rests⟩ := ih (fun member => free (List.mem_cons_of_mem _ member))
            (fun member => freeToo (List.mem_cons_of_mem _ member)) tails
          exact ⟨rfl, rests⟩

theorem queryString_cons (parameter : List UInt8 × List UInt8)
    (query : List (List UInt8 × List UInt8)) :
    queryString (parameter :: query) = '&'.toUInt8 ::
      (parameter.1 ++ '='.toUInt8 :: (encodeQueryString parameter.2 ++ queryString query)) := by
  rw [queryString, List.flatMap_cons, queryParameter, List.cons_append, List.append_assoc]
  rfl

theorem queryString_starts (query : List (List UInt8 × List UInt8)) :
    ∀ byte ∈ (queryString query).head?, byte = '&'.toUInt8 := by
  cases query with
  | nil => exact fun _ member => by cases member
  | cons parameter query => exact head_cons _ _

theorem QueryEncodes.starts {text : List UInt8} {query : List (List UInt8 × List UInt8)}
    (encodes : QueryEncodes text query) : ∀ byte ∈ text.head?, byte = '&'.toUInt8 := by
  cases encodes with
  | nil => exact fun _ member => by cases member
  | cons => exact head_cons _ _

/-- The first parameter of an encoded query is found in its text as it was put there. -/
theorem queryEncodes_cons_iff (parameter : List UInt8 × List UInt8)
    (query : List (List UInt8 × List UInt8)) :
    QueryEncodes (queryString (parameter :: query)) (parameter :: query) ↔
      (PercentEncodes parameter.1 parameter.1 ∧
        PercentEncodes (encodeQueryString parameter.2) parameter.2) ∧
      QueryEncodes (queryString query) query := by
  rw [queryString_cons]
  constructor
  · intro encodes
    generalize whole : '&'.toUInt8 :: (parameter.1 ++ '='.toUInt8 ::
      (encodeQueryString parameter.2 ++ queryString query)) = text at encodes
    cases encodes with
    | @cons name value text _ _ isName isValue rest =>
        have shape := (List.cons.inj whole).2
        -- A name with an equals sign would be cut at it, and its encoding cannot be shorter.
        have unsigned : '='.toUInt8 ∉ parameter.1 := by
          intro member
          obtain ⟨front, back, split, free⟩ := List.eq_append_cons_of_mem member
          rw [split, List.append_assoc] at shape
          obtain ⟨cut, _⟩ := append_inj_of_sign free isName.no_sign.2 (head_cons _ _)
            (head_cons _ _) shape
          have shorter := isName.length_le
          rw [← cut, split, List.length_append, List.length_cons] at shorter
          omega
        obtain ⟨sameName, values⟩ := append_inj_of_sign unsigned isName.no_sign.2
          (head_cons _ _) (head_cons _ _) shape
        obtain ⟨sameValue, sameRest⟩ := append_inj_of_sign
          (encodeQueryString_no_ampersand parameter.2) isValue.no_sign.1
          (queryString_starts query) rest.starts (List.cons.inj values).2
        rw [sameName, sameValue, sameRest]
        exact ⟨⟨sameName ▸ isName, isValue⟩, rest⟩
  · rintro ⟨⟨isName, isValue⟩, rest⟩
    exact .cons isName isValue rest

/-- The text of a query is an encoding of it exactly when no name has a reserved byte and no
value has a byte below 16. -/
theorem query_encoded_iff (query : List (List UInt8 × List UInt8)) :
    QueryEncodes (queryString query) query ↔
      ∀ parameter ∈ query, (∀ byte ∈ parameter.1, isUnreserved byte = true) ∧
        ∀ byte ∈ parameter.2, 16 ≤ byte := by
  induction query with
  | nil => exact iff_of_true .nil (fun _ member => absurd member List.not_mem_nil)
  | cons parameter query ih =>
      rw [queryEncodes_cons_iff, List.forall_mem_cons, ih, PercentEncodes.itself_iff,
        PercentEncodes.encodeQueryString_iff]

end VoiceCall.Transport
