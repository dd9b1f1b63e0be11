import Mathlib.Data.List.TakeWhile
import Mathlib.Tactic

namespace VoiceCall.Foundation

/-- A text is a list of bytes, and an ASCII character is one byte of it. -/
def ascii (text : String) : List UInt8 := text.toList.map Char.toUInt8

def isDigit (byte : UInt8) : Bool := '0'.toUInt8 ≤ byte && byte ≤ '9'.toUInt8

def digitValue (byte : UInt8) : Nat := byte.toNat - 48

def digitByte (digit : Nat) : UInt8 := UInt8.ofNat (48 + digit)

/-- The decimal text of a number has its most significant digit first. -/
def decimal (value : Nat) : List UInt8 :=
  if value = 0 then [digitByte 0] else (Nat.digits 10 value).reverse.map digitByte

/-- The digits of a text extend the value that was read before them. -/
def readDecimal (start : Nat) (text : List UInt8) : Nat :=
  text.foldl (fun value byte => value * 10 + digitValue byte) start

theorem isDigit_iff {byte : UInt8} : isDigit byte = true ↔ 48 ≤ byte.toNat ∧ byte.toNat ≤ 57 := by
  simp [isDigit, UInt8.le_iff_toNat_le]
  rfl

@[simp] theorem digitByte_toNat {digit : Nat} (small : digit < 10) :
    (digitByte digit).toNat = 48 + digit := by
  simp [digitByte]
  omega

theorem isDigit_digitByte {digit : Nat} (small : digit < 10) :
    isDigit (digitByte digit) = true := by
  rw [isDigit_iff, digitByte_toNat small]
  omega

theorem digitValue_digitByte {digit : Nat} (small : digit < 10) :
    digitValue (digitByte digit) = digit := by
  rw [digitValue, digitByte_toNat small]
  omega

@[simp] theorem readDecimal_nil (start : Nat) : readDecimal start [] = start := rfl

@[simp] theorem readDecimal_cons (start : Nat) (byte : UInt8) (text : List UInt8) :
    readDecimal start (byte :: text) = readDecimal (start * 10 + digitValue byte) text := by
  rw [readDecimal, List.foldl_cons, ← readDecimal]

theorem readDecimal_append (start : Nat) (first second : List UInt8) :
    readDecimal start (first ++ second) = readDecimal (readDecimal start first) second := by
  rw [readDecimal, List.foldl_append, ← readDecimal, ← readDecimal]

/-- Reading more digits never makes the value smaller. -/
theorem le_readDecimal (start : Nat) (text : List UInt8) : start ≤ readDecimal start text := by
  induction text generalizing start with
  | nil => exact Nat.le_refl start
  | cons byte text ih =>
      have step := ih (start * 10 + digitValue byte)
      rw [readDecimal_cons]
      omega

/-- The least significant digit is read last. -/
theorem readDecimal_reverse {digits : List Nat} (small : ∀ digit ∈ digits, digit < 10) :
    readDecimal 0 (digits.reverse.map digitByte) = Nat.ofDigits 10 digits := by
  induction digits with
  | nil => rfl
  | cons digit digits ih =>
      have rest := ih fun other member => small other (List.mem_cons_of_mem digit member)
      have value := digitValue_digitByte (small digit List.mem_cons_self)
      rw [List.reverse_cons, List.map_append, readDecimal_append, rest, List.map_singleton,
        readDecimal_cons, readDecimal_nil, value, Nat.ofDigits_cons]
      omega

/-- A decimal text reads back as its number. -/
@[simp] theorem readDecimal_decimal (value : Nat) : readDecimal 0 (decimal value) = value := by
  unfold decimal
  split
  · next zero =>
      rw [zero]
      rfl
  · rw [readDecimal_reverse fun digit member => Nat.digits_lt_base (by decide) member,
      Nat.ofDigits_digits]

theorem isDigit_of_mem_decimal {value : Nat} {byte : UInt8} (member : byte ∈ decimal value) :
    isDigit byte = true := by
  unfold decimal at member
  split at member
  · rw [List.mem_singleton.mp member]
    rfl
  · obtain ⟨digit, isIn, same⟩ := List.mem_map.mp member
    rw [← same]
    exact isDigit_digitByte (Nat.digits_lt_base (by decide) (List.mem_reverse.mp isIn))

theorem decimal_zero : decimal 0 = ['0'.toUInt8] := rfl

/-- A positive number has a first digit other than zero. -/
theorem decimal_cons_of_pos {value : Nat} (positive : 0 < value) :
    ∃ byte text, decimal value = byte :: text ∧ isDigit byte = true ∧ byte ≠ '0'.toUInt8 := by
  have nonzero : value ≠ 0 := Nat.ne_of_gt positive
  have some : Nat.digits 10 value ≠ [] := Nat.digits_ne_nil_iff_ne_zero.mpr nonzero
  have last := Nat.getLast_digit_ne_zero 10 nonzero
  have small := Nat.digits_lt_base (by decide) (List.getLast_mem some) (m := value)
  have shape : decimal value = digitByte ((Nat.digits 10 value).getLast some) ::
      ((Nat.digits 10 value).dropLast.reverse.map digitByte) := by
    rw [decimal, if_neg nonzero]
    conv_lhs => rw [← List.dropLast_append_getLast some]
    rw [List.reverse_append, List.reverse_singleton, List.singleton_append, List.map_cons]
  refine ⟨_, _, shape, isDigit_digitByte small, ?_⟩
  intro same
  have value := congrArg UInt8.toNat same
  rw [digitByte_toNat small] at value
  have zero : ('0'.toUInt8).toNat = 48 := rfl
  omega

theorem decimal_ne_nil (value : Nat) : decimal value ≠ [] := by
  rcases Nat.eq_zero_or_pos value with zero | positive
  · rw [zero]
    exact List.cons_ne_nil _ _
  · obtain ⟨byte, text, shape, _⟩ := decimal_cons_of_pos positive
    rw [shape]
    exact List.cons_ne_nil _ _

/-- No digit begins what follows a number. -/
def NoDigit (tail : List UInt8) : Prop := ∀ byte ∈ tail.head?, isDigit byte = false

/-- The loop takes digits while the next one keeps the value within `bound` tens and `last`.
The flag tells whether a digit was left over. -/
def takeWithin (bound last : Nat) : Nat → List UInt8 → Nat × Bool × List UInt8
  | value, [] => (value, false, [])
  | value, byte :: text =>
      if isDigit byte then
        if bound ≤ value ∧ (value ≠ bound ∨ last < digitValue byte) then
          (value, true, byte :: text)
        else takeWithin bound last (value * 10 + digitValue byte) text
      else (value, false, byte :: text)

/-- The loop reads a first part of the digits, and leaves some only if all exceed the limit. -/
theorem takeWithin_append (bound last start : Nat) {digits tail : List UInt8}
    (areDigits : ∀ byte ∈ digits, isDigit byte = true) (ends : NoDigit tail) (small : last < 10) :
    ∃ taken left, digits = taken ++ left ∧
      takeWithin bound last start (digits ++ tail) =
        (readDecimal start taken, !left.isEmpty, left ++ tail) ∧
      (left ≠ [] → bound * 10 + last < readDecimal start digits) := by
  induction digits generalizing start with
  | nil =>
      refine ⟨[], [], rfl, ?_, fun absent => absurd rfl absent⟩
      cases tail with
      | nil => rfl
      | cons byte tail =>
          have other : isDigit byte = false := ends byte rfl
          simp [takeWithin, other]
  | cons byte digits ih =>
      have isOne := areDigits byte List.mem_cons_self
      by_cases exceeded : bound ≤ start ∧ (start ≠ bound ∨ last < digitValue byte)
      · refine ⟨[], byte :: digits, rfl, ?_, fun _ => ?_⟩
        · simp [takeWithin, isOne, exceeded]
        · have grows := le_readDecimal (start * 10 + digitValue byte) digits
          rw [readDecimal_cons]
          omega
      · obtain ⟨taken, left, split, result, exceeds⟩ :=
          ih (start * 10 + digitValue byte)
            fun other member => areDigits other (List.mem_cons_of_mem byte member)
        refine ⟨byte :: taken, left, by rw [split, List.cons_append], ?_, exceeds⟩
        rw [List.cons_append, takeWithin, if_pos isOne, if_neg exceeded, result, readDecimal_cons]

/-- A value within the limit is read to its last digit. -/
theorem takeWithin_all (bound last start : Nat) {digits tail : List UInt8}
    (areDigits : ∀ byte ∈ digits, isDigit byte = true) (ends : NoDigit tail) (small : last < 10)
    (within : readDecimal start digits ≤ bound * 10 + last) :
    takeWithin bound last start (digits ++ tail) = (readDecimal start digits, false, tail) := by
  obtain ⟨taken, left, split, result, exceeds⟩ :=
    takeWithin_append bound last start areDigits ends small
  have none : left = [] := by
    by_contra some
    have above := exceeds some
    omega
  rw [result, split, none]
  simp

def isSpace (byte : UInt8) : Bool := byte = ' '.toUInt8 || (9 ≤ byte && byte ≤ 13)

/-- The standard conversions skip white space, take a sign, and read digits while there are some. -/
def strtol (text : List UInt8) : Option Int :=
  let text := text.dropWhile isSpace
  let signed : Bool := text.head? = some '-'.toUInt8 || text.head? = some '+'.toUInt8
  let digits := (if signed then text.tail else text).takeWhile isDigit
  if digits.isEmpty then none
  else if text.head? = some '-'.toUInt8 then some (-readDecimal 0 digits)
  else some (readDecimal 0 digits)

/-- An `unsigned long` has 64 bits, and a text beyond them throws. -/
def stoul (text : List UInt8) : Option Nat :=
  (strtol text).bind fun value =>
    if value.natAbs < 2 ^ 64 then some (value % 2 ^ 64).toNat else none

def stoi (text : List UInt8) : Option Int :=
  (strtol text).bind fun value =>
    if -2 ^ 31 ≤ value ∧ value < 2 ^ 31 then some value else none

theorem strtol_decimal (value : Nat) : strtol (decimal value) = some (value : Int) := by
  obtain ⟨byte, text, shape⟩ := List.exists_cons_of_ne_nil (decimal_ne_nil value)
  have areDigits := fun other (member : other ∈ decimal value) => isDigit_of_mem_decimal member
  have isOne : isDigit byte = true := areDigits byte (shape ▸ List.mem_cons_self)
  have notSpace : isSpace byte = false := by
    have bounds := isDigit_iff.mp isOne
    simp only [isSpace, Bool.or_eq_false_iff, decide_eq_false_iff_not, Bool.and_eq_false_iff,
      UInt8.le_iff_toNat_le]
    refine ⟨?_, .inr ?_⟩
    · rintro rfl
      exact absurd isOne (by decide)
    · change ¬byte.toNat ≤ 13
      omega
  have whole : (decimal value).dropWhile isSpace = decimal value := by
    rw [shape, List.dropWhile_cons_of_neg (by simp [notSpace])]
  have noSign : byte ≠ '-'.toUInt8 ∧ byte ≠ '+'.toUInt8 := by
    constructor <;> rintro rfl <;> exact absurd isOne (by decide)
  have digits : (decimal value).takeWhile isDigit = decimal value :=
    List.takeWhile_eq_self_iff.mpr areDigits
  have unsigned : ((decimal value).head? = some '-'.toUInt8) = False := by
    simp [shape, noSign.1]
  have positive : ((decimal value).head? = some '+'.toUInt8) = False := by
    simp [shape, noSign.2]
  simp only [strtol, whole, unsigned, positive, digits, decide_false, Bool.or_false,
    Bool.false_eq_true, if_false, List.isEmpty_iff, decimal_ne_nil, readDecimal_decimal]

@[simp] theorem stoul_decimal {value : Nat} (small : value < 2 ^ 64) :
    stoul (decimal value) = some value := by
  rw [stoul, strtol_decimal, Option.bind_some, if_pos (by omega)]
  congr 1
  omega

@[simp] theorem stoi_decimal {value : Nat} (small : value < 2 ^ 31) :
    stoi (decimal value) = some (value : Int) := by
  rw [stoi, strtol_decimal, Option.bind_some, if_pos (by omega)]

end VoiceCall.Foundation
