import Mathlib.Tactic

namespace VoiceCall.Foundation

/-- The wire writes an integer with its most significant byte first. -/
def bigEndian (bytes : List UInt8) : Nat :=
  bytes.foldl (fun value byte => 256 * value + byte.toNat) 0

/-- The bytes of a word, most significant first, read back as the word. -/
theorem bigEndian_word16 (word : UInt16) :
    bigEndian [(word >>> 8).toUInt8, word.toUInt8] = word.toNat := by
  have bound := word.toNat_lt
  simp [bigEndian, Nat.shiftRight_eq_div_pow]
  omega

theorem bigEndian_word32 (word : UInt32) :
    bigEndian [(word >>> 24).toUInt8, (word >>> 16).toUInt8, (word >>> 8).toUInt8,
      word.toUInt8] = word.toNat := by
  have bound := word.toNat_lt
  simp [bigEndian, Nat.shiftRight_eq_div_pow]
  omega

/-- A property of a byte is checked byte by byte. -/
theorem forall_byte {property : UInt8 → Prop}
    (checked : ∀ number : Fin 256, property (UInt8.ofFin number)) (byte : UInt8) :
    property byte :=
  checked byte.toFin

end VoiceCall.Foundation
