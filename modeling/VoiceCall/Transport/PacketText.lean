import VoiceCall.Transport.Attachments
import VoiceCall.Transport.Packet

namespace VoiceCall.Transport
open Foundation

variable {Double : Type}

/-- The first hit stands behind what misses. -/
theorem findIdx?_behind (hits : UInt8 → Bool) (middle rest : List UInt8) {hit : UInt8}
    (misses : ∀ byte ∈ middle, hits byte = false) (isHit : hits hit = true) :
    (middle ++ hit :: rest).findIdx? hits = some middle.length := by
  induction middle with
  | nil => simp [List.findIdx?_cons, isHit]
  | cons byte middle ih =>
      have miss := misses byte List.mem_cons_self
      have later := ih fun other member => misses other (List.mem_cons_of_mem byte member)
      rw [List.cons_append, List.findIdx?_cons, if_neg (by simp [miss]), later]
      rfl

namespace Packet

theorem findFirstOf_behind (bytes front middle : List UInt8) (hit : UInt8) (rest : List UInt8)
    (misses : ∀ byte ∈ middle, byte ∉ bytes) (isHit : hit ∈ bytes) :
    findFirstOf bytes (front ++ (middle ++ hit :: rest)) front.length =
      some (front.length + middle.length) := by
  have found := findIdx?_behind (fun byte => decide (byte ∈ bytes)) middle rest
    (fun byte member => decide_eq_false (misses byte member)) (decide_eq_true isHit)
  rw [findFirstOf, List.drop_left, found, Option.map_some]

theorem findFirstOf_absent (bytes front rest : List UInt8)
    (misses : ∀ byte ∈ rest, byte ∉ bytes) :
    findFirstOf bytes (front ++ rest) front.length = none := by
  have absent : rest.findIdx? (fun byte => decide (byte ∈ bytes)) = none :=
    List.findIdx?_eq_none_iff.mpr fun byte member => decide_eq_false (misses byte member)
  rw [findFirstOf, List.drop_left, absent, Option.map_none]

theorem substr_middle (front middle rest : List UInt8) :
    substr (front ++ (middle ++ rest)) front.length (front.length + middle.length) = middle := by
  rw [substr, if_neg (by omega), List.drop_left, Nat.add_sub_cancel_left, List.take_left]

/-- An identifier is written unless it is negative. -/
def idText (packId : Int) : List UInt8 := if 0 ≤ packId then decimal packId.toNat else []

theorem isDigit_of_mem_idText {packId : Int} {byte : UInt8} (member : byte ∈ idText packId) :
    isDigit byte = true := by
  unfold idText at member
  split at member
  · exact isDigit_of_mem_decimal member
  · exact absurd member List.not_mem_nil

/-- The default namespace is not written, and any other is the text of its name. -/
def nspText (nsp : List UInt8) : List UInt8 := if nsp ≠ [] ∧ nsp ≠ ascii "/" then nsp else []

/-- The namespace that a parser reads from a written one. -/
def shownNsp (nsp : List UInt8) : List UInt8 := if nsp = [] then ascii "/" else nsp

/-- A namespace is written so that it can be read when it begins with a slash and has no comma. -/
structure ReadableNsp (nsp : List UInt8) : Prop where
  slash : nsp = [] ∨ nsp.head? = some '/'.toUInt8
  noComma : ','.toUInt8 ∉ nsp

/-- An identifier is missing or fits an `int`. -/
structure ReadableId (packId : Int) : Prop where
  above : -1 ≤ packId
  below : packId < 2 ^ 31

theorem nspText_cases {nsp : List UInt8} (readable : ReadableNsp nsp) :
    (nspText nsp = [] ∧ shownNsp nsp = ascii "/") ∨
    (∃ rest, nsp = '/'.toUInt8 :: rest) ∧ nspText nsp = nsp ∧ shownNsp nsp = nsp := by
  rcases readable.slash with empty | slash
  · exact .inl ⟨by simp [nspText, empty], by simp [shownNsp, empty]⟩
  · obtain ⟨rest, shape⟩ := List.head?_eq_some_iff.mp slash
    by_cases root : nsp = ascii "/"
    · exact .inl ⟨by simp [nspText, root], by rw [root]; rfl⟩
    · refine .inr ⟨⟨rest, shape⟩, ?_, ?_⟩
      · rw [nspText, if_pos ⟨by rw [shape]; exact List.cons_ne_nil _ _, root⟩]
      · rw [shownNsp, if_neg (by rw [shape]; exact List.cons_ne_nil _ _)]

variable [DoubleText Double]

/-- What is left to do with the text of a message when all before it is read. -/
def finish (packet : Packet Double) (json : List UInt8) : Option (Packet Double × Bool) :=
  if packet.frame = frameMessage ∧ isBinaryType packet.type = true then
    some ({ packet with buffers := packet.buffers ++ [json] }, true)
  else ((Reader.parse json).bind (fromJson [])).map fun message =>
    ({ packet with message := message }, false)

theorem parseMessage_written (packet : Packet Double) (missing : packet.packId = -1)
    (front json : List UInt8) {packId : Int} (readable : ReadableId packId) :
    parseMessage packet (front ++ (idText packId ++ json)) front.length
      (front.length + (idText packId).length) = finish { packet with packId := packId } json := by
  have rest : (front ++ (idText packId ++ json)).drop (front.length + (idText packId).length) =
      json := by
    rw [← List.append_assoc, ← List.length_append, List.drop_left]
  unfold parseMessage
  rw [rest, substr_middle]
  by_cases shown : 0 ≤ packId
  · have bound := readable.below
    have text : idText packId = decimal packId.toNat := if_pos shown
    have longer : front.length < front.length + (idText packId).length := by
      rw [text]
      exact Nat.lt_add_of_pos_right (List.length_pos_of_ne_nil (decimal_ne_nil _))
    rw [if_pos longer, text, stoi_decimal (by omega), Option.bind_some, Int.toNat_of_nonneg shown]
    rfl
  · have bound := readable.above
    have text : idText packId = [] := if_neg shown
    have same : packId = packet.packId := by omega
    rw [text, if_neg (by simp), Option.bind_some, same]
    rfl

/-- The text of a message begins with a bracket, a brace or a quote. -/
def Opens (json : List UInt8) : Prop :=
  ∃ byte rest, json = byte :: rest ∧ byte ∈ ascii "\"[\x7b"

/-- Neither a digit nor a comma nor a slash opens a message. -/
theorem opening_ne : ∀ byte : UInt8, byte ∈ ascii "\"[\x7b" →
    byte ∈ ascii "\x7b[\"/" ∧ byte ≠ '/'.toUInt8 :=
  forall_byte (by decide +kernel)

theorem digit_not_mem : ∀ byte : UInt8, isDigit byte = true →
    byte ∉ ascii "\x7b[\"/" ∧ byte ∉ ascii "\"[\x7b" ∧ byte ≠ ','.toUInt8 ∧ byte ≠ '-'.toUInt8 :=
  forall_byte (by decide +kernel)

/-- The parser reads a written namespace and identifier and comes to the message. -/
theorem parseNsp_written (packet : Packet Double) (missing : packet.packId = -1)
    (before : List UInt8) {json : List UInt8} {nsp : List UInt8} {packId : Int}
    (noComma : ','.toUInt8 ∉ before) (readableNsp : ReadableNsp nsp)
    (readableId : ReadableId packId) (opens : Opens json) :
    parseNsp packet (before ++ (nspText nsp ++
        ((if nspText nsp = [] then [] else [','.toUInt8]) ++ (idText packId ++ json))))
      before.length =
      finish { packet with nsp := shownNsp nsp, packId := packId } json := by
  obtain ⟨byte, text, rfl, opening⟩ := opens
  have opening' := opening_ne byte opening
  rcases nspText_cases readableNsp with ⟨hidden, root⟩ | ⟨⟨name, slash⟩, shown, same⟩
  · rw [hidden, if_pos rfl, List.nil_append, List.nil_append, root]
    have found := findFirstOf_behind (ascii "\x7b[\"/") before (idText packId) byte text
      (fun other member => (digit_not_mem other (isDigit_of_mem_idText member)).1) opening'.1
    have here : (before ++ (idText packId ++ byte :: text))[before.length +
        (idText packId).length]? = some byte := by
      rw [← List.append_assoc, ← List.length_append, List.getElem?_append_right (Nat.le_refl _)]
      simp
    rw [parseNsp, found]
    simp only [here, Option.some.injEq, opening'.2, if_false]
    exact parseMessage_written { packet with nsp := ascii "/" } missing before _
      readableId
  · rw [shown, if_neg (by rw [slash]; exact List.cons_ne_nil _ _), same]
    have first := findFirstOf_behind (ascii "\x7b[\"/") before [] '/'.toUInt8
      (name ++ ([','.toUInt8] ++ (idText packId ++ byte :: text)))
      (fun other member => absurd member List.not_mem_nil) (by decide)
    rw [List.nil_append, List.length_nil, Nat.add_zero, ← List.cons_append, ← slash] at first
    have comma := findFirstOf_behind (ascii ",") [] (before ++ nsp) ','.toUInt8
      (idText packId ++ byte :: text)
      (fun other member same => by
        obtain rfl : other = ','.toUInt8 := List.mem_singleton.mp same
        rcases List.mem_append.mp member with inBefore | inNsp
        · exact noComma inBefore
        · exact readableNsp.noComma inNsp) (by decide)
    rw [List.nil_append, List.length_nil, Nat.zero_add, List.append_assoc, List.length_append,
      ← List.singleton_append (l := idText packId ++ byte :: text)] at comma
    have json := findFirstOf_behind (ascii "\"[\x7b") (before ++ (nsp ++ [','.toUInt8]))
      (idText packId) byte text
      (fun other member => (digit_not_mem other (isDigit_of_mem_idText member)).2.1) opening
    have front : (before ++ (nsp ++ [','.toUInt8])).length = before.length + nsp.length + 1 := by
      rw [List.length_append, List.length_append, List.length_singleton, Nat.add_assoc]
    have whole : before ++ (nsp ++ ([','.toUInt8] ++ (idText packId ++ byte :: text))) =
        before ++ (nsp ++ [','.toUInt8]) ++ (idText packId ++ byte :: text) := by
      simp only [List.append_assoc]
    have here : (before ++ (nsp ++ ([','.toUInt8] ++ (idText packId ++ byte :: text))))[
        before.length]? = some '/'.toUInt8 := by
      rw [List.getElem?_append_right (Nat.le_refl _), slash]
      simp
    rw [front, ← whole] at json
    rw [parseNsp, first]
    simp only [here, if_true, comma, json, substr_middle]
    have message := parseMessage_written { packet with nsp := nsp } missing
      (before ++ (nsp ++ [','.toUInt8])) (byte :: text) readableId
    rw [front, ← whole] at message
    exact message

/-- A packet without a message and an identifier ends behind its namespace. -/
theorem parseNsp_empty (packet : Packet Double) (before : List UInt8) {nsp : List UInt8}
    (noComma : ','.toUInt8 ∉ before) (readableNsp : ReadableNsp nsp) :
    parseNsp packet (before ++ nspText nsp) before.length =
      some ({ packet with nsp := shownNsp nsp }, false) := by
  rcases nspText_cases readableNsp with ⟨hidden, root⟩ | ⟨⟨name, slash⟩, shown, same⟩
  · have absent := findFirstOf_absent (ascii "\x7b[\"/") before [] nofun
    rw [hidden, parseNsp, absent, root]
  · have first := findFirstOf_behind (ascii "\x7b[\"/") before [] '/'.toUInt8 name
      (fun other member => absurd member List.not_mem_nil) (by decide)
    rw [List.nil_append, List.length_nil, Nat.add_zero, ← slash] at first
    have comma := findFirstOf_absent (ascii ",") [] (before ++ nsp)
      (fun other member isComma => by
        obtain rfl : other = ','.toUInt8 := List.mem_singleton.mp isComma
        rcases List.mem_append.mp member with inBefore | inNsp
        · exact noComma inBefore
        · exact readableNsp.noComma inNsp)
    have here : (before ++ nsp)[before.length]? = some '/'.toUInt8 := by
      rw [List.getElem?_append_right (Nat.le_refl _), slash]
      simp
    rw [List.nil_append, List.length_nil] at comma
    rw [shown, same, parseNsp, first]
    simp only [here, if_true, comma, List.drop_left]

/-- The two bytes before the rest are the frame and the type of a message. -/
def prefixed (type : Nat) (rest : List UInt8) : List UInt8 :=
  '4'.toUInt8 :: digitByte type :: rest

/-- The packet of which the parser knows the type and the number of buffers. -/
def typed (type count : Nat) : Packet Double :=
  ⟨frameMessage, type, [], -1, .nullptr, count, []⟩

theorem charAt_prefixed {type : Nat} (small : type ≤ 6) (rest : List UInt8) :
    charAt (prefixed type rest) 0 - 48 = frameMessage ∧
      charAt (prefixed type rest) 1 - 48 = (type : Int) := by
  refine ⟨rfl, ?_⟩
  change (digitByte type).toInt8.toInt - 48 = type
  interval_cases type <;> rfl

/-- A type without buffers is followed by the namespace. -/
theorem parse_plain {type : Nat} (small : type ≤ 4) (rest : List UInt8) :
    parse (prefixed type rest) =
      parseNsp (typed type 0 : Packet Double) (prefixed type rest) 2 := by
  obtain ⟨first, second⟩ := charAt_prefixed (show type ≤ 6 by omega) rest
  have known : ¬((type : Int) < typeConnect ∨ typeBinaryAck < (type : Int)) := by
    simp only [typeConnect, typeBinaryAck]
    omega
  have plain : isBinaryType (type : Int) = false := by interval_cases type <;> rfl
  rw [parse, first, second]
  simp only [ofFrame, known, plain, if_true, if_false, Bool.false_eq_true]
  rfl

/-- A type with buffers is followed by their number and a score. -/
theorem parse_counted {type count : Nat} (binary : type = 5 ∨ type = 6) (few : count < 2 ^ 32)
    (rest : List UInt8) :
    parse (prefixed type (decimal count ++ '-'.toUInt8 :: rest)) =
      parseNsp (typed type count : Packet Double)
        (prefixed type (decimal count ++ '-'.toUInt8 :: rest))
        (prefixed type (decimal count ++ ['-'.toUInt8])).length := by
  obtain ⟨first, second⟩ := charAt_prefixed (show type ≤ 6 by omega)
    (decimal count ++ '-'.toUInt8 :: rest)
  have known : ¬((type : Int) < typeConnect ∨ typeBinaryAck < (type : Int)) := by
    simp only [typeConnect, typeBinaryAck]
    omega
  have isBinary : isBinaryType (type : Int) = true := by rcases binary with rfl | rfl <;> rfl
  have score : find '-'.toUInt8 (prefixed type (decimal count ++ '-'.toUInt8 :: rest)) =
      some (2 + (decimal count).length) := by
    have found := findIdx?_behind (fun byte => decide (byte = '-'.toUInt8))
      (prefixed type (decimal count)) rest ?_ (decide_eq_true rfl)
    · rw [Nat.add_comm]
      exact found
    · intro byte member
      refine decide_eq_false ?_
      rintro rfl
      rcases List.mem_cons.mp member with four | member
      · exact absurd four (by decide)
      · rcases List.mem_cons.mp member with isType | digit
        · rcases binary with rfl | rfl <;> exact absurd isType (by decide)
        · exact (digit_not_mem _ (isDigit_of_mem_decimal digit)).2.2.2 rfl
  have number := substr_middle ['4'.toUInt8, digitByte type] (decimal count) ('-'.toUInt8 :: rest)
  have length : (prefixed type (decimal count ++ ['-'.toUInt8])).length =
      2 + (decimal count).length + 1 := by
    simp only [prefixed, List.length_cons, List.length_append, List.length_nil]
    omega
  have read : stoul (substr (prefixed type (decimal count ++ '-'.toUInt8 :: rest)) 2
      (2 + (decimal count).length)) = some count := by
    change stoul (substr (['4'.toUInt8, digitByte type] ++ (decimal count ++ '-'.toUInt8 :: rest))
      ['4'.toUInt8, digitByte type].length _) = _
    rw [show 2 = ['4'.toUInt8, digitByte type].length from rfl, number,
      stoul_decimal (by omega)]
  rw [parse, first, second, length]
  simp only [ofFrame, known, isBinary, if_true, if_false, score, Option.getD_some, read,
    Option.bind_some, Nat.mod_eq_of_lt few]
  rfl

/-- A document without buffers is decoded at once, and any other waits for its buffers. -/
theorem finish_plain {type : Nat} (small : type ≤ 4) (nsp json : List UInt8) (packId : Int) :
    finish (⟨frameMessage, type, nsp, packId, .nullptr, 0, []⟩ : Packet Double) json =
      ((Reader.parse json).bind (fromJson [])).map fun message =>
        (⟨frameMessage, type, nsp, packId, message, 0, []⟩, false) := by
  rw [finish, if_neg]
  rintro ⟨_, binary⟩
  interval_cases type <;> cases binary

theorem finish_counted {type : Nat} (binary : type = 5 ∨ type = 6) (nsp json : List UInt8)
    (packId : Int) (count : Nat) :
    finish (⟨frameMessage, type, nsp, packId, .nullptr, count, []⟩ : Packet Double) json =
      some (⟨frameMessage, type, nsp, packId, .nullptr, count, [json]⟩, true) := by
  rcases binary with rfl | rfl <;> rfl

end Packet
end VoiceCall.Transport
