import VoiceCall.Transport.DocumentText
import VoiceCall.Transport.Message

namespace VoiceCall.Transport
open Foundation

variable {Double : Type}

mutual

/-- A complete message is accepted, and its binaries are appended to the buffers. -/
theorem acceptMessage_complete (message : Message Double) (before : List (List UInt8))
    (complete : message.complete = true) :
    ∃ value, acceptMessage before message = some (value, before ++ message.binaries) := by
  cases message with
  | nullptr => exact absurd complete Bool.false_ne_true
  | integer value => exact ⟨_, by simp [acceptMessage, Message.binaries]; rfl⟩
  | double value => exact ⟨_, by simp [acceptMessage, Message.binaries]; rfl⟩
  | string value => exact ⟨_, by simp [acceptMessage, Message.binaries]; rfl⟩
  | binary value => exact ⟨_, by simp [acceptMessage, Message.binaries]; rfl⟩
  | boolean value => exact ⟨_, by simp [acceptMessage, Message.binaries]; rfl⟩
  | null => exact ⟨_, by simp [acceptMessage, Message.binaries]; rfl⟩
  | array elements =>
      obtain ⟨values, accepted⟩ := acceptElements_complete elements before complete
      exact ⟨.array values, by rw [acceptMessage, accepted]; rfl⟩
  | object members =>
      obtain ⟨values, accepted⟩ := acceptMembers_complete members before complete
      exact ⟨.object values, by rw [acceptMessage, accepted]; rfl⟩

theorem acceptElements_complete (elements : List (Message Double)) (before : List (List UInt8))
    (complete : Message.inElements Message.isNotNull elements = true) :
    ∃ values, acceptElements before elements =
      some (values, before ++ Message.elementBinaries elements) := by
  cases elements with
  | nil => exact ⟨[], by simp [acceptElements, Message.elementBinaries]⟩
  | cons element elements =>
      rw [Message.inElements] at complete
      obtain ⟨isComplete, restComplete⟩ := Bool.and_eq_true_iff.mp complete
      obtain ⟨value, accepted⟩ := acceptMessage_complete element before isComplete
      obtain ⟨values, restAccepted⟩ :=
        acceptElements_complete elements (before ++ element.binaries) restComplete
      refine ⟨value :: values, ?_⟩
      simp only [acceptElements, Message.elementBinaries, accepted, Option.bind_some, restAccepted,
        Option.map_some, List.append_assoc]

theorem acceptMembers_complete (members : List (List UInt8 × Message Double))
    (before : List (List UInt8))
    (complete : Message.inMembers Message.isNotNull members = true) :
    ∃ values, acceptMembers before members =
      some (values, before ++ Message.memberBinaries members) := by
  rcases members with _ | ⟨⟨name, message⟩, members⟩
  · exact ⟨[], by simp [acceptMembers, Message.memberBinaries]⟩
  · rw [Message.inMembers] at complete
    obtain ⟨isComplete, restComplete⟩ := Bool.and_eq_true_iff.mp complete
    obtain ⟨value, accepted⟩ := acceptMessage_complete message before isComplete
    obtain ⟨values, restAccepted⟩ :=
      acceptMembers_complete members (before ++ message.binaries) restComplete
    refine ⟨(name, value) :: values, ?_⟩
    simp only [acceptMembers, Message.memberBinaries, accepted, Option.bind_some, restAccepted,
      Option.map_some, List.append_assoc]

end

mutual

/-- An accepted message is complete. -/
theorem complete_of_accepted (message : Message Double) {before : List (List UInt8)}
    {value : Value Double} {after : List (List UInt8)}
    (accepted : acceptMessage before message = some (value, after)) :
    message.complete = true := by
  cases message with
  | nullptr => exact absurd accepted nofun
  | integer value => rfl
  | double value => rfl
  | string value => rfl
  | binary value => rfl
  | boolean value => rfl
  | null => rfl
  | array elements =>
      rw [acceptMessage] at accepted
      obtain ⟨⟨values, buffers⟩, inner, _⟩ := Option.map_eq_some_iff.mp accepted
      exact elementsComplete_of_accepted elements inner
  | object members =>
      rw [acceptMessage] at accepted
      obtain ⟨⟨values, buffers⟩, inner, _⟩ := Option.map_eq_some_iff.mp accepted
      exact membersComplete_of_accepted members inner

theorem elementsComplete_of_accepted (elements : List (Message Double))
    {before : List (List UInt8)} {values : List (Value Double)} {after : List (List UInt8)}
    (accepted : acceptElements before elements = some (values, after)) :
    Message.inElements Message.isNotNull elements = true := by
  cases elements with
  | nil => rfl
  | cons element elements =>
      rw [acceptElements] at accepted
      obtain ⟨⟨value, middle⟩, first, rest⟩ := Option.bind_eq_some_iff.mp accepted
      obtain ⟨⟨values, buffers⟩, inner, _⟩ := Option.map_eq_some_iff.mp rest
      rw [Message.inElements, Bool.and_eq_true_iff]
      exact ⟨complete_of_accepted element first, elementsComplete_of_accepted elements inner⟩

theorem membersComplete_of_accepted (members : List (List UInt8 × Message Double))
    {before : List (List UInt8)} {values : List (List UInt8 × Value Double)}
    {after : List (List UInt8)}
    (accepted : acceptMembers before members = some (values, after)) :
    Message.inMembers Message.isNotNull members = true := by
  rcases members with _ | ⟨⟨name, message⟩, members⟩
  · rfl
  · rw [acceptMembers] at accepted
    obtain ⟨⟨value, middle⟩, first, rest⟩ := Option.bind_eq_some_iff.mp accepted
    obtain ⟨⟨values, buffers⟩, inner, _⟩ := Option.map_eq_some_iff.mp rest
    rw [Message.inMembers, Bool.and_eq_true_iff]
    exact ⟨complete_of_accepted message first, membersComplete_of_accepted members inner⟩

end

/-- What an accepted message appends are its binaries. -/
theorem accepted_buffers {message : Message Double} {before after : List (List UInt8)}
    {value : Value Double} (accepted : acceptMessage before message = some (value, after)) :
    after = before ++ message.binaries := by
  obtain ⟨same, known⟩ := acceptMessage_complete message before (complete_of_accepted message accepted)
  rw [known] at accepted
  cases accepted
  rfl

theorem accepted_elementBuffers {elements : List (Message Double)}
    {before after : List (List UInt8)} {values : List (Value Double)}
    (accepted : acceptElements before elements = some (values, after)) :
    after = before ++ Message.elementBinaries elements := by
  obtain ⟨same, known⟩ :=
    acceptElements_complete elements before (elementsComplete_of_accepted elements accepted)
  rw [known] at accepted
  cases accepted
  rfl

theorem accepted_memberBuffers {members : List (List UInt8 × Message Double)}
    {before after : List (List UInt8)} {values : List (List UInt8 × Value Double)}
    (accepted : acceptMembers before members = some (values, after)) :
    after = before ++ Message.memberBinaries members := by
  obtain ⟨same, known⟩ :=
    acceptMembers_complete members before (membersComplete_of_accepted members accepted)
  rw [known] at accepted
  cases accepted
  rfl

/-- An `int` holds the number of a buffer below 2^31. -/
theorem getInt_number {number : Nat} (small : number < 2 ^ 31) :
    getInt (.int64 (Int32.ofNat number).toInt64 : Value Double) = some (number : Int) := by
  have same : (Int32.ofNat number).toInt64.toInt = number := by
    rw [Int32.toInt_toInt64, Int32.toInt_ofNat_of_lt small]
  rw [getInt, same, if_pos (by omega)]

/-- A placeholder leads back to its buffer. -/
theorem fromJson_binary {before more : List (List UInt8)} {value : List UInt8}
    (few : (before ++ [value] ++ more).length < 2 ^ 31) :
    fromJson (before ++ [value] ++ more) (acceptBinaryMessage before.length : Value Double) =
      some (.binary value) := by
  have inside : before.length < (before ++ [value] ++ more).length := by
    simp only [List.length_append, List.length_singleton]
    omega
  have found : (before ++ [value] ++ more).getD before.length [] = value := by simp
  have read : fromPlaceholder (before ++ [value] ++ more)
      [(placeholder, (.bool true : Value Double)),
        (num, .int64 (Int32.ofNat before.length).toInt64)] = some (.binary value) := by
    rw [fromPlaceholder]
    simp only [Members.find, show placeholder ≠ num by decide, if_false, if_true, Option.bind_some,
      getInt_number (Nat.lt_trans inside few), Option.map_some, Int32.toInt_ofNat_of_lt few]
    rw [if_pos (by omega), Int.toNat_natCast, found]
  rw [acceptBinaryMessage, fromJson]
  simp only [Members.find, if_true, Option.map_some, getBool, read]

/-- The boolean of a document is that of its message. -/
theorem getBool_accepted {message : Message Double} {before after : List (List UInt8)}
    {value : Value Double} (accepted : acceptMessage before message = some (value, after)) :
    getBool value = match message with
      | .boolean value => some value
      | _ => none := by
  cases message with
  | nullptr => exact absurd accepted nofun
  | array elements =>
      rw [acceptMessage] at accepted
      obtain ⟨_, _, same⟩ := Option.map_eq_some_iff.mp accepted
      cases same
      rfl
  | object members =>
      rw [acceptMessage] at accepted
      obtain ⟨_, _, same⟩ := Option.map_eq_some_iff.mp accepted
      cases same
      rfl
  | _ =>
      cases accepted
      rfl

/-- A name finds in the document what its message became. -/
theorem find_accepted (key : List UInt8) {members : List (List UInt8 × Message Double)}
    {before after : List (List UInt8)} {values : List (List UInt8 × Value Double)}
    (accepted : acceptMembers before members = some (values, after)) :
    (Members.find key members = none ∧ Members.find key values = none) ∨
    ∃ message value first last, Members.find key members = some message ∧
      Members.find key values = some value ∧
      acceptMessage first message = some (value, last) := by
  induction members generalizing before values with
  | nil =>
      cases accepted
      exact .inl ⟨rfl, rfl⟩
  | cons member members ih =>
      obtain ⟨name, message⟩ := member
      rw [acceptMembers] at accepted
      obtain ⟨⟨value, middle⟩, first, rest⟩ := Option.bind_eq_some_iff.mp accepted
      obtain ⟨⟨others, buffers⟩, inner, same⟩ := Option.map_eq_some_iff.mp rest
      cases same
      by_cases here : name = key
      · refine .inr ⟨message, value, before, middle, ?_, ?_, first⟩
        · rw [Members.find, if_pos here]
        · rw [Members.find, if_pos here]
      · rw [Members.find, if_neg here, Members.find, if_neg here]
        exact ih inner

/-- The names of a document are those of its message. -/
theorem names_accepted {members : List (List UInt8 × Message Double)}
    {before after : List (List UInt8)} {values : List (List UInt8 × Value Double)}
    (accepted : acceptMembers before members = some (values, after)) :
    values.map Prod.fst = members.map Prod.fst := by
  induction members generalizing before values with
  | nil =>
      cases accepted
      rfl
  | cons member members ih =>
      obtain ⟨name, message⟩ := member
      rw [acceptMembers] at accepted
      obtain ⟨⟨value, middle⟩, _, rest⟩ := Option.bind_eq_some_iff.mp accepted
      obtain ⟨⟨others, buffers⟩, inner, same⟩ := Option.map_eq_some_iff.mp rest
      cases same
      rw [List.map_cons, List.map_cons, ih inner]

theorem names_decoded {buffers : List (List UInt8)} {values : List (List UInt8 × Value Double)}
    {decoded : List (List UInt8 × Message Double)}
    (read : fromMembers buffers values = some decoded) :
    decoded.map Prod.fst = values.map Prod.fst := by
  induction values generalizing decoded with
  | nil =>
      cases read
      rfl
  | cons member values ih =>
      obtain ⟨name, value⟩ := member
      rw [fromMembers] at read
      obtain ⟨message, _, rest⟩ := Option.bind_eq_some_iff.mp read
      obtain ⟨others, inner, same⟩ := Option.map_eq_some_iff.mp rest
      cases same
      rw [List.map_cons, List.map_cons, ih inner]

/-- The names of a map decide whether it is in order. -/
theorem ordered_congr {first second : Type} {members : List (List UInt8 × first)}
    {others : List (List UInt8 × second)}
    (same : members.map Prod.fst = others.map Prod.fst) (ordered : Members.Ordered members) :
    Members.Ordered others := by
  have names : (members.map Prod.fst).Pairwise (· < ·) := List.pairwise_map.mpr ordered
  rw [same] at names
  exact List.pairwise_map.mp names

/-- A map in order is decoded to itself when its members are. -/
theorem fromObject_iff {members : List (List UInt8 × Message Double)}
    (ordered : Members.Ordered members) {before after buffers : List (List UInt8)}
    {values : List (List UInt8 × Value Double)}
    (accepted : acceptMembers before members = some (values, after)) :
    ((fromMembers buffers values).map fun decoded =>
        Message.object (Members.insertAll [] decoded)) = some (.object members) ↔
      fromMembers buffers values = some members := by
  cases read : fromMembers buffers values with
  | none => simp
  | some decoded =>
      have names : members.map Prod.fst = decoded.map Prod.fst :=
        (names_accepted accepted).symm.trans (names_decoded read).symm
      have inserted : Members.insertAll [] decoded = decoded :=
        Members.insertAll_ordered [] (ordered_congr names ordered)
      simp [inserted]

theorem fromPlaceholder_ne_object {buffers : List (List UInt8)}
    {values : List (List UInt8 × Value Double)} {members : List (List UInt8 × Message Double)} :
    fromPlaceholder buffers values ≠ some (.object members) := by
  intro same
  obtain ⟨number, _, read⟩ := Option.map_eq_some_iff.mp same
  split at read <;> cases read

theorem fromElements_cons_iff {buffers : List (List UInt8)} {value : Value Double}
    {values : List (Value Double)} {element : Message Double} {elements : List (Message Double)} :
    fromElements buffers (value :: values) = some (element :: elements) ↔
      fromJson buffers value = some element ∧ fromElements buffers values = some elements := by
  rw [fromElements]
  cases fromJson buffers value with
  | none => simp
  | some read => cases fromElements buffers values <;> simp

theorem fromMembers_cons_iff {buffers : List (List UInt8)} {name : List UInt8}
    {value : Value Double} {values : List (List UInt8 × Value Double)} {message : Message Double}
    {members : List (List UInt8 × Message Double)} :
    fromMembers buffers ((name, value) :: values) = some ((name, message) :: members) ↔
      fromJson buffers value = some message ∧ fromMembers buffers values = some members := by
  rw [fromMembers]
  cases fromJson buffers value with
  | none => simp
  | some read => cases fromMembers buffers values <;> simp

mutual

/-- The reader gets back an ordered message exactly when no object in it poses as a buffer.
The buffers may go on behind those of the message. -/
theorem fromJson_iff_honest (message : Message Double) (ordered : message.ordered = true)
    {before after more : List (List UInt8)} {value : Value Double}
    (accepted : acceptMessage before message = some (value, after))
    (few : (after ++ more).length < 2 ^ 31) :
    fromJson (after ++ more) value = some message ↔ message.honest = true := by
  cases message with
  | nullptr => exact absurd accepted nofun
  | integer value =>
      cases accepted
      exact ⟨fun _ => rfl, fun _ => rfl⟩
  | double value =>
      cases accepted
      exact ⟨fun _ => rfl, fun _ => rfl⟩
  | string value =>
      cases accepted
      exact ⟨fun _ => rfl, fun _ => rfl⟩
  | boolean value =>
      cases accepted
      exact ⟨fun _ => rfl, fun _ => rfl⟩
  | null =>
      cases accepted
      exact ⟨fun _ => rfl, fun _ => rfl⟩
  | binary value =>
      cases accepted
      exact ⟨fun _ => rfl, fun _ => fromJson_binary few⟩
  | array elements =>
      rw [acceptMessage] at accepted
      obtain ⟨⟨values, buffers⟩, inner, same⟩ := Option.map_eq_some_iff.mp accepted
      cases same
      have each := fromElements_iff_honest elements ordered inner few
      rw [fromJson, Message.honest_array, ← each]
      simp
  | object members =>
      rw [acceptMessage] at accepted
      obtain ⟨⟨values, buffers⟩, inner, same⟩ := Option.map_eq_some_iff.mp accepted
      cases same
      rw [Message.ordered_object, Bool.and_eq_true_iff] at ordered
      have sorted : Members.Ordered members := of_decide_eq_true ordered.1
      have each := fromMembers_iff_honest members ordered.2 inner few
      have whole : ((fromMembers (after ++ more) values).map fun decoded =>
          Message.object (Members.insertAll [] decoded)) = some (.object members) ↔
            fromMembers (after ++ more) values = some members := fromObject_iff sorted inner
      rw [Message.honest_object, fromJson]
      -- The document has a placeholder exactly when the message has one.
      rcases find_accepted placeholder inner with ⟨absent, missing⟩ |
        ⟨message, value, first, last, found, there, became⟩
      · rw [missing, Message.doesNotPose, absent, Bool.true_and, ← each, ← whole]
        rfl
      · rw [there, Option.map_some, getBool_accepted became, Message.doesNotPose, found]
        cases message with
        | boolean truth =>
            cases truth with
            | false =>
                rw [Bool.true_and, ← each, ← whole]
            | true =>
                rw [Bool.false_and]
                exact ⟨fun read => absurd read fromPlaceholder_ne_object, nofun⟩
        | _ => exact ⟨nofun, nofun⟩

theorem fromElements_iff_honest (elements : List (Message Double))
    (ordered : Message.inElements Message.hasOrder elements = true)
    {before after more : List (List UInt8)} {values : List (Value Double)}
    (accepted : acceptElements before elements = some (values, after))
    (few : (after ++ more).length < 2 ^ 31) :
    fromElements (after ++ more) values = some elements ↔
      Message.inElements Message.doesNotPose elements = true := by
  cases elements with
  | nil =>
      cases accepted
      exact ⟨fun _ => rfl, fun _ => rfl⟩
  | cons element elements =>
      rw [acceptElements] at accepted
      obtain ⟨⟨value, middle⟩, first, rest⟩ := Option.bind_eq_some_iff.mp accepted
      obtain ⟨⟨others, buffers⟩, inner, same⟩ := Option.map_eq_some_iff.mp rest
      cases same
      rw [Message.inElements, Bool.and_eq_true_iff] at ordered
      have grown := accepted_elementBuffers inner
      rw [grown, List.append_assoc] at few
      have head := fromJson_iff_honest element ordered.1 first few
      rw [← List.append_assoc, ← grown] at few
      rw [← List.append_assoc, ← grown] at head
      have tail := fromElements_iff_honest elements ordered.2 inner few
      rw [fromElements_cons_iff, head, tail, Message.inElements, Bool.and_eq_true_iff]

theorem fromMembers_iff_honest (members : List (List UInt8 × Message Double))
    (ordered : Message.inMembers Message.hasOrder members = true)
    {before after more : List (List UInt8)} {values : List (List UInt8 × Value Double)}
    (accepted : acceptMembers before members = some (values, after))
    (few : (after ++ more).length < 2 ^ 31) :
    fromMembers (after ++ more) values = some members ↔
      Message.inMembers Message.doesNotPose members = true := by
  rcases members with _ | ⟨⟨name, message⟩, members⟩
  · cases accepted
    exact ⟨fun _ => rfl, fun _ => rfl⟩
  · rw [acceptMembers] at accepted
    obtain ⟨⟨value, middle⟩, first, rest⟩ := Option.bind_eq_some_iff.mp accepted
    obtain ⟨⟨others, buffers⟩, inner, same⟩ := Option.map_eq_some_iff.mp rest
    cases same
    rw [Message.inMembers, Bool.and_eq_true_iff] at ordered
    have grown := accepted_memberBuffers inner
    rw [grown, List.append_assoc] at few
    have head := fromJson_iff_honest message ordered.1 first few
    rw [← List.append_assoc, ← grown] at few
    rw [← List.append_assoc, ← grown] at head
    have tail := fromMembers_iff_honest members ordered.2 inner few
    rw [fromMembers_cons_iff, head, tail, Message.inMembers, Bool.and_eq_true_iff]

end

mutual

/-- The document of an exact message is exact. -/
theorem exact_accepted (message : Message Double) (exact : message.exact = true)
    {before after : List (List UInt8)} {value : Value Double}
    (accepted : acceptMessage before message = some (value, after)) : value.exact = true := by
  cases message with
  | nullptr => exact absurd accepted nofun
  | double value => exact absurd exact Bool.false_ne_true
  | array elements =>
      rw [acceptMessage] at accepted
      obtain ⟨⟨values, buffers⟩, inner, same⟩ := Option.map_eq_some_iff.mp accepted
      cases same
      exact exactElements_accepted elements exact inner
  | object members =>
      rw [acceptMessage] at accepted
      obtain ⟨⟨values, buffers⟩, inner, same⟩ := Option.map_eq_some_iff.mp accepted
      cases same
      exact exactMembers_accepted members exact inner
  | _ =>
      cases accepted
      rfl

theorem exactElements_accepted (elements : List (Message Double))
    (exact : Message.inElements Message.isNotDouble elements = true)
    {before after : List (List UInt8)} {values : List (Value Double)}
    (accepted : acceptElements before elements = some (values, after)) :
    Value.exactElements values = true := by
  cases elements with
  | nil =>
      cases accepted
      rfl
  | cons element elements =>
      rw [acceptElements] at accepted
      obtain ⟨⟨value, middle⟩, first, rest⟩ := Option.bind_eq_some_iff.mp accepted
      obtain ⟨⟨others, buffers⟩, inner, same⟩ := Option.map_eq_some_iff.mp rest
      cases same
      rw [Message.inElements, Bool.and_eq_true_iff] at exact
      rw [Value.exactElements, Bool.and_eq_true_iff]
      exact ⟨exact_accepted element exact.1 first, exactElements_accepted elements exact.2 inner⟩

theorem exactMembers_accepted (members : List (List UInt8 × Message Double))
    (exact : Message.inMembers Message.isNotDouble members = true)
    {before after : List (List UInt8)} {values : List (List UInt8 × Value Double)}
    (accepted : acceptMembers before members = some (values, after)) :
    Value.exactMembers values = true := by
  rcases members with _ | ⟨⟨name, message⟩, members⟩
  · cases accepted
    rfl
  · rw [acceptMembers] at accepted
    obtain ⟨⟨value, middle⟩, first, rest⟩ := Option.bind_eq_some_iff.mp accepted
    obtain ⟨⟨others, buffers⟩, inner, same⟩ := Option.map_eq_some_iff.mp rest
    cases same
    rw [Message.inMembers, Bool.and_eq_true_iff] at exact
    rw [Value.exactMembers, Bool.and_eq_true_iff]
    exact ⟨exact_accepted message exact.1 first, exactMembers_accepted members exact.2 inner⟩

end

theorem mem_memberBinaries_iff {members : List (List UInt8 × Message Double)}
    {bytes : List UInt8} :
    bytes ∈ Message.memberBinaries members ↔ ∃ member ∈ members, bytes ∈ member.2.binaries := by
  induction members with
  | nil => simp [Message.memberBinaries]
  | cons member members ih =>
      obtain ⟨name, message⟩ := member
      rw [Message.memberBinaries, List.mem_append, ih]
      simp

theorem fromPlaceholder_binaries {buffers : List (List UInt8)}
    {values : List (List UInt8 × Value Double)} {message : Message Double}
    (read : fromPlaceholder buffers values = some message) :
    ∀ bytes ∈ message.binaries, bytes ∈ buffers := by
  obtain ⟨number, _, same⟩ := Option.map_eq_some_iff.mp read
  split at same
  · next inside =>
      have wraps : (Int32.ofNat buffers.length).toInt ≤ buffers.length := by
        rw [Int32.toInt_ofNat', Int.bmod_def, show Int32.size = 4294967296 from rfl]
        split <;> omega
      have isIn : number.toNat < buffers.length := by omega
      cases same
      intro bytes member
      rw [Message.binaries, List.mem_singleton] at member
      rw [member, List.getD_eq_getElem?_getD, List.getElem?_eq_getElem isIn, Option.getD_some]
      exact List.getElem_mem isIn
  · cases same
    intro bytes member
    exact absurd member List.not_mem_nil

mutual

/-- Each binary of a decoded message is one of the buffers. -/
theorem decoded_binaries (value : Value Double) {buffers : List (List UInt8)}
    {message : Message Double} (read : fromJson buffers value = some message) :
    ∀ bytes ∈ message.binaries, bytes ∈ buffers := by
  cases value with
  | array elements =>
      rw [fromJson] at read
      obtain ⟨messages, inner, same⟩ := Option.map_eq_some_iff.mp read
      cases same
      exact decoded_elementBinaries elements inner
  | object members =>
      rw [fromJson] at read
      split at read
      · cases read
      · exact fromPlaceholder_binaries read
      · obtain ⟨decoded, inner, same⟩ := Option.map_eq_some_iff.mp read
        cases same
        intro bytes isIn
        rw [Message.binaries, mem_memberBinaries_iff] at isIn
        obtain ⟨member, assigned, inMember⟩ := isIn
        rcases Members.mem_insertAll assigned with absent | ⟨other, isOther, same⟩
        · exact absurd absent List.not_mem_nil
        · exact decoded_memberBinaries members inner bytes
            (mem_memberBinaries_iff.mpr ⟨other, isOther, same ▸ inMember⟩)
  | _ =>
      cases read
      intro bytes member
      exact absurd member List.not_mem_nil

theorem decoded_elementBinaries (elements : List (Value Double)) {buffers : List (List UInt8)}
    {messages : List (Message Double)} (read : fromElements buffers elements = some messages) :
    ∀ bytes ∈ Message.elementBinaries messages, bytes ∈ buffers := by
  cases elements with
  | nil =>
      cases read
      intro bytes member
      exact absurd member List.not_mem_nil
  | cons element elements =>
      rw [fromElements] at read
      obtain ⟨message, first, rest⟩ := Option.bind_eq_some_iff.mp read
      obtain ⟨others, inner, same⟩ := Option.map_eq_some_iff.mp rest
      cases same
      intro bytes member
      rw [Message.elementBinaries, List.mem_append] at member
      rcases member with head | tail
      · exact decoded_binaries element first bytes head
      · exact decoded_elementBinaries elements inner bytes tail

theorem decoded_memberBinaries (members : List (List UInt8 × Value Double))
    {buffers : List (List UInt8)} {decoded : List (List UInt8 × Message Double)}
    (read : fromMembers buffers members = some decoded) :
    ∀ bytes ∈ Message.memberBinaries decoded, bytes ∈ buffers := by
  rcases members with _ | ⟨⟨name, value⟩, members⟩
  · cases read
    intro bytes member
    exact absurd member List.not_mem_nil
  · rw [fromMembers] at read
    obtain ⟨message, first, rest⟩ := Option.bind_eq_some_iff.mp read
    obtain ⟨others, inner, same⟩ := Option.map_eq_some_iff.mp rest
    cases same
    intro bytes member
    rw [Message.memberBinaries, List.mem_append] at member
    rcases member with head | tail
    · exact decoded_binaries value first bytes head
    · exact decoded_memberBinaries members inner bytes tail

end

/-- The buffers of a message are its binaries in the order of its text, and the message comes
back from its document exactly when no object in it poses as a buffer. -/
theorem message_comes_back_iff {message : Message Double} (ordered : message.ordered = true)
    {value : Value Double} {buffers : List (List UInt8)}
    (accepted : acceptMessage [] message = some (value, buffers))
    (few : buffers.length < 2 ^ 31) :
    buffers = message.binaries ∧
      (fromJson buffers value = some message ↔ message.honest = true) := by
  refine ⟨accepted_buffers accepted, ?_⟩
  rw [← List.append_nil buffers] at few
  have same := fromJson_iff_honest message ordered accepted few
  rw [List.append_nil] at same
  exact same

/-- An attachment stands beside an object that only mentions the placeholder. -/
def pairMessage : Message Empty :=
  .array [.binary [1], .object [(placeholder, .boolean false), (ascii "b", .binary [2, 3])]]

def pairDocument : Value Empty :=
  .array [acceptBinaryMessage 0,
    .object [(placeholder, .bool false), (ascii "b", acceptBinaryMessage 1)]]

theorem message_comes_back_pair :
    [[1], [2, 3]] = pairMessage.binaries ∧
      (fromJson [[1], [2, 3]] pairDocument = some pairMessage ↔ pairMessage.honest = true) :=
  message_comes_back_iff (by decide +kernel) rfl (by decide)

end VoiceCall.Transport
