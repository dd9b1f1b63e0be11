import Mathlib.Tactic

namespace VoiceCall.Foundation

universe u v

/-- An ordered map is the list of its members in the order of their keys. -/
abbrev Members (Key : Type u) (Value : Type v) := List (Key × Value)

namespace Members

variable {Key : Type u} {Value : Type v}

/-- Each key is below every later one, so no key occurs twice. -/
def Ordered [LT Key] (members : Members Key Value) : Prop :=
  members.Pairwise fun first second => first.1 < second.1

instance [LT Key] [DecidableLT Key] (members : Members Key Value) : Decidable members.Ordered :=
  inferInstanceAs (Decidable (members.Pairwise _))

variable [DecidableEq Key]

/-- The value of a key is the first one under it. -/
def find (key : Key) : Members Key Value → Option Value
  | [] => none
  | (name, value) :: members => if name = key then some value else find key members

/-- What is done to each value is done to the value of a key. -/
theorem find_map (key : Key) (change : Value → Value) (members : Members Key Value) :
    find key (members.map fun member => (member.1, change member.2)) =
      (find key members).map change := by
  induction members with
  | nil => rfl
  | cons member members ih =>
      rw [List.map_cons, find, find, ih]
      split_ifs <;> rfl

/-- A key is removed with its value. -/
def erase (key : Key) (members : Members Key Value) : Members Key Value :=
  members.filter (·.1 ≠ key)

theorem find_erase (key other : Key) (members : Members Key Value) :
    find other (erase key members) = if key = other then none else find other members := by
  induction members with
  | nil => exact (ite_self none).symm
  | cons member members ih =>
      obtain ⟨name, old⟩ := member
      rw [erase] at ih ⊢
      by_cases same : name = key
      · subst same
        rw [List.filter_cons_of_neg (by simp), ih, find]
        split_ifs <;> rfl
      · rw [List.filter_cons_of_pos (by simpa using same), find, find, ih]
        by_cases found : name = other
        · have different : key ≠ other := fun known => same (found.trans known.symm)
          rw [if_pos found, if_neg different, if_pos found]
        · rw [if_neg found, if_neg found]

variable [LT Key] [DecidableLT Key]

/-- An assignment replaces the value of a key, or puts a new key in its place. -/
def insert (key : Key) (value : Value) : Members Key Value → Members Key Value
  | [] => [(key, value)]
  | (name, old) :: members =>
      if key = name then (name, value) :: members
      else if key < name then (key, value) :: (name, old) :: members
      else (name, old) :: insert key value members

/-- Assignments in sequence, a later one of a key replacing an earlier one. -/
def insertAll (members added : Members Key Value) : Members Key Value :=
  added.foldl (fun members member => insert member.1 member.2 members) members

/-- An assignment is found under its key, and changes no other key. -/
theorem find_insert (key other : Key) (value : Value) (members : Members Key Value) :
    find other (insert key value members) =
      if key = other then some value else find other members := by
  induction members with
  | nil => rfl
  | cons member members ih =>
      obtain ⟨name, old⟩ := member
      by_cases same : key = name
      · subst same
        rw [insert, if_pos rfl, find, find]
        split_ifs <;> rfl
      · rw [insert, if_neg same]
        by_cases below : key < name
        · rw [if_pos below, find]
        · rw [if_neg below, find, find, ih]
          by_cases found : key = other
          · have different : name ≠ other := fun known => same (found.trans known.symm)
            rw [if_neg different, if_pos found, if_pos found]
          · rw [if_neg found, if_neg found]

/-- A key above all others goes to the end. -/
theorem insert_above [Std.Asymm (fun first second : Key => first < second)] {key : Key}
    {value : Value} {members : Members Key Value}
    (above : ∀ member ∈ members, member.1 < key) :
    insert key value members = members ++ [(key, value)] := by
  induction members with
  | nil => rfl
  | cons member members ih =>
      obtain ⟨name, old⟩ := member
      have below : name < key := above (name, old) List.mem_cons_self
      have different : key ≠ name := by
        rintro rfl
        exact Std.Asymm.asymm _ _ below below
      rw [insert, if_neg different, if_neg (Std.Asymm.asymm _ _ below),
        ih fun other member => above other (List.mem_cons_of_mem _ member), List.cons_append]

/-- Members in order are assigned one behind the other. -/
theorem insertAll_ordered [Std.Asymm (fun first second : Key => first < second)]
    (members : Members Key Value) {added : Members Key Value}
    (ordered : Ordered (members ++ added)) :
    insertAll members added = members ++ added := by
  induction added generalizing members with
  | nil => exact (List.append_nil members).symm
  | cons member added ih =>
      obtain ⟨_, _, across⟩ := List.pairwise_append.mp ordered
      have last : insert member.1 member.2 members = members ++ [(member.1, member.2)] :=
        insert_above fun other isIn => across other isIn member List.mem_cons_self
      rw [insertAll, List.foldl_cons, last, ← insertAll, ih, List.append_assoc]
      · rfl
      · rw [List.append_assoc]
        exact ordered

/-- A member of a map after assignments was there before or was assigned. -/
theorem mem_insert {key : Key} {value : Value} {members : Members Key Value}
    {member : Key × Value} (isIn : member ∈ insert key value members) :
    member ∈ members ∨ member.2 = value := by
  induction members with
  | nil =>
      rw [List.mem_singleton.mp isIn]
      exact .inr rfl
  | cons first members ih =>
      obtain ⟨name, old⟩ := first
      rw [insert] at isIn
      split_ifs at isIn
      · rcases List.mem_cons.mp isIn with rfl | later
        · exact .inr rfl
        · exact .inl (List.mem_cons_of_mem _ later)
      · rcases List.mem_cons.mp isIn with rfl | later
        · exact .inr rfl
        · exact .inl later
      · rcases List.mem_cons.mp isIn with rfl | later
        · exact .inl List.mem_cons_self
        · exact (ih later).imp_left (List.mem_cons_of_mem _)

theorem mem_insertAll {members added : Members Key Value} {member : Key × Value}
    (isIn : member ∈ insertAll members added) :
    member ∈ members ∨ ∃ other ∈ added, member.2 = other.2 := by
  induction added generalizing members with
  | nil => exact .inl isIn
  | cons first added ih =>
      rcases @ih (insert first.1 first.2 members) isIn with before |
        ⟨other, isOther, same⟩
      · rcases mem_insert before with early | same
        · exact .inl early
        · exact .inr ⟨first, List.mem_cons_self, same⟩
      · exact .inr ⟨other, List.mem_cons_of_mem _ isOther, same⟩

end Members
end VoiceCall.Foundation
