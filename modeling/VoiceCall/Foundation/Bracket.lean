import Mathlib.Tactic

namespace VoiceCall.Foundation

universe u

variable {Item : Type u} {history : List Item} {item : Item}

/-- A claim holds at each item of a history when what came before the item bears it out. -/
def AtEach (claim : List Item → Item → Prop) (history : List Item) : Prop :=
  ∀ before item after, history = before ++ item :: after → claim before item

/-- A split of a history at one of its items falls on the last item or before it. -/
theorem split_append_singleton {before after : List Item} {first : Item}
    (split : history ++ [item] = before ++ first :: after) :
    (after = [] ∧ history = before ∧ item = first) ∨
      ∃ rest, after = rest ++ [item] ∧ history = before ++ first :: rest := by
  rcases List.eq_nil_or_concat after with rfl | ⟨rest, last, rfl⟩
  · obtain ⟨whole, same⟩ := List.append_inj' split rfl
    exact .inl ⟨rfl, whole, List.singleton_inj.mp same⟩
  · rw [List.concat_eq_append, ← List.cons_append, ← List.append_assoc] at split
    obtain ⟨whole, same⟩ := List.append_inj' split rfl
    cases same
    exact .inr ⟨rest, List.concat_eq_append, whole⟩

variable {claim : List Item → Item → Prop}

theorem atEach_nil : AtEach claim [] := by
  intro before item after split
  simp at split

theorem AtEach.append_singleton (holds : AtEach claim history)
    (last : claim history item) : AtEach claim (history ++ [item]) := by
  intro before other after split
  rcases split_append_singleton split with ⟨rfl, rfl, rfl⟩ | ⟨rest, rfl, whole⟩
  · exact last
  · exact holds before other rest whole

/-- Some items open a bracket, some close it, and some must not come in between. -/
structure Bracket (Item : Type u) where
  opens : Item → Prop
  closes : Item → Prop
  intrudes : Item → Prop

namespace Bracket

variable {bracket : Bracket Item}

/-- A bracket is pending when an item has opened it and no later item has closed it. -/
def Pending (bracket : Bracket Item) (history : List Item) : Prop :=
  ∃ before item between, history = before ++ item :: between ∧ bracket.opens item ∧
    ∀ later ∈ between, ¬bracket.closes later

/-- A history justifies some items when each of them comes while the bracket is pending. -/
def Justified (bracket : Bracket Item) (needs : Item → Prop) (history : List Item) : Prop :=
  AtEach (fun before item => needs item → bracket.Pending before) history

/-- A history respects a bracket when no intruding item comes while it is pending. -/
def Respected (bracket : Bracket Item) (history : List Item) : Prop :=
  ∀ before item after, history = before ++ item :: after → bracket.intrudes item →
    ¬bracket.Pending before

theorem not_pending_nil : ¬bracket.Pending [] := by
  rintro ⟨before, item, between, split, _⟩
  simp at split

theorem respected_nil : bracket.Respected [] := by
  intro before item after split
  simp at split

/-- The last item opens the bracket, or it leaves a pending one as it is. -/
theorem pending_append_singleton :
    bracket.Pending (history ++ [item]) ↔
      bracket.opens item ∨ (¬bracket.closes item ∧ bracket.Pending history) := by
  constructor
  · rintro ⟨before, first, between, split, isOpen, kept⟩
    rcases split_append_singleton split with ⟨rfl, rfl, rfl⟩ | ⟨rest, rfl, whole⟩
    · exact .inl isOpen
    · refine .inr ⟨kept item (by simp), before, first, rest, whole, isOpen, ?_⟩
      exact fun later member => kept later (List.mem_append_left _ member)
  · rintro (isOpen | ⟨keeps, before, first, between, rfl, isOpen, kept⟩)
    · exact ⟨history, item, [], rfl, isOpen, by simp⟩
    · refine ⟨before, first, between ++ [item], by simp, isOpen, ?_⟩
      intro later member
      rcases List.mem_append.mp member with earlier | last
      · exact kept later earlier
      · rwa [List.mem_singleton.mp last]

/-- Items that neither open nor close the bracket leave it as it is. -/
theorem pending_append {added : List Item}
    (quiet : ∀ item ∈ added, ¬bracket.opens item ∧ ¬bracket.closes item) :
    bracket.Pending (history ++ added) ↔ bracket.Pending history := by
  induction added using List.reverseRecOn with
  | nil => rw [List.append_nil]
  | append_singleton added item ih =>
      have last := quiet item (by simp)
      have rest := ih fun other member => quiet other (List.mem_append_left _ member)
      rw [← List.append_assoc, pending_append_singleton, rest]
      simp [last]

variable {needs : Item → Prop}

theorem justified_nil : bracket.Justified needs [] := atEach_nil

theorem Justified.append_singleton (justified : bracket.Justified needs history)
    (last : needs item → bracket.Pending history) :
    bracket.Justified needs (history ++ [item]) :=
  AtEach.append_singleton justified last

theorem Justified.append (justified : bracket.Justified needs history) {added : List Item}
    (free : ∀ item ∈ added, ¬needs item) : bracket.Justified needs (history ++ added) := by
  induction added using List.reverseRecOn with
  | nil => rwa [List.append_nil]
  | append_singleton added item ih =>
      rw [← List.append_assoc]
      have rest := ih fun other member => free other (List.mem_append_left _ member)
      exact rest.append_singleton fun needed => absurd needed (free item (by simp))

/-- A respectful history goes on with any item that does not intrude on it. -/
theorem respected_append_singleton :
    bracket.Respected (history ++ [item]) ↔
      bracket.Respected history ∧ (bracket.intrudes item → ¬bracket.Pending history) := by
  constructor
  · intro respected
    constructor
    · rintro before other after rfl
      exact respected before other (after ++ [item]) (by simp)
    · exact respected history item [] rfl
  · rintro ⟨respected, last⟩ before other after split intrudes
    rcases split_append_singleton split with ⟨rfl, rfl, rfl⟩ | ⟨rest, rfl, whole⟩
    · exact last intrudes
    · exact respected before other rest whole intrudes

theorem respected_of_none (none : ∀ item ∈ history, ¬bracket.intrudes item) :
    bracket.Respected history := by
  rintro before item after rfl intrudes
  exact (none item (by simp) intrudes).elim

theorem Respected.of_prefix (respected : bracket.Respected history) {earlier : List Item}
    (isPrefix : earlier <+: history) : bracket.Respected earlier := by
  obtain ⟨rest, rfl⟩ := isPrefix
  rintro before other after rfl
  exact respected before other (after ++ rest) (by simp)

/-- A property of histories that only an intruding item destroys is respect for the bracket. -/
theorem iff_respected {property : List Item → Prop} (start : property [])
    (earlier : ∀ history item, property (history ++ [item]) → property history)
    (next : ∀ history item, bracket.Respected history → property history →
      (property (history ++ [item]) ↔ (bracket.intrudes item → ¬bracket.Pending history)))
    (history : List Item) : property history ↔ bracket.Respected history := by
  induction history using List.reverseRecOn with
  | nil => exact iff_of_true start respected_nil
  | append_singleton history item ih =>
      rw [respected_append_singleton]
      constructor
      · intro holds
        have before := earlier history item holds
        have respected := ih.mp before
        exact ⟨respected, (next history item respected before).mp holds⟩
      · rintro ⟨respected, last⟩
        exact (next history item respected (ih.mpr respected)).mpr last

/-- A flag tracks a bracket that a history respects when it tells whether it is pending. -/
structure Tracks (bracket : Bracket Item) (history : List Item) (flag : Prop) : Prop where
  respected : bracket.Respected history
  pending : bracket.Pending history ↔ flag

namespace Tracks

variable {flag after : Prop}

theorem nil (lowered : ¬flag) : bracket.Tracks [] flag :=
  ⟨respected_nil, iff_of_false not_pending_nil lowered⟩

/-- Items that have nothing to do with a bracket leave its flag as it is. -/
theorem quiet (tracks : bracket.Tracks history flag) {added : List Item}
    (none : ∀ item ∈ added, ¬bracket.opens item ∧ ¬bracket.closes item ∧ ¬bracket.intrudes item)
    (same : flag ↔ after) : bracket.Tracks (history ++ added) after := by
  suffices kept : bracket.Tracks (history ++ added) flag from
    ⟨kept.respected, kept.pending.trans same⟩
  induction added using List.reverseRecOn with
  | nil => rwa [List.append_nil]
  | append_singleton added last ih =>
      obtain ⟨noOpen, noClose, noIntruder⟩ := none last (by simp)
      have before := ih fun other member => none other (List.mem_append_left _ member)
      rw [← List.append_assoc]
      constructor
      · exact respected_append_singleton.mpr
          ⟨before.respected, fun intrudes => absurd intrudes noIntruder⟩
      · rw [pending_append_singleton, ← before.pending]
        simp [noOpen, noClose]

theorem opened (tracks : bracket.Tracks history flag) (opens : bracket.opens item)
    (lowered : ¬flag) (raised : after) : bracket.Tracks (history ++ [item]) after := by
  constructor
  · exact respected_append_singleton.mpr
      ⟨tracks.respected, fun _ pending => lowered (tracks.pending.mp pending)⟩
  · exact iff_of_true (pending_append_singleton.mpr (.inl opens)) raised

theorem closed (tracks : bracket.Tracks history flag) (closes : bracket.closes item)
    (noOpen : ¬bracket.opens item) (noIntruder : ¬bracket.intrudes item) (lowered : ¬after) :
    bracket.Tracks (history ++ [item]) after := by
  constructor
  · exact respected_append_singleton.mpr
      ⟨tracks.respected, fun intrudes => absurd intrudes noIntruder⟩
  · refine iff_of_false (fun pending => ?_) lowered
    rcases pending_append_singleton.mp pending with opens | ⟨keeps, _⟩
    · exact noOpen opens
    · exact keeps closes

end Tracks
end Bracket
end VoiceCall.Foundation
