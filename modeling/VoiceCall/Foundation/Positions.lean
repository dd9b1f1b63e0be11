import Mathlib.Tactic

namespace VoiceCall.Foundation

universe u

variable {Item : Type u}

/-- Two relations agree on the neighbours of a list when they agree on what links these. -/
theorem isChain_congr {link first second : Item → Item → Prop} {items : List Item}
    (linked : items.IsChain link)
    (same : ∀ earlier later, link earlier later → (first earlier later ↔ second earlier later)) :
    items.IsChain first ↔ items.IsChain second := by
  induction linked with
  | nil => simp
  | singleton item => simp
  | cons_cons here _ ih =>
      rw [List.isChain_cons_cons, List.isChain_cons_cons, same _ _ here, ih]

variable [DecidableEq Item]

/-- The places of an item in a list, counted from 1. -/
def positions (wanted : Item) (items : List Item) : List Nat :=
  (items.zipIdx 1).filterMap fun entry => if entry.1 = wanted then some entry.2 else none

@[simp] theorem positions_nil (wanted : Item) : positions wanted [] = [] := rfl

/-- A new last item is at a place of its own. -/
theorem positions_append_singleton (wanted item : Item) (items : List Item) :
    positions wanted (items ++ [item]) =
      positions wanted items ++ if item = wanted then [items.length + 1] else [] := by
  rw [positions, List.zipIdx_append, List.filterMap_append]
  by_cases same : item = wanted
  · simp [positions, same, Nat.add_comm]
  · simp [positions, same]

theorem le_length_of_mem_positions {wanted : Item} {items : List Item} {place : Nat}
    (member : place ∈ positions wanted items) : place ≤ items.length := by
  obtain ⟨⟨item, index⟩, inside, found⟩ := List.mem_filterMap.mp member
  have bound := (List.mem_zipIdx inside).2.1
  simp only [Option.ite_none_right_eq_some, Option.some.injEq] at found
  omega

/-- The places come in their order. -/
theorem positions_increase (wanted : Item) (items : List Item) :
    (positions wanted items).IsChain (· < ·) := by
  induction items using List.reverseRecOn with
  | nil => simp
  | append_singleton items item ih =>
      rw [positions_append_singleton]
      split
      · refine List.isChain_append.mpr ⟨ih, by simp, ?_⟩
        intro earlier isLast later isFirst
        have bound := le_length_of_mem_positions (List.mem_of_mem_getLast? isLast)
        simp at isFirst
        omega
      · simpa using ih

end VoiceCall.Foundation
