import Mathlib.Tactic

namespace VoiceCall.Foundation

/-- A directory event is an arrival, a claim of a key by a present holder, or a departure. -/
inductive DirectoryEvent (Key Holder : Type) where
  | arrive (holder : Holder)
  | claim (holder : Holder) (key : Key)
  | depart (holder : Holder)

/-- A directory remembers the last claimant of each key and who is present. -/
structure Directory (Key Holder : Type) where
  claimant : Key → Option Holder
  present : Holder → Bool

namespace Directory

variable {Key Holder : Type}

def empty : Directory Key Holder := ⟨fun _ => none, fun _ => false⟩

/-- A key leads to its last claimant while that claimant is present. -/
def lookup (directory : Directory Key Holder) (key : Key) : Option Holder :=
  (directory.claimant key).filter directory.present

@[simp] theorem claimant_empty (key : Key) :
    (empty : Directory Key Holder).claimant key = none := rfl

@[simp] theorem present_empty (holder : Holder) :
    (empty : Directory Key Holder).present holder = false := rfl

/-- A lookup finds exactly the present last claimant. -/
theorem lookup_eq_some_iff (directory : Directory Key Holder) (key : Key) (holder : Holder) :
    directory.lookup key = some holder ↔
      directory.claimant key = some holder ∧ directory.present holder = true :=
  Option.filter_eq_some_iff

variable [DecidableEq Key] [DecidableEq Holder]

/-- A later claim of a key displaces an earlier one. -/
def apply (directory : Directory Key Holder) : DirectoryEvent Key Holder → Directory Key Holder
  | .arrive holder => { directory with present := Function.update directory.present holder true }
  | .claim holder key =>
      { directory with claimant := Function.update directory.claimant key (some holder) }
  | .depart holder => { directory with present := Function.update directory.present holder false }

/-- The replay applies a history from the empty directory. -/
def replay (history : List (DirectoryEvent Key Holder)) : Directory Key Holder :=
  history.foldl apply empty

@[simp] theorem replay_nil : replay ([] : List (DirectoryEvent Key Holder)) = empty := rfl

@[simp] theorem replay_append_singleton (history : List (DirectoryEvent Key Holder))
    (event : DirectoryEvent Key Holder) :
    replay (history ++ [event]) = (replay history).apply event := by
  simp [replay]

@[simp] theorem claimant_arrive (directory : Directory Key Holder) (holder : Holder) :
    (directory.apply (.arrive holder)).claimant = directory.claimant := rfl

@[simp] theorem claimant_depart (directory : Directory Key Holder) (holder : Holder) :
    (directory.apply (.depart holder)).claimant = directory.claimant := rfl

@[simp] theorem claimant_claim (directory : Directory Key Holder) (holder : Holder)
    (key query : Key) :
    (directory.apply (.claim holder key)).claimant query =
      if query = key then some holder else directory.claimant query := by
  simp [apply, Function.update_apply]

@[simp] theorem present_claim (directory : Directory Key Holder) (holder : Holder) (key : Key) :
    (directory.apply (.claim holder key)).present = directory.present := rfl

@[simp] theorem present_arrive (directory : Directory Key Holder) (holder query : Holder) :
    (directory.apply (.arrive holder)).present query =
      if query = holder then true else directory.present query := by
  simp [apply, Function.update_apply]

@[simp] theorem present_depart (directory : Directory Key Holder) (holder query : Holder) :
    (directory.apply (.depart holder)).present query =
      if query = holder then false else directory.present query := by
  simp [apply, Function.update_apply]

end Directory
end VoiceCall.Foundation
