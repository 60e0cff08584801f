/-
  CivilTime.Resolution — what a local reading resolves to: one value, or two where the clock was
  put back and showed the reading twice.
-/

namespace CivilTime

inductive Resolution (α : Type) where
  | single (value : α)
  | ambiguous (earlier later : α)
  deriving DecidableEq, Repr

namespace Resolution

variable {α β : Type}

def earliest : Resolution α → α
  | single a => a
  | ambiguous a _ => a

def latest : Resolution α → α
  | single a => a
  | ambiguous _ b => b

def map (f : α → β) : Resolution α → Resolution β
  | single a => single (f a)
  | ambiguous a b => ambiguous (f a) (f b)

/-- Carries an action out on each value, the earlier one first. -/
def mapM {m : Type → Type} [Monad m] (f : α → m β) : Resolution α → m (Resolution β)
  | single a => return single (← f a)
  | ambiguous a b => return ambiguous (← f a) (← f b)

def toList : Resolution α → List α
  | single a => [a]
  | ambiguous a b => [a, b]

theorem mem_toList_map {f : α → β} {r : Resolution α} {b : β} : b ∈ (r.map f).toList ↔ ∃ a ∈ r.toList, f a = b := by
  cases r <;> simp [map, toList, eq_comm]

theorem earliest_mem (r : Resolution α) : r.earliest ∈ r.toList := by
  cases r <;> simp [earliest, toList]

end Resolution

end CivilTime
