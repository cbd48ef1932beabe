/-
Demand: units that a receiver has asked for and not yet been served.

Requests add up and saturate at the largest count, which reads as unbounded;
serving a unit subtracts one and never goes below zero.
-/

namespace FramedEvents

/-- The largest demand, which is never used up in practice. -/
def mostDemand : Nat := 18446744073709551615

structure Demand where
  outstanding : Nat := 0
  le_most : outstanding ≤ mostDemand := by decide
  deriving DecidableEq

namespace Demand

def zero : Demand := {}

def add (demand : Demand) (more : Nat) : Demand :=
  ⟨min (demand.outstanding + more) mostDemand, Nat.min_le_right _ _⟩

/-- One unit less, if any is outstanding. -/
def serve? (demand : Demand) : Option Demand :=
  if demand.outstanding = 0 then none
  else some ⟨demand.outstanding - 1, Nat.le_trans (Nat.sub_le _ _) demand.le_most⟩

/-- One unit less. Taking from nothing leaves nothing. -/
def serve (demand : Demand) : Demand := demand.serve?.getD demand

def isMet (demand : Demand) : Bool := demand.outstanding == 0

@[simp]
theorem outstanding_add (demand : Demand) (more : Nat) :
    (demand.add more).outstanding = min (demand.outstanding + more) mostDemand := rfl

@[simp]
theorem outstanding_serve (demand : Demand) :
    demand.serve.outstanding = demand.outstanding - 1 := by
  unfold serve serve?
  split
  · rename_i none
    simp [none]
  · rfl

end Demand

/-- What a receiver may ask of the one who serves it, at any time. -/
inductive Control where
  | request (count : Nat)
  | cancel
  deriving DecidableEq

end FramedEvents
