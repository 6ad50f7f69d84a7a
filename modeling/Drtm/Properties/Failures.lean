import Drtm.Properties.Lookup

/-!
# Failed reads during an update

An update is built from structural reads.  It looks at the outcome of each of
them, logs the failures, and returns the same value with or without them.
-/

namespace Drtm

open Foundation RunTimeData

/-- The reads that decide which threads exist, and where their registers are. -/
def Site.isStructural : Site → Bool
  | magic | version | headerField | schedulerStarted | listLink
  | stackPointer | currentThread => true
  | threadNameAddr | threadNameByte | prioAssigned | prioInherited
  | threadState | excReturn | stackFrame => false

def Event.isStructuralFailure : Event → Bool
  | .read site _ _ done => site.isStructural && !done
  | _ => false

def Clean (events : List Event) : Prop :=
  ∀ event ∈ events, event.isStructuralFailure = false

@[simp] theorem clean_cons (event : Event) (events : List Event) :
    Clean (event :: events) ↔
      event.isStructuralFailure = false ∧ Clean events :=
  List.forall_mem_cons

@[simp] theorem clean_ite (c : Prop) [Decidable c] (xs ys : List Event) :
    Clean (if c then xs else ys) ↔ if c then Clean xs else Clean ys := by
  split <;> rfl

attribute [local simp] Site.isStructural Event.isStructuralFailure

namespace RunTimeData

variable {backend : Backend} {md : Metadata}

end RunTimeData

namespace Metadata

variable {backend : Backend} {md : Metadata} {drtmAddr : Addr}

end Metadata

namespace Frontend

open Metadata

variable {backend : Backend} {s : Frontend} {fuel : Nat} {ret : Int}

/-! ## The reads of an update -/

end Frontend

end Drtm
