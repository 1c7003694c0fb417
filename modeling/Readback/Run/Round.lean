import Readback.Adapter.Basic

/-!
# Rounds

A round writes a value, reads it back and compares. It passes, ends in a mismatch, or breaks off because the write or
the read failed.
-/

namespace Readback

/-- How a round ended. -/
inductive Outcome where
  /-- The value read back counts as the one written. -/
  | pass
  /-- The value read back does not count as the one written. -/
  | mismatch
  /-- The write or the read failed. -/
  | adapterError (stage : Stage) (cause : String)
  deriving DecidableEq, Repr

namespace Outcome

/-- Whether a round of this outcome passed. -/
def isPass : Outcome → Bool
  | .pass => true
  | _ => false

/-- The stage that failed and why. -/
def adapterError? : Outcome → Option (Stage × String)
  | .adapterError stage cause => some (stage, cause)
  | _ => none

end Outcome

/-- One cycle of writing, reading and comparing. -/
structure Round (V : Type) where
  /-- The place in the run, from zero. -/
  index : UInt64
  /-- The value written. -/
  input : V
  /-- The value read back, if it came to that. -/
  observed : Option V
  outcome : Outcome
  deriving DecidableEq, Repr

namespace Round

variable {V : Type}

/-- A round that passed. -/
def pass (index : UInt64) (input observed : V) : Round V := ⟨index, input, some observed, .pass⟩

/-- A round whose values differ. -/
def mismatch (index : UInt64) (input observed : V) : Round V := ⟨index, input, some observed, .mismatch⟩

/-- A round that broke off. -/
def adapterError (index : UInt64) (input : V) (stage : Stage) (e : AdapterError) : Round V :=
  ⟨index, input, none, .adapterError stage e.cause⟩

/-- Whether the round passed. -/
def isPass (r : Round V) : Bool := r.outcome.isPass

end Round

end Readback
