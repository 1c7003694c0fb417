import Readback.Error
import Readback.Random.Draws

/-!
# Domains

A domain is a space of values to write, with a rule for when a value read back counts as the one written. It is checked
before use: only a domain that holds a value yields a sampler.
-/

namespace Readback

/-- Takes a value from a sequence of draws and leaves the rest of the sequence. -/
abbrev Sampler (V : Type) := Draws → V × Draws

/-- A space of values with its rule of equality. -/
structure Domain (V : Type) where
  /-- A short description, such as `[1, 1000]`. -/
  label : String
  /-- A description that names the kind of domain. -/
  details : String
  /-- The sampler, unless the domain is empty. -/
  sampler : Except SetupError (Sampler V)
  /-- Whether the second value, read back, counts as the first, written. -/
  equivalent : V → V → Bool

end Readback
