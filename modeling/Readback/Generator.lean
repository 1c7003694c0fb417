import Readback.Domain.Basic
import Readback.Seed

/-!
# Generators

An endless sequence of values of a domain, fixed by a seed. Starting over means building a new generator from the same
seed.
-/

namespace Readback

/-- A domain that was found usable, its sampler, and the draws still to come. -/
structure Generator (V : Type) where
  domain : Domain V
  sampler : Sampler V
  seed : Seed
  draws : Draws

namespace Generator

variable {V : Type}

/-- The generator of a domain from a seed; an empty domain is refused. -/
def new (domain : Domain V) (seed : Seed) : Except SetupError (Generator V) :=
  domain.sampler.map fun sampler => ⟨domain, sampler, seed, .start (.ofSeed seed.value)⟩

/-- The next value, and the generator after it. -/
def next (g : Generator V) : V × Generator V :=
  let (v, rest) := g.sampler g.draws
  (v, { g with draws := rest })

/-- The next `n` values, and the generator after them. -/
def take (g : Generator V) : Nat → List V × Generator V
  | 0 => ([], g)
  | n + 1 =>
    let (v, g) := g.next
    let (vs, g) := g.take n
    (v :: vs, g)

/-- The generator after `n` more values. -/
def drop (g : Generator V) : Nat → Generator V
  | 0 => g
  | n + 1 => g.next.2.drop n

/-- The generator by its domain and its seed. -/
def details (g : Generator V) : String :=
  "Generator \x7b domain: " ++ g.domain.details ++ ", seed: Seed(" ++ g.seed.text ++ "), .. \x7d"

end Generator

end Readback
