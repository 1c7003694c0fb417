import Readback.Adapter.Basic
import Readback.Text.Numeral

/-!
# Fault injection

An adapter wrapped so that chosen calls go wrong, to check that a run notices a broken target. Faults name calls by
number, counted from zero and separately for writes and reads; every call counts, also one that goes wrong. A write that
is to fail and to be dropped fails. Numbers and counters are words of 64 bits, so behind `2 ^ 64` calls the counting
starts again from zero; no single run comes that far.
-/

namespace Readback

/-- A call that goes wrong. -/
inductive Fault where
  /-- The write of that number reports success without reaching the target. -/
  | dropWrite (call : UInt64)
  /-- The write of that number fails. -/
  | failWrite (call : UInt64)
  /-- The read of that number fails. -/
  | failRead (call : UInt64)
  deriving DecidableEq, Repr

/-- The faults to inject and the calls counted so far. -/
structure Injector where
  faults : List Fault
  writes : UInt64 := 0
  reads : UInt64 := 0
  deriving Repr

namespace Injector

variable {σ α : Type}

/-- One more fault; the counters go on. -/
def add (i : Injector) (fault : Fault) : Injector := { i with faults := i.faults ++ [fault] }

/-- A write: it fails, is dropped, or is forwarded to the adapter inside. -/
def write (i : Injector) (inner : σ) (forward : Unit → Reply σ Unit) : Reply (Injector × σ) Unit :=
  let counted := { i with writes := i.writes + 1 }
  if i.faults.contains (.failWrite i.writes) then
    .fail ("injected write failure at call " ++ Numeral.natText i.writes.toNat) (counted, inner)
  else if i.faults.contains (.dropWrite i.writes) then .ok () (counted, inner)
  else (forward ()).within (counted, ·)

/-- A read: it fails, or is forwarded to the adapter inside. -/
def read (i : Injector) (inner : σ) (forward : Unit → Reply σ α) : Reply (Injector × σ) α :=
  let counted := { i with reads := i.reads + 1 }
  if i.faults.contains (.failRead i.reads) then
    .fail ("injected read failure at call " ++ Numeral.natText i.reads.toNat) (counted, inner)
  else (forward ()).within (counted, ·)

end Injector

/-- The adapter behind an injector of faults. -/
def Adapter.faulty {σ V : Type} (inner : Adapter σ V) : Adapter (Injector × σ) V where
  write v s := s.1.write s.2 fun _ => inner.write v s.2
  read s := s.1.read s.2 fun _ => inner.read s.2

end Readback
