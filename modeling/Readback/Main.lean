import Readback.Program.Basic
import Std.Time.Zoned

/-!
# The process

Hands the arguments and the surroundings to the program and writes what it leaves behind. This build opens no sockets:
nobody answers on its network, and there is no endpoint to listen on.
-/

namespace Readback.Console

/-- A number in at least `width` digits. -/
def padded (width : Nat) (n : Int) : String :=
  let digits := Numeral.intText n
  String.ofList (List.replicate (width - digits.length) '0') ++ digits

/-- The present time in coordinated universal time. -/
def presentTime : IO String := do
  let stamp ← Std.Time.Timestamp.now
  let t := Std.Time.PlainDateTime.ofWallTime (Std.Time.WallTime.ofTimestamp stamp .zero)
  let date := "-".intercalate [padded 4 t.date.year, padded 2 t.date.month.val, padded 2 t.date.day.val]
  let time := ":".intercalate [padded 2 t.time.hour.val, padded 2 t.time.minute.val, padded 2 t.time.second.val]
  return date ++ "T" ++ time ++ "." ++ padded 9 t.time.nanosecond.val ++ "Z"

/-- A seed of eight random bytes. -/
def randomSeed : IO Seed := do
  let bytes ← IO.getRandomBytes 8
  return ⟨bytes.toList.foldl (fun n b => n * 256 + b.toUInt64) 0⟩

/-- Writes a transcript and gives its exit status. -/
def write (t : Transcript) : IO UInt32 := do
  IO.print t.stdout
  IO.eprint t.stderr
  return t.exit.toUInt32

end Readback.Console

open Readback

/-- Carries out the command that the arguments ask for. -/
def main (arguments : List String) : IO UInt32 := do
  let surroundings : Program.Surroundings Unit := {
    logFilter := ← IO.getEnv "RUST_LOG"
    freshSeed := ← Console.randomSeed
    network := fun _ => .unreachable
    listen := fun _ => .error "Operation not supported (os error 95)" }
  let started ← Console.presentTime
  let conclusion := Program.conclude arguments surroundings ()
  Console.write (conclusion.transcript ⟨started, ← Console.presentTime⟩)
