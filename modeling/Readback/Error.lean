/-!
# Errors

Two kinds of failure that never mix. A `SetupError` keeps a run from starting: the domain, the configuration or the seed
is not usable. An `AdapterError` is one failed call to the system under test; a run records it and goes on.
-/

namespace Readback

/-- Why a run does not start. -/
inductive SetupError where
  /-- The domain holds no value. -/
  | invalidDomain (message : String)
  /-- A setting cannot be carried out. -/
  | invalidConfig (field message : String)
  /-- A text is no seed. -/
  | invalidSeed (input : String)
  deriving DecidableEq, Repr

namespace SetupError

/-- The error in one line. -/
def message : SetupError → String
  | .invalidDomain m => "Invalid domain: " ++ m
  | .invalidConfig field m => "Invalid config: " ++ field ++ " " ++ m
  | .invalidSeed input => "Invalid seed '" ++ input ++ "': expected a decimal or 0x-prefixed hex u64"

/-- The error for the terminal, with a hint on how to mend it. -/
def advice : SetupError → String
  | .invalidDomain m => "Invalid domain: " ++ m ++ "\n  Help: pass bounds with --min <= --max"
  | .invalidConfig field m =>
    "Invalid configuration: " ++ field ++ " " ++ m ++ "\n  Help: check the --" ++ field ++ " flag"
  | .invalidSeed input =>
    "Invalid seed: '" ++ input ++ "'\n  Help: use a decimal u64 such as 42 or hex such as 0x2a"

/-- The refusal of a run without rounds. -/
def noRounds : SetupError := .invalidConfig "rounds" "must be a positive integer"

/-- The refusal of a signal that can no longer announce anything. -/
def staleSignal : SetupError := .invalidConfig "stop_signal" "was raised before the run started"

end SetupError

/-- A write or a read that did not complete. -/
structure AdapterError where
  cause : String
  deriving DecidableEq, Repr

namespace AdapterError

/-- The error in one line. -/
def message (e : AdapterError) : String := "Adapter error: " ++ e.cause

/-- The error whose cause is a chain of causes, the outermost first. -/
def ofChain (causes : List String) : AdapterError := ⟨": ".intercalate causes⟩

end AdapterError

end Readback
