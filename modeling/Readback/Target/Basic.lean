import Readback.Text.Blank

/-!
# Targets

What a run is directed at: the memory cell, or a server at the base of a URL. Slashes at the end of a base are dropped,
so that paths can be added to it.
-/

namespace Readback

/-- Where a run writes to. -/
inductive Target where
  /-- A memory cell within the program. -/
  | memory
  /-- A server; the base is the address up to the paths below it. -/
  | http (base : String)
  deriving DecidableEq, Repr

namespace Target

/-- Whether a text starts like the address of a server. -/
def isHttp (cs : List Char) : Bool := "http://".toList.isPrefixOf cs || "https://".toList.isPrefixOf cs

/-- The text without the slashes at its end. -/
def dropSlashes (cs : List Char) : List Char := Text.dropEndWhile (· = '/') cs

/-- Why a text is no target. -/
def unknown (trimmed : String) : String :=
  "Unknown target '" ++ trimmed ++ "': expected 'memory' or an http(s):// base URL"

/-- Reads a target, ignoring blanks at both ends; a refusal quotes the text without them. -/
def parse (input : String) : Except String Target :=
  let trimmed := Text.trimChars input.toList
  if trimmed = "memory".toList then .ok .memory
  else if isHttp trimmed then .ok (.http (String.ofList (dropSlashes trimmed)))
  else .error (unknown (String.ofList trimmed))

end Target

end Readback
