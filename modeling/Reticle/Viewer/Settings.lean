import Reticle.Number.Decimal

/-!
# Settings

What the environment says about how the viewer starts. Flags on the command line come before.
-/

namespace Reticle

/-- How the viewer starts. -/
structure Settings where
  /-- The name of the log session, if one is given. -/
  sessionName : Option String
  dash : Bool
  /-- Start with the sample obstacles. -/
  sample : Bool
  panelWidth : Nat
deriving DecidableEq, Repr

namespace Settings

/-- The least width of the side panel. -/
def leastPanelWidth : Nat :=
  20

/-- The width of the side panel that is used by default. -/
def standardPanelWidth : Nat :=
  44

/-- The truth value that a text writes. -/
def readBool (text : String) : Option Bool :=
  if Text.trimmed text = "true" then some true
  else if Text.trimmed text = "false" then some false
  else none

/-- The width that a text writes: a number of at most 16 bits with an optional plus sign. -/
def readWidth (text : String) : Option Nat := do
  let digits :=
    match Text.trim text.toList with
    | '+' :: digits => digits
    | digits => digits
  if digits.isEmpty || !digits.all Char.isDigit then none
  else
    let width := Text.numeral digits
    if width < 0x10000 then some width else none

/-- The names of the variables that are looked up. -/
def variableNames : List String :=
  ["TARGET_VIEWER_SESSION_ID", "TARGET_VIEWER_DASH", "TARGET_VIEWER_SAMPLE_OBSTACLES",
    "TARGET_VIEWER_CODE_PANEL_WIDTH"]

/-- The settings that an environment gives. -/
def ofEnvironment (lookUp : String → Option String) : Settings where
  sessionName := (lookUp "TARGET_VIEWER_SESSION_ID").filter (! Text.isBlankText ·)
  dash := ((lookUp "TARGET_VIEWER_DASH").bind readBool).getD false
  sample := ((lookUp "TARGET_VIEWER_SAMPLE_OBSTACLES").bind readBool).getD false
  panelWidth :=
    match (lookUp "TARGET_VIEWER_CODE_PANEL_WIDTH").bind readWidth with
    | some width => max width leastPanelWidth
    | none => standardPanelWidth

end Settings

end Reticle
