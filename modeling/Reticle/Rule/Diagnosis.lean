import Reticle.Rule.Basic
import Reticle.Rule.Vocabulary

/-!
# What can be said against a rule

An error keeps a rule from being shown and points at a line. A warning says that a part of the
rule has no effect on what is shown.
-/

namespace Reticle

/-! ## Errors -/

/-- Why a rule cannot be shown. Lines count from zero. -/
inductive RenderError
  /-- The text has no field at all. -/
  | malformed (line : Nat)
  /-- The target mode is absent or empty. -/
  | missingMode (line : Nat)
  /-- The target mode is not known. -/
  | unsupportedMode (mode : String) (line : Option Nat)
deriving DecidableEq, Repr

namespace RenderError

/-- The line to mark. -/
def line? : RenderError → Option Nat
  | malformed line | missingMode line => some line
  | unsupportedMode _ line => line

/-- The text shown for an error, in which lines count from one. -/
def message : RenderError → String
  | malformed line => "could not parse the target block (line " ++ toString (line + 1) ++ ")"
  | missingMode line => "target_mode is missing (line " ++ toString (line + 1) ++ ")"
  | unsupportedMode mode _ => "unsupported target_mode: " ++ mode

end RenderError

/-! ## Warnings -/

/-- What has no effect in a rule that is shown. -/
inductive Warning
  /-- A field that is known and not simulated. -/
  | unsupportedField (field : String)
  /-- A restriction that is known and not simulated where it stands. -/
  | unsupportedRestriction (field token : String)
  /-- A restriction without meaning where it stands. -/
  | ignoredRestriction (field token : String)
  /-- A keyword that is not known, in place of which the default is used. -/
  | unrecognizedValue (field value : String)
  /-- A note that does not come from the rule. -/
  | extra (note : String)
deriving DecidableEq, Repr

/-- The text shown for a warning. -/
def Warning.message : Warning → String
  | unsupportedField field => "field `" ++ field ++ "` is not simulated and was ignored"
  | unsupportedRestriction field token =>
    "restriction `" ++ token ++ "` is not simulated in `" ++ field ++ "`"
  | ignoredRestriction field token =>
    "restriction `" ++ token ++ "` in `" ++ field ++ "` is ignored"
  | unrecognizedValue field value =>
    "unrecognized " ++ field ++ " `" ++ value ++ "`, using the default"
  | extra note => note

/-! ## Severity -/

/-- How grave a remark is. -/
inductive Severity
  | validation
  | warning
deriving DecidableEq, Repr

namespace Severity

/-- The name of a severity. -/
def name : Severity → String
  | validation => "validation"
  | warning => "warning"

/-- Whether the rule can still be shown. -/
def isRenderable : Severity → Bool
  | validation => false
  | warning => true

end Severity

/-- Errors keep the rule from being shown. -/
def RenderError.severity (_ : RenderError) : Severity :=
  .validation

/-- Warnings do not. -/
def Warning.severity (_ : Warning) : Severity :=
  .warning

/-! ## Reading restrictions and modes -/

namespace Rule

/-- The restrictions of a rule: those listed, and those that have a field of their own. -/
def restrictions (r : Rule) : List Restriction :=
  (r.words "restrictions").filterMap Restriction.ofToken?
    ++ (if r.flag "straight_shot" then [.straightShot] else [])
    ++ (if r.flag "must_move" then [.mustMove] else [])
    ++ (if r.flag "requires_line_of_sight" then [.lineOfSight] else [])

/-- The fields that are known and not simulated. -/
def unsupportedFields : List String :=
  ["allow_diagonals", "as_the_crow_flies", "shotgun_mode", "min_targets", "max_targets",
    "aoe_chance", "randomize_target_within_range", "prioritize_dont_change_direction"]

/-- The warnings about fields and restrictions that are not simulated under a target mode. -/
def unsupportedWarnings (r : Rule) (mode : TargetMode) : List Warning :=
  (unsupportedFields.filter r.contains).map .unsupportedField
    ++ (if mode ≠ .tile ∧
          (r.words "restrictions").any (Restriction.ofToken? · == some .mustBeMoveable) then
        [.unsupportedRestriction "restrictions" "must_be_moveable"]
      else [])
    ++ (r.words "aoe_restrictions").map fun token =>
      if Restriction.ofToken? token == some .mustBeMoveable then
        .unsupportedRestriction "aoe_restrictions" token
      else .ignoredRestriction "aoe_restrictions" token

/-- The target mode of a rule, or why there is none. -/
def targetMode (r : Rule) : Except RenderError TargetMode :=
  match r.isEmpty, r.firstMalformed with
  | true, some line => .error (.malformed line)
  | _, _ =>
    let word := (r.keyword? "target_mode").getD ""
    if word.isEmpty then
      .error (.missingMode ((r.line? "target_mode" <|> r.firstMalformed).getD 0))
    else
      match TargetMode.ofName? word with
      | some mode => .ok mode
      | none => .error (.unsupportedMode word (r.line? "target_mode"))

end Rule

end Reticle
