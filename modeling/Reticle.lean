import Reticle.Area.Bounds
import Reticle.Area.Checked
import Reticle.Area.Offset
import Reticle.Area.Pattern
import Reticle.Area.Shape
import Reticle.Board.Basic
import Reticle.Board.CellSet
import Reticle.Board.Checked
import Reticle.Board.Memo
import Reticle.Formula.Expr
import Reticle.Formula.Parser
import Reticle.Formula.Registry
import Reticle.Formula.Slider
import Reticle.Formula.Substitution
import Reticle.Formula.Token
import Reticle.Main
import Reticle.Number.Decimal
import Reticle.Number.Exact
import Reticle.Number.Shortest
import Reticle.Plane.Cell
import Reticle.Plane.Checked
import Reticle.Plane.CheckedTrace
import Reticle.Plane.Crossing
import Reticle.Plane.Grid
import Reticle.Plane.Trace
import Reticle.Proofs.BoardRuns
import Reticle.Proofs.Clipping
import Reticle.Proofs.DirectionalTile
import Reticle.Proofs.FieldSpecs
import Reticle.Proofs.Fingerprint
import Reticle.Proofs.Lanes
import Reticle.Proofs.LineOfSight
import Reticle.Proofs.Lines
import Reticle.Proofs.Reading
import Reticle.Proofs.Remembering
import Reticle.Proofs.Retracing
import Reticle.Proofs.SliderValues
import Reticle.Report.Basic
import Reticle.Report.Json
import Reticle.Rule.Basic
import Reticle.Rule.Coordinates
import Reticle.Rule.Diagnosis
import Reticle.Rule.Reader
import Reticle.Rule.Vocabulary
import Reticle.Scenario.Aiming
import Reticle.Scenario.AnchoredArea
import Reticle.Scenario.Basic
import Reticle.Scenario.Checked
import Reticle.Scenario.Dash
import Reticle.Scenario.Directional
import Reticle.Scenario.FieldReader
import Reticle.Scenario.Memory
import Reticle.Scenario.Render
import Reticle.Scenario.SelfCast
import Reticle.Scenario.Summary
import Reticle.Scenario.Tile
import Reticle.Session.Basic
import Reticle.Session.Checked
import Reticle.Session.Frame
import Reticle.Text.Blank
import Reticle.Text.CaseTable
import Reticle.Text.Digit
import Reticle.Text.Lowercase
import Reticle.Text.Split
import Reticle.Viewer.Basic
import Reticle.Viewer.Canvas
import Reticle.Viewer.CommandLine
import Reticle.Viewer.Key
import Reticle.Viewer.Launch
import Reticle.Viewer.RuleFile
import Reticle.Viewer.Screen
import Reticle.Viewer.Settings
import Reticle.Viewer.Theme
import Reticle.Proofs.Lexing
import Reticle.Proofs.Phrases
import Reticle.Proofs.Parsing
import Reticle.Proofs.Spacing
import Reticle.Proofs.Substituting
import Reticle.Proofs.NamedFormulas
import Reticle.Proofs.AreaCells
import Reticle.Proofs.Choices
import Reticle.Proofs.Answers
import Reticle.Proofs.Previews
import Reticle.Proofs.Targets
import Reticle.Proofs.Rendering
import Reticle.Proofs.ShownAreas
import Reticle.Proofs.Sightlines
import Reticle.Proofs.Rays
import Reticle.Proofs.FewerTargets
import Reticle.Proofs.Doubles
import Reticle.Proofs.Rounding
import Reticle.Proofs.WholeNumbers
import Reticle.Proofs.Turning
import Reticle.Proofs.Placing
import Reticle.Proofs.TurnedAreas
import Reticle.Proofs.TurnedTargets
import Reticle.Proofs.DecisiveSliders
import Reticle.Proofs.RuleLines
import Reticle.Proofs.JoinedTexts
import Reticle.Proofs.Layout
import Reticle.Proofs.Frames
import Reticle.Proofs.LookingTwice
import Reticle.Proofs.Viewing
import Reticle.Proofs.NearestOrigins
import Reticle.Proofs.DashRuns
import Reticle.Proofs.Supercover
import Reticle.Proofs.CheckedNumbers
import Reticle.Proofs.CheckedLines
import Reticle.Proofs.CheckedAreas
import Reticle.Proofs.CheckedTiles
import Reticle.Proofs.CheckedLanes
import Reticle.Proofs.CheckedBuilding
import Reticle.Proofs.CheckedAnswers
import Reticle.Proofs.CheckedDirectionalTile
import Reticle.Proofs.Dividing
import Reticle.Proofs.Aligning
import Reticle.Proofs.Contests
import Reticle.Proofs.Footprints
import Reticle.Proofs.EqualDoubles
import Reticle.Proofs.Orbits
import Reticle.Proofs.Facings
import Reticle.Proofs.LocalChanges
import Reticle.Proofs.SliderHistory
import Reticle.Proofs.RegistryRuns
import Reticle.Proofs.FiniteNumbers
import Reticle.Proofs.SignedNumerals
import Reticle.Proofs.FiniteFields
import Reticle.Proofs.BlankRuns
import Reticle.Proofs.CoordinateTexts
import Reticle.Proofs.BrokenValues
import Reticle.Proofs.CoordinateLists
import Reticle.Proofs.DefinedValues
import Reticle.Proofs.DecimalValues
import Reticle.Proofs.StepBands
import Reticle.Proofs.ListedRanges
import Reticle.Proofs.WrittenLines
import Reticle.Proofs.MarkedLines
import Reticle.Proofs.TrueFrames
import Reticle.Proofs.CheckedSessions
import Reticle.Proofs.Truncating
import Reticle.Proofs.Motions
import Reticle.Proofs.Quotients
import Reticle.Proofs.RoundedClipping
