/-!
# Keys

Which key asks the viewer for what.
-/

namespace Reticle

/-- A key on the keyboard. -/
inductive KeyCode
  | char (c : Char)
  | left
  | right
  | up
  | down
  | home
  | endKey
  | enter
  | escape
  | tab
  | backTab
  | delete
  | backspace
deriving DecidableEq, Repr

/-- A key with the modifiers held down. -/
structure Key where
  code : KeyCode
  control : Bool
  shift : Bool
  alt : Bool
deriving DecidableEq, Repr

/-- What a key asks for. -/
inductive Action
  | moveCursor (dRow dCol : Int)
  | centerCursor
  | toggleObstacle
  | clearObstacles
  | addSample
  | nextSlider
  | previousSlider
  | raiseSlider
  | lowerSlider
  | toggleDash
  /-- Read the rule file again. -/
  | reload
  | quit
  /-- Nothing. -/
  | ignore
deriving DecidableEq, Repr

/-- What a key without the control modifier asks for. -/
def KeyCode.action (code : KeyCode) (shift : Bool) : Action :=
  match code with
  | .char 'q' | .escape => .quit
  | .left | .char 'h' => .moveCursor 0 (-1)
  | .right | .char 'l' => .moveCursor 0 1
  | .up | .char 'k' => .moveCursor (-1) 0
  | .down | .char 'j' => .moveCursor 1 0
  | .home | .char '.' => .centerCursor
  | .char ' ' | .char 'o' | .enter => .toggleObstacle
  | .char 'c' => .clearObstacles
  | .char 's' => .addSample
  | .tab => if shift then .previousSlider else .nextSlider
  | .backTab => .previousSlider
  | .char '+' | .char '=' => .raiseSlider
  | .char '-' | .char '_' => .lowerSlider
  | .char 'd' => .toggleDash
  | .char 'r' => .reload
  | _ => .ignore

/-- What a key asks for: with the control modifier, only `c` has a meaning. -/
def Key.action (k : Key) : Action :=
  if k.control then if k.code = .char 'c' then .quit else .ignore
  else k.code.action k.shift

/-- The key that types a character. -/
def Key.ofTyped (c : Char) : Key :=
  match c with
  | '\t' => ⟨.tab, false, false, false⟩
  | '\x1b' => ⟨.escape, false, false, false⟩
  | '\r' => ⟨.enter, false, false, false⟩
  | c => ⟨.char c, false, false, false⟩

end Reticle
