/-!
# Styles

On a console that shows colours, a text stands out by the control sequences around it. A sequence
names all styles of the text at once and another one ends them all.
-/

namespace FleetScaling.Console

/-- A way for a text to stand out. -/
inductive Style
  | bold
  | dim
  | red
  | green
  | yellow
  | blue
  | cyan
  deriving DecidableEq, Repr

/-- The number of a style in a control sequence. -/
def Style.code : Style → String
  | bold => "1"
  | dim => "2"
  | red => "31"
  | green => "32"
  | yellow => "33"
  | blue => "34"
  | cyan => "36"

/-- A control sequence with the given codes. -/
def sequence (codes : String) : String := "\x1b[" ++ codes ++ "m"

/-- Ends all styles. -/
def plainSequence : String := sequence "0"

/-- Begins some styles. -/
def styleSequence (styles : List Style) : String :=
  sequence (";".intercalate (styles.map Style.code))

/-- Whether colours are shown. -/
structure Palette where
  colours : Bool
  deriving DecidableEq

/-- The text in some styles. Where the text itself ends all styles, they begin again. -/
def Palette.styled (palette : Palette) (styles : List Style) (text : String) : String :=
  if palette.colours then
    let start := styleSequence styles
    start ++ text.replace plainSequence (plainSequence ++ start) ++ plainSequence
  else text

end FleetScaling.Console
