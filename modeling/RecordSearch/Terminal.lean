/-!
# Text for a terminal

Output is a list of spans, some with a style. A terminal that shows styles gets
each styled span between a sequence that sets the style and one that resets it;
setting begins with a reset, so that no span depends on the one before. All
others get the text alone.
-/

namespace RecordSearch

/-- The colors in use. -/
inductive Color
  | red
  | green
  | yellow
  | magenta
  | cyan
deriving DecidableEq, Repr

/-- How a span looks. -/
structure Style where
  bold : Bool
  color : Option Color
deriving DecidableEq, Repr

/-- A piece of text, with a style or without. -/
structure Span where
  style : Option Style
  text : String
deriving DecidableEq, Repr

namespace Color

/-- The number of a foreground color. -/
def code : Color → String
  | .red => "31"
  | .green => "32"
  | .yellow => "33"
  | .magenta => "35"
  | .cyan => "36"

end Color

namespace Style

/-- A color that is not bold. -/
def plain (color : Color) : Style := ⟨false, some color⟩

/-- The control sequence with a parameter. -/
def sequence (parameter : String) : String :=
  "\x1b[" ++ parameter ++ "m"

/-- The sequence that takes all style away. -/
def reset : String := sequence "0"

/-- The sequence that sets the style. -/
def set (style : Style) : String :=
  reset ++ (if style.bold then sequence "1" else "") ++
    match style.color with
    | some color => sequence color.code
    | none => ""

end Style

namespace Span

/-- Text without a style. -/
def unstyled (text : String) : Span := ⟨none, text⟩

/-- Text in a color. -/
def colored (color : Color) (text : String) : Span := ⟨some (.plain color), text⟩

/-- Bold text. -/
def bold (text : String) : Span := ⟨some ⟨true, none⟩, text⟩

/-- Bold text in a color. -/
def boldColored (color : Color) (text : String) : Span := ⟨some ⟨true, some color⟩, text⟩

/-- A span as the terminal gets it. -/
def render (styled : Bool) (span : Span) : String :=
  match span.style with
  | some style => if styled then style.set ++ span.text ++ Style.reset else span.text
  | none => span.text

/-- Spans as the terminal gets them. -/
def renderAll (styled : Bool) (spans : List Span) : String :=
  String.join (spans.map (render styled))

end Span

end RecordSearch
