import FactoryGen.Diagnostic

/-! Colours on a terminal.

A style is switched on by a control sequence and off by the reset sequence. A text
that resets the terminal itself does not end the style: it is switched on again
right after. -/
namespace FactoryGen.Output

inductive Style where
  | dimmed
  | yellow
  | cyan
  | green
  | boldRed
  | boldBlue
  | boldYellow
deriving DecidableEq, Repr, Inhabited

namespace Style

/-- The code of a style in control sequences. -/
def code : Style → List Char
  | .dimmed => ['2']
  | .yellow => ['3', '3']
  | .cyan => ['3', '6']
  | .green => ['3', '2']
  | .boldRed => ['1', ';', '3', '1']
  | .boldBlue => ['1', ';', '3', '4']
  | .boldYellow => ['1', ';', '3', '3']

/-- The sequence that switches a style on. -/
def start (style : Style) : List Char := '\x1b' :: '[' :: style.code ++ ['m']

/-- The sequence that switches every style off. -/
def reset : List Char := ['\x1b', '[', '0', 'm']

/-- A text that switches the style on again wherever it resets the terminal. -/
def resume (style : Style) : List Char → List Char
  | '\x1b' :: '[' :: '0' :: 'm' :: rest => reset ++ style.start ++ resume style rest
  | c :: rest => c :: resume style rest
  | [] => []

/-- A text in a style, if there are colours at all. -/
def paint (colours : Bool) (style : Style) (text : List Char) : List Char :=
  if colours then style.start ++ style.resume text ++ reset else text

def ofSeverity : Severity → Style
  | .error => .boldRed
  | .warning => .boldYellow

end Style
end FactoryGen.Output
