/-!
# Coloured text

On a terminal a text may be coloured, bold or dimmed. A control sequence opens
the ink, another one ends every ink, and where the text itself ends one the
outer ink is opened again.
-/

namespace StepSheet

/-- The look of a text on a terminal. -/
inductive Ink where
  | plain
  | bold
  | dimmed
  | red
  | green
  | yellow
  | blue
  | cyan
  | boldGreen
  | boldCyan
deriving DecidableEq

namespace Ink

def codes : Ink → String
  | plain => ""
  | bold => "1"
  | dimmed => "2"
  | red => "31"
  | green => "32"
  | yellow => "33"
  | blue => "34"
  | cyan => "36"
  | boldGreen => "1;32"
  | boldCyan => "1;36"

def opening (ink : Ink) : List Char := '\x1b' :: '[' :: ink.codes.toList ++ ['m']

/-- Text in which the ink is opened again behind every end of an inner one. -/
def reopened (ink : Ink) : List Char → List Char
  | '\x1b' :: '[' :: '0' :: 'm' :: cs => ['\x1b', '[', '0', 'm'] ++ ink.opening ++ reopened ink cs
  | c :: cs => c :: reopened ink cs
  | [] => []

/-- A text in an ink; without colours, or in no ink, the text itself. -/
def paint (ink : Ink) (colours : Bool) (s : String) : String :=
  if !colours || ink = plain then s
  else String.ofList (ink.opening ++ ink.reopened s.toList ++ ['\x1b', '[', '0', 'm'])

end Ink

end StepSheet
