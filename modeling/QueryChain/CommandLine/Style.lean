/-!
# Styled text

A terminal shows a text in a style if control sequences switch the style on in front of the text and
off behind it. A text that switches styles off itself is switched back on after each such place.
-/

namespace QueryChain.CommandLine

/-- A way to show text, by the codes that switch it on. -/
structure Style where
  codes : String

namespace Style

def bold : Style := ⟨"1"⟩

def dimmed : Style := ⟨"2"⟩

def red : Style := ⟨"31"⟩

def green : Style := ⟨"32"⟩

def yellow : Style := ⟨"33"⟩

def cyan : Style := ⟨"36"⟩

def white : Style := ⟨"37"⟩

/-- Both styles at once. -/
def and (s t : Style) : Style := ⟨s.codes ++ ";" ++ t.codes⟩

/-- Switches a style on. -/
def start (s : Style) : List Char := '\x1b' :: '[' :: (s.codes.toList ++ ['m'])

/-- Switches every style off. -/
def reset : List Char := ['\x1b', '[', '0', 'm']

/-- The text with a style switched on again wherever the text switches styles off. -/
def resume (s : Style) : List Char → List Char
  | '\x1b' :: '[' :: '0' :: 'm' :: rest => reset ++ s.start ++ resume s rest
  | c :: rest => c :: resume s rest
  | [] => []

/-- The text in a style, or as it is where there is no colour. -/
def paint (s : Style) (colored : Bool) (text : String) : String :=
  if colored then String.ofList (s.start ++ s.resume text.toList ++ reset) else text

end Style

end QueryChain.CommandLine
