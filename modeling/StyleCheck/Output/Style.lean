/-!
# Terminal styles

Colours and weights of text on a terminal, and when they are used.
-/

namespace StyleCheck.Output

/-- When output is coloured. -/
inductive ColorChoice
  /-- On a terminal, unless the environment asks for none. -/
  | auto
  | always
  | never
  deriving DecidableEq, Repr

namespace ColorChoice

/-- The name of the choice. -/
def name : ColorChoice → String
  | auto => "auto"
  | always => "always"
  | never => "never"

/-- The choice of a name. -/
def ofName? (name : String) : Option ColorChoice := [auto, always, never].find? (·.name == name)

/-- Whether output is coloured, given whether that is possible. -/
def colors (choice : ColorChoice) (isPossible : Bool) : Bool :=
  match choice with
  | auto => isPossible
  | always => true
  | never => false

end ColorChoice

/-- A style of text on a terminal. -/
inductive Style
  | red
  | green
  | yellow
  | cyan
  | bold
  | dim
  deriving DecidableEq, Repr

namespace Style

/-- The sequence that switches the style on. -/
def code : Style → String
  | red => "\x1b[31m"
  | green => "\x1b[32m"
  | yellow => "\x1b[33m"
  | cyan => "\x1b[36m"
  | bold => "\x1b[1m"
  | dim => "\x1b[2m"

/-- The sequence that switches all styles off. -/
def reset : String := "\x1b[0m"

/-- The text in some styles, if colours are on. -/
def paint (colors : Bool) (styles : List Style) (text : String) : String :=
  if colors then String.join (styles.map code) ++ text ++ reset else text

end Style

end StyleCheck.Output
