/-
Raw control characters in strings.

A tool that writes a payload by hand leaves line breaks and tabs in its strings, where the grammar
wants escapes. `sanitize` goes over the text once, keeps track of strings and escapes, and escapes
the control characters inside strings. `repairStrings` looks for string literals instead, from one
quote to the next one that no backslash hides, and escapes within each; a line break of two
characters becomes one escape there. The two differ where a backslash stands outside of a string or
before a control character.
-/
set_option autoImplicit false

namespace DesktopMacro.Payload

/-- The letter of the escape that stands for a control character. -/
def controlLetter? (c : Char) : Option Char :=
  if c == '\n' then some 'n'
  else if c == '\r' then some 'r'
  else if c == '\t' then some 't'
  else if c == '\x08' then some 'b'
  else if c == '\x0c' then some 'f'
  else none

/-- A character of a string with a control character escaped. -/
def escapeControl (c : Char) : List Char :=
  match controlLetter? c with
  | some letter => ['\\', letter]
  | none => [c]

/-! ## One pass over the text -/

/-- Where a pass stands. -/
inductive Position where
  | outside
  | inside
deriving DecidableEq, Repr

/-- The other side of a quote. -/
def Position.cross : Position → Position
  | outside => inside
  | inside => outside

/-- Escapes control characters inside strings; `escaped` says that a backslash hides the next
character. -/
def sanitizeFrom : Position → (escaped : Bool) → List Char → List Char
  | _, _, [] => []
  | position, true, c :: cs => c :: sanitizeFrom position false cs
  | position, false, c :: cs =>
    if c == '\\' then c :: sanitizeFrom position true cs
    else if c == '"' then c :: sanitizeFrom position.cross false cs
    else
      match position with
      | .inside => escapeControl c ++ sanitizeFrom .inside false cs
      | .outside => c :: sanitizeFrom .outside false cs

/-- The text with the control characters inside its strings escaped. -/
def sanitize (text : List Char) : List Char := sanitizeFrom .outside false text

/-! ## String by string -/

/-- The characters of a literal with its control characters escaped; a carriage return and the line
feed after it are one line break. -/
def escapeSpan : List Char → List Char
  | [] => []
  | '\r' :: '\n' :: cs => '\\' :: 'n' :: escapeSpan cs
  | c :: cs => escapeControl c ++ escapeSpan cs

/-- Outside of literals, copies up to the next quote; inside, gathers the literal in `span`, last
character first, and escapes it when it ends. A literal that never ends is copied. -/
def repairFrom : (span : Option (List Char)) → (escaped : Bool) → List Char → List Char
  | none, _, [] => []
  | some span, _, [] => span.reverse
  | none, _, c :: cs =>
    if c == '"' then repairFrom (some [c]) false cs else c :: repairFrom none false cs
  | some span, true, c :: cs => repairFrom (some (c :: span)) false cs
  | some span, false, c :: cs =>
    if c == '\\' then repairFrom (some (c :: span)) true cs
    else if c == '"' then escapeSpan (c :: span).reverse ++ repairFrom none false cs
    else repairFrom (some (c :: span)) false cs

/-- The text with the control characters inside its string literals escaped. -/
def repairStrings (text : List Char) : List Char := repairFrom none false text

end DesktopMacro.Payload
