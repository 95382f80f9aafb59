/-
One repair at a given place.

A reader that stops points at a line and a column. The repair changes what stands there: a tab, a
carriage return or a quote that no backslash hides is escaped, the line break behind a line is
escaped when the column points just past the end of the line, and any other character is taken
out.
-/
import DesktopMacro.Payload.Controls
import DesktopMacro.Text.Pieces

set_option autoImplicit false

namespace DesktopMacro.Payload

/-- A line with the character at a place repaired, or none if the line is shorter. -/
def repairLine? (line : List Char) (index : Nat) : Option (List Char) :=
  match line.drop index with
  | [] => none
  | c :: after =>
    let front := line.take index
    if c == '\r' || c == '\t' then some (front ++ escapeControl c ++ after)
    else if c == '"' && front.getLast? != some '\\' then some (front ++ '\\' :: '"' :: after)
    else some (front ++ after)

/-- Lines with a line break between neighbours. -/
def joinLines (lines : List (List Char)) : List Char := ['\n'].intercalate lines

/-- The text with one repair at a line and a column, both counted from one; none if there is no
such place. -/
def repairAt? (text : List Char) (line column : Nat) : Option (List Char) :=
  if line = 0 || column = 0 then none
  else
    let lines := Text.splitAt (· == '\n') text
    let front := lines.take (line - 1)
    match lines.drop (line - 1) with
    | [] => none
    | current :: next :: after =>
      if column - 1 = current.length then
        some (joinLines (front ++ (current ++ '\\' :: 'n' :: next) :: after))
      else
        (repairLine? current (column - 1)).map
          (fun repaired => joinLines (front ++ repaired :: next :: after))
    | [current] =>
      (repairLine? current (column - 1)).map (fun repaired => joinLines (front ++ [repaired]))

end DesktopMacro.Payload
