/-
Names of fields.

Documents spell the names of fields with underscores, but older ones used capitals instead, and some
fields had other names. `normalize` puts an underscore where a capital starts a word and makes
everything small; the tables give the present names of the renamed fields.
-/
import DesktopMacro.Text.Case

set_option autoImplicit false

namespace DesktopMacro.FieldName

/-- An underscore before each capital that small letters follow and some character precedes.
`inWord` says that the small letters of such a word are being passed. -/
def markWords : (inWord : Bool) → List Char → List Char
  | inWord, c :: u :: l :: cs =>
    if inWord && c.isLower then c :: markWords true (u :: l :: cs)
    else if c != '\n' && u.isUpper && l.isLower then c :: '_' :: u :: l :: markWords true cs
    else c :: markWords false (u :: l :: cs)
  | _, cs => cs

/-- An underscore between a small letter or a digit and a capital. -/
def markCapitals : List Char → List Char
  | [] => []
  | [c] => [c]
  | c :: u :: cs =>
    if (c.isLower || c.isDigit) && u.isUpper then c :: '_' :: markCapitals (u :: cs)
    else c :: markCapitals (u :: cs)

/-- The present spelling of a field name. -/
def normalize (name : String) : String :=
  Text.lower (String.ofList (markCapitals (markWords false name.toList)))

/-- The present name of a field by its former name, from a table of renamings. -/
def renamed (table : List (String × String)) (name : String) : String :=
  ((table.find? (fun entry => entry.1 == name)).map Prod.snd).getD name

end DesktopMacro.FieldName
