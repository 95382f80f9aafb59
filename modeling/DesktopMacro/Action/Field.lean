/-
Reading the fields of an action.

A field has a type and a present value. A source that has nothing for the field leaves the value; a
source that has something gives a new value of the same type, or a fault that shows what it had.
Texts take any value by the way it is shown, whole numbers take texts of digits and truth values,
and a truth value is taken from a few words or from whether there is anything at all.
-/
import DesktopMacro.Action.Vocabulary
import DesktopMacro.Json.Conversion
import DesktopMacro.Key.Name

set_option autoImplicit false

namespace DesktopMacro

/-- Where the fields of an action come from: what there is for a name. -/
abbrev Source := String → Option Json

namespace Source

/-- A source without one name. -/
def without (source : Source) (hidden : String) : Source := fun name =>
  if name == hidden then none else source name

end Source

namespace Field

/-- A value read by a function, or the present one if there is nothing to read. -/
def orElse {α : Type} (source : Source) (name : String) (current : α)
    (convert : Json → Except Cause α) : Except Cause α :=
  match source name with
  | none => .ok current
  | some raw => convert raw

/-- The words for true. -/
def trueWords : List String := ["true", "1", "yes", "y", "on"]

/-- Any value as a truth value. -/
def boolOf : Json → Bool
  | .text s => trueWords.contains (Text.lower (Text.trim s))
  | raw => !raw.isEmpty

/-- A value as a whole number; a double loses its fraction. -/
def integerOf (name : String) (raw : Json) : Except Cause Int :=
  let fault := Cause.showing raw (.action (.notInteger name raw))
  match raw with
  | .bool b => .ok (if b then 1 else 0)
  | .int n => .ok n
  | .float x =>
    match x.truncate with
    | .ok n => .ok n
    | .error .infinite => .error .infinityToWhole
    | .error .notANumber => .error fault
  | .text s =>
    match Integer.read s with
    | .ok n => .ok n
    | .error _ => .error fault
  | _ => .error fault

/-- The keys of a value: a list of them, or a text with separators between them. -/
def keysOf (raw : Json) : Except Cause (List String) :=
  match raw with
  | .text s =>
    .ok (((Text.splitOn s (fun c => c == '+' || c == ',')).filter
      (fun part => !Text.isEmptyOrBlank part)).map Key.normalize)
  | .list items => items.mapM (fun item => (Json.asText item).map Key.normalize)
  | _ => .error (Cause.showing raw (.action (.notKeys raw)))

/-! ## Fields by type -/

def text (source : Source) (name current : String) : Except Cause String :=
  orElse source name current Json.asText

def integer (source : Source) (name : String) (current : Int) : Except Cause Int :=
  orElse source name current (integerOf name)

def bool (source : Source) (name : String) (current : Bool) : Except Cause Bool :=
  orElse source name current (fun raw => .ok (boolOf raw))

def word {α : Type} [Vocabulary α] (source : Source) (name : String) (current : α) :
    Except Cause α :=
  orElse source name current Vocabulary.read

def keys (source : Source) (name : String) (current : List String) : Except Cause (List String) :=
  orElse source name current keysOf

end Field
end DesktopMacro
