/-
Notes: what the parts of the library tell whoever watches them, each with a level.

An operation that has something to tell returns its notes beside its result, in the order in which
they came up. `Noting` is for operations that can fail: what was noted before the failure stays.
-/
import DesktopMacro.Cause

set_option autoImplicit false

namespace DesktopMacro

/-- How serious a note is. -/
inductive Level where
  | debug
  | info
  | warning
  | error
deriving DecidableEq, Repr

/-- The word for a level. -/
def Level.word : Level → String
  | debug => "DEBUG"
  | info => "INFO"
  | warning => "WARNING"
  | error => "ERROR"

/-- A note. -/
structure Note where
  level : Level
  text : String
deriving DecidableEq, Repr

/-- A computation that may take notes and may fail; notes outlive the failure. -/
abbrev Noting (α : Type) := ExceptT Cause (StateM (List Note)) α

namespace Noting

/-- Takes notes. -/
def tell (notes : List Note) : Noting Unit := modify (· ++ notes)

/-- Takes the result of a computation without notes. -/
def lift {α : Type} (result : Except Cause α) : Noting α := ExceptT.mk (pure result)

/-- The result and the notes of a computation. -/
def run {α : Type} (computation : Noting α) : Except Cause α × List Note :=
  (ExceptT.run computation).run []

end Noting
end DesktopMacro
