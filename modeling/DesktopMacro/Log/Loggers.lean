/-
Loggers: sources of messages with names, in a hierarchy.

A logger comes into being when its name is first used. The beginnings of its name that end before a
dot are the names of the loggers that can stand above it, and of those that are there the longest
becomes its parent; where none is there the root does. A name that was looked for and not found is
remembered with the loggers below it, and a logger that comes later under that name becomes their
parent, unless the name of the parent that they have starts with its own. Of two dots side by side
only the last is looked at.

A message goes through if its level is not below that of its logger, which is that of its nearest
ancestor if it has none of its own. It then reaches what is attached to its logger and to every
ancestor. Whether a level goes through is found out once and kept until something is attached.
-/
import DesktopMacro.Note
import DesktopMacro.Text.Pieces

set_option autoImplicit false

namespace DesktopMacro

/-- A logger: its parent, unless it is the root, its own level, and what is attached to it, by
number. -/
structure Logger where
  name : String
  parent : Option String
  level : Option Int
  attached : List Nat
deriving DecidableEq, Repr

/-- The loggers that are there, the names that are waited for with the loggers below them, the
levels that were looked at with what was found, and how many things were ever attached. -/
structure Loggers where
  known : List Logger
  awaited : List (String × List String)
  decided : List ((String × Int) × Bool)
  serial : Nat
deriving DecidableEq, Repr

namespace Loggers

/-- The name of the logger above all others. -/
def rootName : String := "root"

/-- The level of the logger above all others. -/
def rootLevel : Int := 30

/-- The level below which what is attached takes no messages. -/
def lowestLevel : Int := 10

/-- The root alone. -/
def initial : Loggers := ⟨[⟨rootName, none, some rootLevel, []⟩], [], [], 0⟩

/-- The name of a logger without other names for it. -/
def canonical (name : String) : String := if name.isEmpty then rootName else name

/-- The logger of a name. -/
def find? (loggers : Loggers) (name : String) : Option Logger :=
  loggers.known.find? (fun logger => logger.name == name)

/-! ## The hierarchy -/

/-- The beginnings of a name that end before a dot, longest first. The name is given from its last
character on. The character before a dot is never taken for another dot. -/
def cuts : List Char → List String
  | [] => []
  | ['.'] => []
  | '.' :: c :: before => String.ofList (c :: before).reverse :: cuts before
  | _ :: before => cuts before

/-- A logger waits for one of a name. -/
def await (logger : String) : List (String × List String) → String → List (String × List String)
  | [], name => [(name, [logger])]
  | entry :: entries, name =>
    if entry.1 == name then
      (name, if entry.2.contains logger then entry.2 else entry.2 ++ [logger]) :: entries
    else entry :: await logger entries name

/-- The parent of a new logger among the names that can stand above it; those before it are waited
for. -/
def parentIn (loggers : Loggers) (name : String) : List String → String × Loggers
  | [] => (rootName, loggers)
  | above :: more =>
    if (loggers.find? above).isSome then (above, loggers)
    else parentIn { loggers with awaited := await name loggers.awaited above } name more

/-- Makes a new logger the parent of one below it, unless that has a nearer one. -/
def adopt (name : String) (logger : Logger) : Logger :=
  if (logger.parent.map (Text.startsWith · name)).getD true then logger
  else { logger with parent := some name }

/-- The loggers with one of a name. -/
def demand (loggers : Loggers) (name : String) : Loggers :=
  if (loggers.find? name).isSome then loggers
  else
    let below := ((loggers.awaited.find? (fun entry => entry.1 == name)).map Prod.snd).getD []
    let known := loggers.known.map (fun logger =>
      if below.contains logger.name then adopt name logger else logger)
    let awaited := loggers.awaited.filter (fun entry => entry.1 != name)
    let (parent, loggers) :=
      parentIn { loggers with known, awaited } name (cuts name.toList.reverse)
    { loggers with known := loggers.known ++ [⟨name, some parent, none, []⟩] }

/-- A logger and its ancestors, at most so many. -/
def lineage (loggers : Loggers) : (most : Nat) → (name : String) → List Logger
  | 0, _ => []
  | most + 1, name =>
    match loggers.find? name with
    | none => []
    | some logger =>
      logger :: (logger.parent.map (loggers.lineage most)).getD []

/-- A logger and its ancestors, each of which is there once. -/
def chain (loggers : Loggers) (name : String) : List Logger :=
  loggers.lineage loggers.known.length name

/-- The level of a logger. -/
def levelOf (loggers : Loggers) (name : String) : Int :=
  ((loggers.chain name).findSome? Logger.level).getD rootLevel

/-! ## Attaching -/

/-- Attaches something to one logger and gives it a level; nothing is attached twice to the same
logger. What was found out about levels is forgotten. -/
def attachTo (loggers : Loggers) (serial : Nat) (level : Int) (name : String) : Loggers :=
  let name := canonical name
  let loggers := loggers.demand name
  { loggers with
    decided := []
    known := loggers.known.map (fun logger =>
      if logger.name == name then
        { logger with
          level := some level
          attached := if logger.attached.contains serial then logger.attached
            else logger.attached ++ [serial] }
      else logger) }

/-- Attaches something to loggers and gives them a level. -/
def attach (loggers : Loggers) (names : List String) (level : Int) : Loggers :=
  let after := names.foldl (fun loggers name => loggers.attachTo loggers.serial level name) loggers
  { after with serial := after.serial + 1 }

/-- The level for loggers whose messages go to a log. -/
def levelFor (verbose : Bool) : Int := if verbose then 10 else 20

/-! ## Messages -/

/-- Does a level go through at a logger? -/
def decide (loggers : Loggers) (name : String) (level : Int) : Bool × Loggers :=
  match loggers.decided.find? (fun entry => entry.1 == (name, level)) with
  | some entry => (entry.2, loggers)
  | none =>
    let passes := 0 < level && loggers.levelOf name ≤ level
    (passes, { loggers with decided := ((name, level), passes) :: loggers.decided })

/-- How often a message reaches something that is attached. -/
def reach (loggers : Loggers) (name : String) (level : Int) : Nat × Loggers :=
  let name := canonical name
  let (passes, loggers) := (loggers.demand name).decide name level
  if passes && lowestLevel ≤ level then
    (((loggers.chain name).flatMap (fun logger => logger.attached)).length, loggers)
  else (0, loggers)

end Loggers
end DesktopMacro
