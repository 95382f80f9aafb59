/-
The variables of a sequence.

A store holds its variables in the order in which their names first came up, one to a name. Every
operation on a variable that is not there yet makes it, with the type that the operation works on;
an operation on a variable of another type converts it first, which starts it over, except that text
appended to a number or a truth value goes after its text.
-/
import DesktopMacro.Variable.Basic

set_option autoImplicit false

namespace DesktopMacro

/-- The variables of a sequence, in order. -/
structure Store where
  entries : List Variable
deriving DecidableEq, Repr

namespace Store

def empty : Store := ⟨[]⟩

/-! ## Looking -/

/-- The variable of a name. -/
def find? (store : Store) (name : String) : Option Variable :=
  store.entries.find? (fun v => v.name == name)

def contains (store : Store) (name : String) : Bool := (store.find? name).isSome

def size (store : Store) : Nat := store.entries.length

def names (store : Store) : List String := store.entries.map Variable.name

/-- The text of a variable, or a text to go by where there is none. -/
def text (store : Store) (name fallback : String) : Except Cause String :=
  match store.find? name with
  | some v => v.value.show?
  | none => .ok fallback

/-- The names with the texts of the variables. -/
def snapshot (store : Store) : Except Cause (List (String × String)) :=
  store.entries.mapM (fun v => do return (v.name, ← v.value.show?))

/-! ## Changing -/

/-- Puts a variable in the place of the one with its name, or at the end. -/
def putInto : List Variable → Variable → List Variable
  | [], v => [v]
  | w :: ws, v => if w.name == v.name then v :: ws else w :: putInto ws v

/-- The store with a variable put under its name. -/
def put (store : Store) (v : Variable) : Store := ⟨putInto store.entries v⟩

/-- The variable of a name with a type: converted if it had another, made if there was none. -/
def demand (store : Store) (name : String) (kind : Variable.Kind) : Variable :=
  match store.find? name with
  | some v => v.ensureKind kind
  | none => Variable.blank name kind

/-- Gives a variable the value that a text stands for, in a type that is given or inferred. -/
def set (store : Store) (name text : String) (kind : Option Variable.Kind) :
    Store × Variable × List Note :=
  let (v, notes) := (store.demand name (kind.getD (Variable.inferKind text))).assign text
  (store.put v, v, notes)

/-- Adds to a number variable, if there is one. -/
def increment? (store : Store) (name : String) (delta : Quantity) :
    Except Cause (Option (Store × Variable)) :=
  match store.find? name with
  | some v =>
    match v.value with
    | .number n => do
      let v := v.withValue (.number (← n.add delta))
      return some (store.put v, v)
    | _ => .ok none
  | none => .ok none

/-- The note on a variable that holds what was to be added to it. -/
def createdNote (store : Store) (name : String) (delta : Quantity) : Note :=
  let shown := delta.toJson.display
  ⟨.info,
    if store.contains name then
      s!"Variable {name} converted to number variable and set to {shown}"
    else s!"New number variable {name} created with value {shown}"⟩

/-- Adds to a number variable; any other becomes a number variable that holds what was to be
added. -/
def incrementOrCreate (store : Store) (name : String) (delta : Quantity) :
    Except Cause (Store × Variable × List Note) := do
  match ← store.increment? name delta with
  | some (store, v) => return (store, v, [])
  | none =>
    let v := (store.demand name .number).withValue (.number delta)
    return (store.put v, v, [store.createdNote name delta])

/-- Appends to the text of a variable, whatever its type; it is a text variable afterwards. -/
def appendText (store : Store) (name addition : String) : Except Cause (Store × Variable) := do
  let front ← store.text name ""
  let v := (store.demand name .text).withValue (.text (front ++ addition))
  return (store.put v, v)

/-- Gives a variable the blank value of its type. -/
def clear (store : Store) (name : String) : Store × Variable :=
  let v :=
    match store.find? name with
    | some v => v.convert v.kind
    | none => Variable.blank name .text
  (store.put v, v)

/-- Changes a variable that was brought to a type. -/
def update (store : Store) (name : String) (kind : Variable.Kind)
    (change? : Variable → Option Variable) : Store × Variable :=
  let v := store.demand name kind
  let v := (change? v).getD v
  (store.put v, v)

/-- Adds an item to a list variable. -/
def appendItem (store : Store) (name item : String) : Store × Variable :=
  store.update name .list (Variable.appendItem? · item)

/-- Adds a row to a list variable that is used as a table. -/
def appendRow (store : Store) (name row : String) : Store × Variable :=
  store.update name .list (Variable.appendRow? · row)

/-- Empties a list variable. -/
def clearList (store : Store) (name : String) : Store × Variable :=
  store.update name .list Variable.clearList?

/-- Turns a truth value around. -/
def toggle (store : Store) (name : String) : Store × Variable :=
  store.update name .boolean Variable.toggle?

/-- Takes an item out of a list variable, if there is such an item. -/
def removeAt? (store : Store) (name : String) (index : Int) : Option Store := do
  let v ← store.find? name
  let v ← v.removeAt? index
  return store.put v

/-- Takes a variable out, if it is there. -/
def remove? (store : Store) (name : String) : Option Store :=
  if store.contains name then some ⟨store.entries.filter (fun v => v.name != name)⟩ else none

/-! ## Documents -/

/-- The store with variables put into it one by one. -/
def ofVariables (given : List Variable) : Store := given.foldl put empty

/-- The variables as a document holds them. -/
def toJson (store : Store) : Json := .list (store.entries.map Variable.toJson)

/-- Reads a variable, unless it is no object or has no name. -/
def readVariable : Json → Noting (Option Variable)
  | .object members =>
    if ((Members.get? members "name").getD .null).isEmpty then pure none
    else do return some (← Variable.read members)
  | _ => pure none

/-- Reads the variables of a sequence; anything but a list of them gives none. -/
def read (raw : Json) : Noting Store :=
  match raw with
  | .list items => do return ofVariables ((← items.mapM readVariable).filterMap id)
  | _ => pure empty

end Store
end DesktopMacro
