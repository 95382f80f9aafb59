/-
JSON values: what a document holds once it is read and before it is written.

Whole numbers are exact and unbounded, other numbers are doubles, and the members of an object keep
the order in which their names first appeared. A name occurs once: putting a member under a name
that is taken replaces the value where it stands. The two functions that look into an object,
`member?` and `putMember`, work on the list of members, because most of what the library reads is a
list of members whose names mean something.
-/
import DesktopMacro.Number.Binary64

set_option autoImplicit false

namespace DesktopMacro

/-- A JSON value. -/
inductive Json where
  | null
  | bool (b : Bool)
  | int (n : Int)
  | float (x : Binary64)
  | text (s : String)
  | list (items : List Json)
  | object (members : List (String × Json))
deriving Inhabited

/-- The members of an object, in order. -/
abbrev Members := List (String × Json)

namespace Members

/-- The value under a name. -/
def get? (members : Members) (name : String) : Option Json :=
  (members.find? (fun entry => entry.1 == name)).map Prod.snd

/-- Is there a member of that name? -/
def has (members : Members) (name : String) : Bool := members.any (fun entry => entry.1 == name)

/-- The members with a value under a name: replaced in its place, or added at the end. -/
def put : Members → String → Json → Members
  | [], name, value => [(name, value)]
  | entry :: rest, name, value =>
    if entry.1 == name then (name, value) :: rest else entry :: put rest name value

/-- The members without those of a name. -/
def drop (members : Members) (name : String) : Members :=
  members.filter (fun entry => entry.1 != name)

end Members

namespace Json

/-- The value under a name, if this is an object that has one. -/
def member? (name : String) : Json → Option Json
  | object members => Members.get? members name
  | _ => none

/-- A value that counts as nothing: null, false, a zero, and the empty text, list and object. -/
def isEmpty : Json → Bool
  | null => true
  | bool b => !b
  | int n => n == 0
  | float x => x.isZero
  | text s => s.isEmpty
  | list items => items.isEmpty
  | object members => members.isEmpty

def isNull : Json → Bool
  | null => true
  | _ => false

/-- The word for a kind of value, as messages give it. -/
def kindName : Json → String
  | null => "NoneType"
  | bool _ => "bool"
  | int _ => "int"
  | float _ => "float"
  | text _ => "str"
  | list _ => "list"
  | object _ => "dict"

end Json
end DesktopMacro
