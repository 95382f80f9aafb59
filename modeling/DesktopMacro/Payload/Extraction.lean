/-
A payload out of free text.

The candidates of the text are tried in turn. Each one is read with its control characters escaped
in one pass; failing that, with its string literals repaired one by one; failing that, with one
more repair at the place where the last reading stopped. The first that can be read is the payload.
A number too long to be read ends the search at once, for no repair would make it shorter, and so
does a value that stands too deep inside others.
-/
import DesktopMacro.Payload.Brackets
import DesktopMacro.Payload.Relaxed
import DesktopMacro.Payload.Repair

set_option autoImplicit false

namespace DesktopMacro

/-- A payload: its text as it was read, the document in it, and the place of a repair that was
needed in the end. -/
structure Payload where
  text : String
  document : Json
  repairedAt : Option Json.Place

namespace Payload

/-- Why no payload was found. -/
inductive Fault where
  /-- The text holds no candidate. -/
  | noCandidate
  /-- No candidate could be made readable; this was the last complaint. -/
  | unreadable (what : Json.Complaint) (place : Json.Place)
  /-- A number has this many digits, which is more than can be read. -/
  | numberTooLong (count : Nat)
  /-- Lists or objects stand too deep inside one another. -/
  | tooDeep (holder : Json.Holder)
deriving DecidableEq, Repr

/-- What became of one candidate. -/
inductive Attempt where
  | found (payload : Payload)
  | complaint (what : Json.Complaint) (place : Json.Place)
  | refused (fault : Fault)

/-- Reads a text as it is. -/
def attemptRead (text : List Char) (repairedAt : Option Json.Place) : Attempt :=
  match readRelaxed text with
  | .ok document => .found ⟨String.ofList text, document, repairedAt⟩
  | .error (.complaint what place) => .complaint what place
  | .error (.numberTooLong count) => .refused (.numberTooLong count)
  | .error (.tooDeep holder) => .refused (.tooDeep holder)

/-- Tries a candidate in its three forms. -/
def attempt (candidate : List Char) : Attempt :=
  match attemptRead (sanitize candidate) none with
  | .complaint _ _ =>
    match attemptRead (repairStrings candidate) none with
    | .complaint what place =>
      match repairAt? (repairStrings candidate) place.line place.column with
      | some repaired => attemptRead repaired (some place)
      | none => .complaint what place
    | done => done
  | done => done

/-- Tries candidates in turn. -/
def extractFrom (failed : Fault) : List (List Char) → Except Fault Payload
  | [] => .error failed
  | candidate :: more =>
    match attempt candidate with
    | .found payload => .ok payload
    | .complaint what place => extractFrom (.unreadable what place) more
    | .refused fault => .error fault

/-- The payload of a text. -/
def extract (text : String) : Except Fault Payload :=
  extractFrom .noCandidate (candidates text.toList)

end Payload
end DesktopMacro
