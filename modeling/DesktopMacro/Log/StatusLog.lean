/-
The log of the program: a bounded history, the present status, and a file for each day.

An entry goes to the end of the history, and the oldest ones beyond the bound are dropped. It also
goes to the end of the file of the day, if there is a directory for such files; when that fails, the
history still has it. Whoever listens hears every entry. Diagnostic entries are kept only when the
log is verbose.
-/
import DesktopMacro.Files.Tree
import DesktopMacro.Log.Moment
import DesktopMacro.Note

set_option autoImplicit false

namespace DesktopMacro

/-- An entry of a log. -/
structure LogEntry where
  moment : Moment
  text : String
  level : String
deriving DecidableEq, Repr

namespace LogEntry

/-- An entry as it is shown. -/
def shown (entry : LogEntry) : String := s!"[{entry.moment.clock}] {entry.level}: {entry.text}"

/-- An entry as a line of a file. -/
def line (entry : LogEntry) : String := s!"{entry.moment.stamp} [{entry.level}] {entry.text}"

end LogEntry

/-- A log. -/
structure StatusLog where
  entries : List LogEntry
  /-- The bound on the history; zero is none. -/
  limit : Int
  status : String
  /-- Who listens, in the order in which they came. -/
  listeners : List String
  directory : Option Path
  filePrefix : String
  verbose : Bool

namespace StatusLog

/-- The usual bound on the history. -/
def usualLimit : Int := 1000

/-- The usual beginning of the names of log files. -/
def usualPrefix : String := "macro-sequencer"

/-- An empty log. -/
def empty (limit : Int) (directory : Option Path) (filePrefix : String) (verbose : Bool) :
    StatusLog :=
  { entries := [], limit, status := "Ready", listeners := [], directory, filePrefix, verbose }

/-! ## The history -/

/-- The last `count` members of a list: all of them for zero, and for a number below zero all but so
many at the front. -/
def lastOf {α : Type} (count : Int) (items : List α) : List α :=
  if count ≤ 0 then items.drop count.natAbs else items.drop (items.length - count.natAbs)

/-- A history within the bound. -/
def bounded (limit : Int) (entries : List LogEntry) : List LogEntry :=
  if limit < Int.ofNat entries.length then lastOf limit entries else entries

/-- The log with one more entry. -/
def push (log : StatusLog) (entry : LogEntry) : StatusLog :=
  { log with entries := bounded log.limit (log.entries ++ [entry]) }

/-- The last so many entries. -/
def recent (log : StatusLog) (count : Int) : List LogEntry := lastOf count log.entries

/-- Is an entry of a level kept? -/
def keeps (log : StatusLog) (level : String) : Bool := log.verbose || level != Level.debug.word

/-! ## Files -/

/-- The file of a day. -/
def fileOf? (log : StatusLog) (moment : Moment) : Option Path :=
  log.directory.map (fun directory =>
    directory.join (Path.ofText s!"{log.filePrefix}_{moment.date}.log"))

/-- Writes an entry to the end of the file of a day. -/
def appendTo (file : Path) (entry : LogEntry) : FileTree.Filing Unit := do
  FileTree.Filing.demand file.parent
  FileTree.Filing.change (·.append file.toText (Codec.encode (entry.line ++ "\n")))

/-- The files after an entry has gone to the file of the day, if there is one and that is possible.
A path that can be none is a failure. -/
def file (log : StatusLog) (entry : LogEntry) : FileTree.Filing Unit := do
  match log.fileOf? entry.moment with
  | none => return
  | some file =>
    let (result, after) := (ExceptT.run (appendTo file entry)).run (← get)
    set after
    match result with
    | .ok () | .error (.file _ _ _) => return
    | .error cause => throw cause

/-! ## Entries -/

/-- **Adds an entry.** The result is the log, and the entry if it was kept. -/
def add (log : StatusLog) (moment : Moment) (level text : String) :
    FileTree.Filing (StatusLog × Option LogEntry) := do
  if log.keeps level then
    let entry : LogEntry := ⟨moment, text, level⟩
    log.file entry
    return (log.push entry, some entry)
  else return (log, none)

/-- The level that a word stands for, in capital letters or not; a word that is none stands for
information. -/
def levelOf (word : String) : Level :=
  ([Level.debug, .info, .warning, .error].find? (fun level =>
    level.word == Text.upper word)).getD .info

/-- The level for the number of one. -/
def levelAt (number : Int) : Level :=
  if 40 ≤ number then .error
  else if 30 ≤ number then .warning
  else if 20 ≤ number then .info
  else .debug

/-- The log with another status, which still has to be added as an entry. -/
def withStatus (log : StatusLog) (status : String) : StatusLog := { log with status }

/-- What the clearing of the history leaves as its only entry. -/
def clearedText : String := "Log history cleared"

/-- The log without its history. -/
def cleared (log : StatusLog) : StatusLog := { log with entries := [] }

/-! ## Listeners -/

/-- Somebody listens from now on. -/
def listen (log : StatusLog) (name : String) : StatusLog :=
  { log with listeners := log.listeners ++ [name] }

/-- Somebody listens once less. -/
def unlisten (log : StatusLog) (name : String) : StatusLog :=
  { log with listeners := log.listeners.erase name }

/-! ## Export -/

/-- The text of an export. -/
def exportText (log : StatusLog) (moment : Moment) : String :=
  "Macro Sequencer - Log Export\n" ++ s!"Generated: {moment.full}\n"
    ++ String.ofList (List.replicate 50 '=') ++ "\n\n"
    ++ String.join (log.entries.map (fun entry => entry.line ++ "\n"))

/-- Exports the history to a file. The answer is the complaint, if that was not possible. -/
def exportTo (log : StatusLog) (moment : Moment) (path : String) :
    FileTree.Filing (Option String) := do
  match (← get).write path (Codec.encode (log.exportText moment)) with
  | .ok tree =>
    set tree
    return none
  | .error cause =>
    match cause with
    | .file _ _ _ => return some s!"Failed to export logs: {cause.text}"
    | cause => throw cause

end StatusLog
end DesktopMacro
