/-
Tolerant file tasks.

A file task that is tolerant and puts the text into a variable comes to one of three things. The
file is read, and then the variable holds its text and the other variables are as they were. It is
not, and the task puts up with the reason: that is logged, and all variables are as they were. Or
the task breaks, for a reason that it does not put up with, and all variables are as they were.

It puts up with whatever the system says of a file, and with bytes that form no character. There are
three reasons that it does not put up with: the path is to come from a variable whose number cannot
be written, the path is no path for the system at all, and a text in wide units lacks the mark of
its byte order.
-/
import DesktopMacro.Proofs.Files.Documents
import DesktopMacro.Proofs.Run.Course
import DesktopMacro.Proofs.Run.Habits
import DesktopMacro.Proofs.Variable.Setting
import DesktopMacro.Run.Rehearsal

set_option autoImplicit false

namespace DesktopMacro

variable {ω : Type}

/-! ## What is read, and what is not -/

namespace FileTask

/-- The path in the text field or in the variable of a file task. -/
def pathIn (task : FileTask) (store : Store) : Except Cause String :=
  match task.source with
  | .variable => do return Text.trim (← store.text task.variableName "")
  | _ => .ok task.path

/-- The text that a file task finds. -/
def Finds (task : FileTask) (team : Collaborators ω) (m : Machine ω) (text : String) : Prop :=
  ∃ path, task.pathIn m.store = .ok path ∧ path ≠ ""
    ∧ Run.fileText team task path m = .ok text

/-- **What not even a tolerant file task puts up with**: a path that cannot be written, a file that
cannot be opened for another reason than those of the system, and wide units without a mark. -/
inductive Breaks (task : FileTask) (team : Collaborators ω) (m : Machine ω) : Cause → Prop
  | path {cause : Cause} (hpath : task.pathIn m.store = .error cause) : Breaks task team m cause
  | opening {path : String} {cause : Cause} (hpath : task.pathIn m.store = .ok path)
      (hsome : path ≠ "") (hread : team.readFile path m.events m.world = .error cause)
      (htrouble : Run.isFileTrouble cause = false) : Breaks task team m cause
  | unmarked {path name : String} {bytes : List UInt8} (hpath : task.pathIn m.store = .ok path)
      (hsome : path ≠ "") (hread : team.readFile path m.events m.world = .ok bytes)
      (hdecode : Codec.decode task.encoding bytes = .error (.noByteOrder name)) :
      Breaks task team m (.noByteOrder name)

variable {task : FileTask} {team : Collaborators ω} {m : Machine ω} {path : String} {cause : Cause}

/-- The text of a file fails for its bytes, or for what they spell. -/
theorem breaks_of_fileText (hpath : task.pathIn m.store = .ok path) (hsome : path ≠ "")
    (hfile : Run.fileText team task path m = .error cause)
    (htrouble : Run.isFileTrouble cause = false) : task.Breaks team m cause := by
  unfold Run.fileText at hfile
  cases hread : team.readFile path m.events m.world with
  | error fault =>
    rw [hread] at hfile
    cases hfile
    exact .opening hpath hsome hread htrouble
  | ok bytes =>
    rw [hread] at hfile
    obtain hundecodable | ⟨name, rfl, -, -⟩ := Codec.failsFor_decode_marked _ _ cause hfile
    · cases cause with
      | undecodable fault => cases htrouble
      | _ => exact hundecodable.elim
    · exact .unmarked hpath hsome hread hfile

/-- A task breaks before its file is looked for, or in the reading of the file. -/
theorem Breaks.cases (h : task.Breaks team m cause) : task.pathIn m.store = .error cause
    ∨ ∃ path, task.pathIn m.store = .ok path ∧ path ≠ ""
      ∧ Run.fileText team task path m = .error cause ∧ Run.isFileTrouble cause = false := by
  cases h with
  | path hpath => exact .inl hpath
  | opening hpath hsome hread htrouble =>
    refine .inr ⟨_, hpath, hsome, ?_, htrouble⟩
    unfold Run.fileText
    rw [hread]
    rfl
  | unmarked hpath hsome hread hdecode =>
    refine .inr ⟨_, hpath, hsome, ?_, rfl⟩
    unfold Run.fileText
    rw [hread]
    exact hdecode

/-- **A file task puts up with what it meets**: it is told no path, or the file gives trouble. -/
def PutsUp (task : FileTask) (team : Collaborators ω) (m : Machine ω) : Prop :=
  task.pathIn m.store = .ok "" ∨ ∃ path cause, task.pathIn m.store = .ok path ∧ path ≠ ""
    ∧ Run.fileText team task path m = .error cause ∧ Run.isFileTrouble cause = true

/-- A file task finds a text, puts up with finding none, or breaks. -/
theorem finds_or (task : FileTask) (team : Collaborators ω) (m : Machine ω) :
    (∃ text, task.Finds team m text) ∨ task.PutsUp team m ∨ ∃ cause, task.Breaks team m cause := by
  cases hpath : task.pathIn m.store with
  | error cause => exact .inr (.inr ⟨cause, .path hpath⟩)
  | ok path =>
    by_cases hsome : path = ""
    · exact .inr (.inl (.inl (hpath.trans (congrArg _ hsome))))
    · cases hfile : Run.fileText team task path m with
      | ok text => exact .inl ⟨text, path, hpath, hsome, hfile⟩
      | error cause =>
        cases htrouble : Run.isFileTrouble cause with
        | true => exact .inr (.inl (.inr ⟨path, cause, hpath, hsome, hfile, htrouble⟩))
        | false => exact .inr (.inr ⟨cause, breaks_of_fileText hpath hsome hfile htrouble⟩)

/-- What breaks a task on the files of a tree. -/
theorem Breaks.of_tree (h : task.Breaks team m cause) {tree : FileTree}
    (htree : ∀ path, team.readFile path m.events m.world = tree.read path) :
    task.pathIn m.store = .error cause
      ∨ (∃ path, task.pathIn m.store = .ok path ∧ cause = .zeroInPath ∧ '\x00' ∈ path.toList)
      ∨ ∃ path bytes name, task.pathIn m.store = .ok path ∧ tree.read path = .ok bytes
          ∧ cause = .noByteOrder name ∧ bytes ≠ [] ∧ ¬ Codec.IsMarked task.encoding bytes := by
  cases h with
  | path hpath => exact .inl hpath
  | opening hpath hsome hread htrouble =>
    rw [htree] at hread
    have hrefuses := tree.failsFor_read _ cause hread
    cases cause with
    | file fault path target => cases htrouble
    | zeroInPath => exact .inr (.inl ⟨_, hpath, rfl, hrefuses⟩)
    | _ => exact hrefuses.elim
  | unmarked hpath hsome hread hdecode =>
    rw [htree] at hread
    obtain hundecodable | ⟨name, hname, hbytes, hunmarked⟩ :=
      Codec.failsFor_decode_marked _ _ _ hdecode
    · exact hundecodable.elim
    · exact .inr (.inr ⟨_, _, name, hpath, hread, hname, hbytes, hunmarked⟩)

end FileTask

/-! ## The task -/

namespace Run

variable {team : Collaborators ω} {task : FileTask} {m m' : Machine ω} {path : String}
  {cause : Cause}

theorem on_store_bind {α : Type} (f : Store → Run ω α) (m : Machine ω) :
    (store >>= f).on m = (f m.store).on m := rfl

/-- The path is there, or the task fails before it has looked for a file. -/
theorem on_filePath (hsource : task.source ≠ .clipboard) (m : Machine ω) :
    (filePath team task).on m = (ofExcept (task.pathIn m.store)).on m := by
  unfold filePath FileTask.pathIn
  match hs : task.source with
  | .text => rfl
  | .clipboard => exact absurd hs hsource
  | .variable =>
    dsimp only
    rw [on_store_bind]
    cases m.store.text task.variableName "" <;> rfl

theorem on_ofExcept_error {α : Type} (cause : Cause) (m : Machine ω) :
    (ofExcept (.error cause : Except Cause α)).on m
      = (.error (.failed cause none), m.mark (.failed (.failed cause none))) := rfl

/-- Setting a variable ends well, with the variable set. -/
theorem on_setVariable (hframes : m.frames ≠ []) (name text : String)
    (kind : Option Variable.Kind) : ∃ m', (setVariable name text kind).on m = (.ok (), m')
      ∧ m'.store = (m.store.set name text kind).1 := by
  refine ⟨_, rfl, ?_⟩
  have hmarked : (m.mark .stored).frames ≠ [] := hframes
  exact Machine.store_putStore hmarked _

variable {action : Action}

/-- A task whose path cannot be written fails at once. -/
theorem on_runFile_of_path_error (hsource : task.source ≠ .clipboard)
    (hpath : task.pathIn m.store = .error cause) :
    ∃ f m', (runFile team action task).on m = (.error f, m') ∧ m'.store = m.store := by
  have hfile : (filePath team task).on m = _ := on_filePath hsource m
  rw [hpath, on_ofExcept_error] at hfile
  exact ⟨_, _, on_bind_error hfile, rfl⟩

/-- With a path the task goes on to the file, and nothing has happened so far. -/
theorem on_runFile_of_path (hsource : task.source ≠ .clipboard)
    (hpath : task.pathIn m.store = .ok path) :
    (runFile team action task).on m =
      (if path.isEmpty then
        log s!"File action: empty file path from {Vocabulary.word task.source}" .error
      else useText team action task path (fileText team task path m)).on m := by
  have hfile : (filePath team task).on m = (.ok path, m) := by
    rw [on_filePath hsource, hpath]
    rfl
  unfold runFile
  rw [on_bind_ok hfile]
  by_cases hempty : path.isEmpty = true
  · rw [if_pos hempty, if_pos hempty]
  · rw [if_neg hempty, if_neg hempty, on_get_bind]
    rfl

/-- Logging ends well and leaves the variables alone. -/
theorem on_log_store (text : String) (level : Level) (m : Machine ω) :
    ∃ m', (log text level : Run ω Unit).on m = (.ok (), m') ∧ m'.store = m.store :=
  ⟨_, on_log text level m, by simp⟩

/-- A text that is found goes into the variable. -/
theorem on_runFile_of_finds (hframes : m.frames ≠ []) (hsource : task.source ≠ .clipboard)
    (hdestination : task.destination = .variable) {text : String}
    (hfinds : task.Finds team m text) :
    ∃ m', (runFile team action task).on m = (.ok (), m')
      ∧ m'.store = (m.store.set task.target text (some .text)).1 := by
  obtain ⟨path, hpath, hsome, hfile⟩ := hfinds
  rw [on_runFile_of_path hsource hpath, if_neg (by simpa using hsome), hfile]
  obtain ⟨m₁, hset, hstore⟩ := on_setVariable hframes task.target text (some .text)
  obtain ⟨m₂, hlog, hkept⟩ :=
    on_log_store s!"File action completed: read '{FileTask.baseName path}'" .info m₁
  refine ⟨m₂, ?_, hkept.trans hstore⟩
  simp only [useText, deliver, hdestination]
  rw [on_bind_ok hset, hlog]

/-- A tolerant task that puts up with what it meets goes on. -/
theorem on_runFile_of_putsUp (hsource : task.source ≠ .clipboard)
    (htolerant : task.tolerant = true) (hputsUp : task.PutsUp team m) :
    ∃ m', (runFile team action task).on m = (.ok (), m') ∧ m'.store = m.store := by
  obtain hpath | ⟨path, cause, hpath, hsome, hfile, htrouble⟩ := hputsUp
  · rw [on_runFile_of_path hsource hpath, if_pos (by decide)]
    exact on_log_store _ _ m
  · rw [on_runFile_of_path hsource hpath, if_neg (by simpa using hsome), hfile]
    simp only [useText, htrouble, htolerant]
    exact on_log_store _ _ m

/-- A task that breaks fails, and leaves the variables alone. -/
theorem on_runFile_of_breaks (hsource : task.source ≠ .clipboard)
    (hbreaks : task.Breaks team m cause) :
    ∃ f m', (runFile team action task).on m = (.error f, m') ∧ m'.store = m.store := by
  obtain hpath | ⟨path, hpath, hsome, hfile, htrouble⟩ := hbreaks.cases
  · exact on_runFile_of_path_error hsource hpath
  · refine ⟨.failed cause none, m.mark (.failed (.failed cause none)), ?_, rfl⟩
    rw [on_runFile_of_path hsource hpath, if_neg (by simpa using hsome), hfile]
    simp only [useText, htrouble]
    rfl

/-! ## The action -/

/-- The words for a file task show no number. -/
theorem describe?_file (header : Action.Header) (task : FileTask) :
    (Action.task header (.file task)).describe? = .ok task.describe :=
  if_pos fun _ hn => absurd hn List.not_mem_nil

/-- What a frame keeps of a place never makes a file task another one. -/
theorem on_currentAction_file (place : Place) (header : Action.Header) (task : FileTask)
    (m : Machine ω) : ∃ header', (currentAction place (.task header (.file task))).on m
      = (.ok (.task header' (.file task)), m) := by
  have hunchanged : ∀ change : Change, change.apply (.file task) = .file task := by
    intro change
    cases change <;> rfl
  obtain ⟨header', hcurrent, -, -⟩ := on_current_of_unchanged place header hunchanged m
  exact ⟨header', on_bind_ok hcurrent⟩

variable {place : Place} {header : Action.Header} {work : Run ω Unit} {f : Failure}

/-- What ends well is done. -/
theorem on_execute_of_ok (hwork : work.on m = (.ok (), m')) :
    (execute place (.task header (.file task)) work).on m = (.ok (), m') := by
  simp only [execute, describe?_file, ofExcept, pure_bind]
  rw [on_outcome_bind, hwork]
  rfl

/-- What fails fails in one name or the other, and leaves the variables alone. -/
theorem on_execute_of_error (hwork : work.on m = (.error f, m')) :
    ∃ f' m₁, (execute place (.task header (.file task)) work).on m = (.error f', m₁)
      ∧ m₁.store = m'.store := by
  simp only [execute, describe?_file, ofExcept, pure_bind]
  rw [on_outcome_bind, hwork]
  dsimp only
  split
  · exact ⟨f, m', rfl, rfl⟩
  · obtain ⟨header', hcurrent⟩ := on_currentAction_file place header task m'
    rw [on_bind_ok hcurrent]
    simp only [describe?_file, pure_bind]
    exact ⟨_, _, rfl, rfl⟩

/-- **A tolerant file task that puts a text into a variable never harms the variables**, and fails
only if it breaks. If it finds no text, for whatever reason, the variables are as they were. If it
finds one, it ends well, the variable is a text with all of it, and the other variables are as they
were. Where the files are those of a tree, it breaks only because the number in a variable cannot be
written, because there is a zero in the path, or because a text in wide units is not marked. -/
theorem on_tolerant_file (team : Collaborators ω) (lookup : Option (Lookup ω)) (place : Place)
    (header : Action.Header) {task : FileTask} (htolerant : task.tolerant = true)
    (hdestination : task.destination = .variable) (hsource : task.source ≠ .clipboard)
    {m : Machine ω} (hframes : m.frames ≠ []) :
    let after := (execute place (.task header (.file task))
      (runTask team lookup place header (.file task))).on m
    ((∃ f, after.1 = .error f) ↔ ∃ cause, task.Breaks team m cause)
      ∧ ((∀ text, ¬ task.Finds team m text) → after.2.store = m.store)
      ∧ (∀ text, task.Finds team m text → after.1 = .ok ()
          ∧ (∃ v : Variable, after.2.store.find? task.target = some v ∧ v.value = .text text)
          ∧ ∀ other, other ≠ task.target → after.2.store.find? other = m.store.find? other)
      ∧ ∀ tree : FileTree, (∀ path, team.readFile path m.events m.world = tree.read path) →
          ∀ cause, task.Breaks team m cause →
            task.pathIn m.store = .error cause
              ∨ (∃ path, task.pathIn m.store = .ok path ∧ cause = .zeroInPath
                  ∧ '\x00' ∈ path.toList)
              ∨ ∃ path bytes name, task.pathIn m.store = .ok path ∧ tree.read path = .ok bytes
                  ∧ cause = .noByteOrder name ∧ bytes ≠ []
                  ∧ ¬ Codec.IsMarked task.encoding bytes := by
  intro after
  have hfound (text : String) (hfinds : task.Finds team m text) :
      ∃ m', after = (.ok (), m') ∧ m'.store = (m.store.set task.target text (some .text)).1 := by
    obtain ⟨m', hrun, hstore⟩ := on_runFile_of_finds hframes hsource hdestination hfinds
    exact ⟨m', on_execute_of_ok hrun, hstore⟩
  have hmissed (hputsUp : task.PutsUp team m) :
      ∃ m', after = (.ok (), m') ∧ m'.store = m.store := by
    obtain ⟨m', hrun, hstore⟩ := on_runFile_of_putsUp hsource htolerant hputsUp
    exact ⟨m', on_execute_of_ok hrun, hstore⟩
  have hbroken (cause : Cause) (hbreaks : task.Breaks team m cause) :
      ∃ f m', after = (.error f, m') ∧ m'.store = m.store := by
    obtain ⟨f, m', hrun, hstore⟩ := on_runFile_of_breaks hsource hbreaks
    obtain ⟨f', m₁, hexecute, hkept⟩ := on_execute_of_error hrun
    exact ⟨f', m₁, hexecute, hkept.trans hstore⟩
  refine ⟨⟨?fails, ?breaks⟩, ?lost, ?found, fun tree htree cause hbreaks => hbreaks.of_tree htree⟩
  case fails =>
    rintro ⟨f, hf⟩
    obtain ⟨text, hfinds⟩ | hputsUp | hbreaks := task.finds_or team m
    · obtain ⟨m', hafter, -⟩ := hfound text hfinds
      rw [hafter] at hf
      cases hf
    · obtain ⟨m', hafter, -⟩ := hmissed hputsUp
      rw [hafter] at hf
      cases hf
    · exact hbreaks
  case breaks =>
    rintro ⟨cause, hbreaks⟩
    obtain ⟨f, m', hafter, -⟩ := hbroken cause hbreaks
    exact ⟨f, congrArg Prod.fst hafter⟩
  case lost =>
    intro hlost
    obtain ⟨text, hfinds⟩ | hputsUp | ⟨cause, hbreaks⟩ := task.finds_or team m
    · exact absurd hfinds (hlost text)
    · obtain ⟨m', hafter, hstore⟩ := hmissed hputsUp
      rw [hafter, hstore]
    · obtain ⟨f, m', hafter, hstore⟩ := hbroken cause hbreaks
      rw [hafter, hstore]
  case found =>
    intro text hfinds
    obtain ⟨m', hafter, hstore⟩ := hfound text hfinds
    rw [hafter, hstore]
    exact ⟨rfl, m.store.find?_set_text task.target text,
      fun other hother => m.store.find?_set_of_ne hother text _⟩

/-! ### The file of a letter in two bytes -/

/-- A file with the letter a in two bytes, the low one first, and no mark before it. -/
def letterFile : FileTree := FileTree.empty.plant ["a.txt"] (.file [0x61, 0x00])

/-- A sequence with a variable is running beside the file. -/
def besideLetter : Machine Rehearsal :=
  { Machine.initial { Rehearsal.empty with files := letterFile } ⟨[]⟩ with
    frames := [⟨"s", none, ⟨[⟨"n", .number (.whole 7), ""⟩]⟩, []⟩] }

/-- Reads the file into a variable, in an encoding. -/
def letterTask (encoding : FileEncoding) : FileTask :=
  { FileTask.initial with path := "a.txt", target := "c", encoding }

/-- In single bytes the file holds the letter and a zero, and the number stays. -/
theorem on_tolerant_file_letter :
    let after := (execute [0] (.task (.initial "") (.file (letterTask .utf8)))
      (runTask (Rehearsal.team false "") none [0] (.initial "") (.file (letterTask .utf8)))).on
      besideLetter
    (letterTask .utf8).tolerant = true ∧ after.1 = .ok ()
      ∧ (∃ v : Variable, after.2.store.find? "c" = some v ∧ v.value = .text "a\x00")
      ∧ after.2.store.find? "n" = besideLetter.store.find? "n" := by
  have hfinds : (letterTask .utf8).Finds (Rehearsal.team false "") besideLetter "a\x00" :=
    ⟨"a.txt", rfl, by decide, rfl⟩
  obtain ⟨-, -, hfound, -⟩ := on_tolerant_file (Rehearsal.team false "") none [0] (.initial "")
    (show (letterTask .utf8).tolerant = true from rfl) rfl (by decide)
    (show besideLetter.frames ≠ [] by decide)
  obtain ⟨hok, hvariable, hothers⟩ := hfound "a\x00" hfinds
  exact ⟨rfl, hok, hvariable, hothers "n" (by decide)⟩

/-- **Not even a tolerant file task puts up with wide units that are not marked.** -/
theorem unmarked_not_put_up_with :
    ∃ f, ((execute [0] (.task (.initial "") (.file (letterTask .utf16)))
      (runTask (Rehearsal.team false "") none [0] (.initial "") (.file (letterTask .utf16)))).on
      besideLetter).1 = .error f ∧ f.text =
        "Read File: a.txt into Variable: c: UTF-16 stream does not start with BOM" :=
  ⟨_, rfl, by decide⟩

end Run
end DesktopMacro
