/-
What the log holds.

A log is asked one thing after another: to take an entry, to tell a status, to forget its history,
to be verbose or not. Which entries it accepts depends on that alone, and everybody who listens
hears each of them once. The history is the newest of those accepted since it was last cleared, up
to the bound, and what is recent is the newest of the history.

Both are cut off in one way, which has two readings at zero. The last no entries are none; but what
is cut off there is nothing. So a history that is to be kept down to no entries keeps them all, and
who asks for no recent entries is told all of them.

An entry also goes to the file of the day. The system may refuse the file, and the log puts up with
that: the history has the entry all the same. What it does not put up with is a path that can be
none, because a zero stands in it. As long as there is no zero in the directory and in the beginning
of the names, every command ends well, whatever there is in the file system.
-/
import Mathlib.Data.List.DropRight
import DesktopMacro.Proofs.Files.Documents
import DesktopMacro.Proofs.Files.Paths
import DesktopMacro.Proofs.Json.Writing
import DesktopMacro.Session.Console

set_option autoImplicit false

namespace DesktopMacro

/-! ## What the system refuses -/

/-- The cause tells that the system refuses a file. -/
def Cause.IsOfFile : Cause → Prop
  | .file _ _ _ => True
  | _ => False

namespace FileTree

variable {path : String}

theorem RefusesPath.isOfFile (hzero : '\x00' ∉ path.toList) {cause : Cause}
    (h : RefusesPath path cause) : cause.IsOfFile := by
  cases cause with
  | file fault path target => exact trivial
  | zeroInPath => exact absurd h hzero
  | _ => exact h.elim

namespace Filing

theorem runFailsFor_find {cause : Cause} (hcause : cause.IsOfFile) :
    RunFailsFor Cause.IsOfFile (do
      if (← get).isDirectory path then return else throw cause : Filing Unit) := by
  refine runFailsFor_get_bind fun tree => ?_
  split
  · exact runFailsFor_pure _ _
  · exact runFailsFor_throw hcause

theorem runFailsFor_makeOrFind (hzero : '\x00' ∉ path.toList) : RunFailsFor Cause.IsOfFile (do
    match (← get).makeDirectory path with
    | .ok tree => set tree
    | .error cause => if (← get).isDirectory path then return else throw cause : Filing Unit) := by
  refine runFailsFor_get_bind fun tree => ?_
  split
  · exact runFailsFor_set _ _
  · next cause hmake =>
    exact runFailsFor_find ((tree.failsFor_makeDirectory _ cause hmake).isOfFile hzero)

/-- **No directory is had** only because the system refuses one. The parts are given last one
first, and each step leaves one out. -/
theorem runFailsFor_demandDirectory {root : String} {parts : List String}
    (h : (Path.mk root parts).HasNoZero) :
    RunFailsFor Cause.IsOfFile (demandDirectory root parts) := by
  induction parts with
  | nil => exact runFailsFor_makeOrFind h.toText
  | cons part parts ih =>
    have hpath : '\x00' ∉ (Path.mk root (part :: parts).reverse).toText.toList :=
      (h.withParts (List.reverse_perm _).subset).toText
    unfold demandDirectory
    refine runFailsFor_get_bind fun tree => ?_
    split
    · exact runFailsFor_set _ _
    · have habove := ih (h.withParts (List.subset_cons_self part parts))
      exact habove.bind fun _ => runFailsFor_makeOrFind hpath
    · exact runFailsFor_find trivial
    · next cause _ _ hmake =>
      exact runFailsFor_throw ((tree.failsFor_makeDirectory _ cause hmake).isOfFile hpath)

theorem runFailsFor_change {step : FileTree → Except Cause FileTree} {P : Cause → Prop}
    (h : ∀ tree, FailsFor P (step tree)) : RunFailsFor P (change step) := by
  refine runFailsFor_get_bind fun tree => ?_
  split
  · exact runFailsFor_set _ _
  · next cause hstep => exact runFailsFor_throw (h tree cause hstep)

end Filing
end FileTree

/-! ## Entries -/

namespace StatusLog

open FileTree

variable {log : StatusLog} {file : Path} {entry : LogEntry}

/-- **An entry cannot go to a file** only because the system refuses that. -/
theorem runFailsFor_appendTo (h : file.HasNoZero) :
    RunFailsFor Cause.IsOfFile (appendTo file entry) := by
  have hparent : (Path.mk file.root file.parts.dropLast.reverse).HasNoZero :=
    h.withParts fun _ hpart => List.dropLast_subset _ (List.mem_reverse.1 hpart)
  refine (Filing.runFailsFor_demandDirectory hparent).bind fun _ => ?_
  exact Filing.runFailsFor_change fun tree =>
    (tree.failsFor_append _ _).mono fun _ hcause => hcause.isOfFile h.toText

/-- No zero stands in the path of the file of any day. -/
def CanFile (log : StatusLog) : Prop :=
  ∀ moment file, log.fileOf? moment = some file → file.HasNoZero

theorem not_mem_padded (width n : Nat) : '\x00' ∉ (Moment.padded width n).toList := by
  unfold Moment.padded
  rw [String.toList_ofList, List.mem_append, not_or]
  refine ⟨fun h => absurd (List.eq_of_mem_replicate h) (by decide), fun h => ?_⟩
  exact absurd (Integer.isDigit_of_mem_digits h) (by decide)

/-- **A log can write its files** if no zero stands in the directory or in the beginning of their
names, for the date has none. -/
theorem canFile_of_hasNoZero (hdirectory : ∀ directory ∈ log.directory, directory.HasNoZero)
    (hname : '\x00' ∉ log.filePrefix.toList) : log.CanFile := by
  intro moment file hfile
  obtain ⟨directory, hsome, rfl⟩ := Option.map_eq_some_iff.1 hfile
  refine (hdirectory directory hsome).join (Path.hasNoZero_ofText ?_)
  simp [toString, Moment.date, Moment.dateWith, hname, not_mem_padded]

/-- **An entry goes to the file of the day, or the system refuses that**; either way it ends
well. -/
theorem file_ends_well (h : log.CanFile) (entry : LogEntry) (before : FileTree) :
    ∃ after, (ExceptT.run (log.file entry)).run before = (.ok (), after) := by
  unfold StatusLog.file
  cases hfile : log.fileOf? entry.moment with
  | none => exact ⟨before, rfl⟩
  | some file =>
    have hfails : FailsFor Cause.IsOfFile ((ExceptT.run (appendTo file entry)).run before).1 :=
      runFailsFor_appendTo (h _ _ hfile) before
    cases happend : (ExceptT.run (appendTo file entry)).run before with
    | mk result after =>
      have hget : (ExceptT.run (get : Filing FileTree)).run before = (.ok before, before) := rfl
      rw [happend] at hfails
      refine ⟨after, ?_⟩
      dsimp only
      rw [run_bind, hget]
      dsimp only
      rw [happend]
      cases result with
      | ok _ => rfl
      | error cause =>
        cases cause with
        | file fault path target => rfl
        | _ => exact (hfails _ rfl).elim

/-- **Adding an entry ends well**, and the log has the entry if it keeps it. -/
theorem run_add (h : log.CanFile) (moment : Moment) (level text : String) (before : FileTree) :
    ∃ after, (ExceptT.run (log.add moment level text)).run before
      = (.ok (if log.keeps level then (log.push ⟨moment, text, level⟩, some ⟨moment, text, level⟩)
          else (log, none)), after) := by
  unfold add
  split
  · obtain ⟨after, hfile⟩ := file_ends_well h ⟨moment, text, level⟩ before
    rw [run_bind, hfile]
    exact ⟨after, rfl⟩
  · exact ⟨before, rfl⟩

end StatusLog

/-! ## Asking a log -/

namespace StatusLog

/-- A command to a log. -/
inductive Command where
  | log (word text : String)
  | status (text : String)
  | clear
  | verbose (on : Bool)
deriving DecidableEq, Repr

/-- Is the history cleared? -/
def Command.isClear : Command → Bool
  | clear => true
  | _ => false

/-- Is a log verbose after a command? -/
def Command.verboseAfter (verbose : Bool) : Command → Bool
  | .verbose on => on
  | _ => verbose

/-- The entry of a level, if it is accepted: diagnostic ones are as long as the log is verbose. -/
def entryOf? (verbose : Bool) (moment : Moment) (level : Level) (text : String) : Option LogEntry :=
  if level = .debug ∧ verbose = false then none else some ⟨moment, text, level.word⟩

/-- The entry that a command brings at a moment, if it brings one that is accepted. -/
def Command.entry? (verbose : Bool) (moment : Moment) : Command → Option LogEntry
  | .log word text => entryOf? verbose moment (levelOf word) text
  | .status text => entryOf? verbose moment .info text
  | .clear => entryOf? verbose moment .info clearedText
  | .verbose _ => none

/-- The entries that are accepted. -/
def accepted (verbose : Bool) : List (Moment × Command) → List LogEntry
  | [] => []
  | (moment, command) :: commands =>
    (command.entry? verbose moment).toList ++ accepted (command.verboseAfter verbose) commands

/-- The entries that are accepted since the last clearing, which brings the first of them. -/
def sinceClear (verbose : Bool) : List (Moment × Command) → List LogEntry
  | [] => []
  | (moment, command) :: commands =>
    if commands.any (·.2.isClear) then sinceClear (command.verboseAfter verbose) commands
    else accepted verbose ((moment, command) :: commands)

end StatusLog

namespace Session

open StatusLog

/-- Adds an entry to the log at a moment. The answer is who hears what. -/
def hear (moment : Moment) (level : Level) (text : String) :
    Session (List (String × LogEntry)) := do
  modify (fun console => { console with moment })
  let names ← enter level text
  return names.map (·, ⟨moment, text, level.word⟩)

/-- Changes the log and adds nothing to it. -/
def adjust (change : StatusLog → StatusLog) : Session Unit :=
  modify (fun console => { console with log := change console.log })

/-- Does at a moment what the log is asked. The answer is who hears what. -/
def serve (moment : Moment) : Command → Session (List (String × LogEntry))
  | .log word text => hear moment (levelOf word) text
  | .status text => do
    adjust (·.withStatus text)
    hear moment .info text
  | .clear => do
    adjust cleared
    hear moment .info clearedText
  | .verbose on => do
    adjust ({ · with verbose := on })
    return []

/-- Does one thing after another that the log is asked. -/
def serveAll : List (Moment × Command) → Session (List (String × LogEntry))
  | [] => return []
  | (moment, command) :: commands => do
    let heard ← serve moment command
    let others ← serveAll commands
    return heard ++ others

end Session

/-! ## The newest -/

namespace StatusLog

/-- The newest so many of some items, and for zero all of them. -/
def newest {α : Type} (count : Nat) (items : List α) : List α :=
  if count = 0 then items else items.rtake count

theorem newest_of_length_le {α : Type} {count : Nat} {items : List α}
    (h : items.length ≤ count) : newest count items = items := by
  unfold newest List.rtake
  rw [Nat.sub_eq_zero_of_le h, List.drop_zero, ite_self]

/-- **Cutting off from behind** keeps the newest. -/
theorem lastOf_ofNat {α : Type} (count : Nat) (items : List α) :
    lastOf (Int.ofNat count) items = newest count items := by
  cases count with
  | zero => rfl
  | succ n =>
    have hpositive : ¬ Int.ofNat (n + 1) ≤ 0 := by simp
    unfold lastOf newest
    rw [if_neg hpositive, if_neg n.succ_ne_zero]
    rfl

theorem bounded_ofNat (limit : Nat) (entries : List LogEntry) :
    bounded (Int.ofNat limit) entries = newest limit entries := by
  unfold bounded
  split
  · exact lastOf_ofNat limit entries
  · next hfits =>
    have hlength : entries.length ≤ limit := by simpa using hfits
    exact (newest_of_length_le hlength).symm

theorem rtake_rtake {α : Type} (m n : Nat) (items : List α) :
    (items.rtake n).rtake m = items.rtake (min m n) := by
  simp only [List.rtake_eq_reverse_take_reverse, List.reverse_reverse, List.take_take]

theorem rtake_min_length {α : Type} (count : Nat) (items : List α) :
    items.rtake (min count items.length) = items.rtake count := by
  unfold List.rtake
  congr 1
  omega

/-- An item more behind the newest ones: the newest of all are among them. -/
theorem newest_newest_append {α : Type} (count : Nat) (items : List α) (item : α) :
    newest count (newest count items ++ [item]) = newest count (items ++ [item]) := by
  cases count with
  | zero => rfl
  | succ n =>
    unfold newest
    simp only [n.succ_ne_zero, if_false, List.rtake_concat_succ, rtake_rtake]
    rw [Nat.min_eq_left n.le_succ]

/-! ## One command -/

/-- What is heard when everybody who listens hears each of some entries. -/
def hearings (listeners : List String) (entries : List LogEntry) : List (String × LogEntry) :=
  entries.flatMap fun entry => listeners.map (·, entry)

theorem hearings_append (listeners : List String) (entries others : List LogEntry) :
    hearings listeners (entries ++ others)
      = hearings listeners entries ++ hearings listeners others := List.flatMap_append

/-- The history after commands, if there is one before them. -/
def historyAfter (verbose : Bool) (history : List LogEntry) (commands : List (Moment × Command)) :
    List LogEntry :=
  if commands.any (·.2.isClear) then sinceClear verbose commands
  else history ++ accepted verbose commands

/-- **Without a history before them** there is afterwards what has been accepted since the last
clearing. -/
theorem historyAfter_nil (verbose : Bool) (commands : List (Moment × Command)) :
    historyAfter verbose [] commands = sinceClear verbose commands := by
  unfold historyAfter
  split
  · rfl
  · next hnone =>
    cases commands with
    | nil => rfl
    | cons timed commands =>
      have hlater : ¬ commands.any (·.2.isClear) = true := fun h => hnone (by
        rw [List.any_cons, h, Bool.or_true])
      unfold sinceClear
      rw [if_neg hlater, List.nil_append]

/-- The first command adds to the history or clears it, and the others go on from there. -/
theorem historyAfter_cons (verbose : Bool) (history : List LogEntry) (moment : Moment)
    (command : Command) (commands : List (Moment × Command)) :
    historyAfter verbose history ((moment, command) :: commands)
      = historyAfter (command.verboseAfter verbose)
        ((if command.isClear then [] else history) ++ (command.entry? verbose moment).toList)
        commands := by
  unfold historyAfter
  rw [List.any_cons]
  dsimp only
  by_cases hlater : commands.any (·.2.isClear) = true
  · rw [hlater, Bool.or_true, sinceClear, hlater]
    rfl
  · rw [if_neg hlater, sinceClear, if_neg hlater, accepted, Bool.eq_false_iff.2 hlater,
      Bool.or_false, List.append_assoc]
    split <;> rfl

/-- **A log holds a history**: it is as verbose as is told, has the listeners and the bound that are
told, can write its files, and its entries are the newest of the history. -/
structure Holds (log : StatusLog) (limit : Nat) (listeners : List String) (verbose : Bool)
    (history : List LogEntry) : Prop where
  entries : log.entries = newest limit history
  bound : log.limit = Int.ofNat limit
  listens : log.listeners = listeners
  talks : log.verbose = verbose
  canFile : log.CanFile

section

variable {log : StatusLog} {limit : Nat} {listeners : List String} {verbose : Bool}
  {history : List LogEntry}

theorem Holds.push (h : log.Holds limit listeners verbose history) (entry : LogEntry) :
    (log.push entry).Holds limit listeners verbose (history ++ [entry]) where
  entries := by
    change bounded log.limit (log.entries ++ [entry]) = _
    rw [h.bound, bounded_ofNat, h.entries, newest_newest_append]
  bound := h.bound
  listens := h.listens
  talks := h.talks
  canFile := h.canFile

theorem Holds.withStatus (h : log.Holds limit listeners verbose history) (status : String) :
    (log.withStatus status).Holds limit listeners verbose history :=
  ⟨h.entries, h.bound, h.listens, h.talks, h.canFile⟩

theorem Holds.cleared (h : log.Holds limit listeners verbose history) :
    log.cleared.Holds limit listeners verbose [] :=
  ⟨(newest_of_length_le limit.zero_le).symm, h.bound, h.listens, h.talks, h.canFile⟩

theorem Holds.withVerbose (h : log.Holds limit listeners verbose history) (on : Bool) :
    { log with verbose := on }.Holds limit listeners on history :=
  ⟨h.entries, h.bound, h.listens, rfl, h.canFile⟩

/-- A log keeps an entry unless that is a diagnostic one and the log is not verbose. -/
theorem keeps_word (log : StatusLog) (level : Level) :
    log.keeps level.word = !decide (level = .debug ∧ log.verbose = false) := by
  unfold keeps
  cases log.verbose <;> cases level <;> rfl

end

end StatusLog

namespace Session

open StatusLog

variable {console : Console} {limit : Nat} {listeners : List String} {verbose : Bool}
  {history : List LogEntry}

/-- What is done with the files ends as it does, and leaves its files in the console. -/
theorem run_filing {α : Type} (work : FileTree.Filing α) (console : Console) :
    (ExceptT.run (filing work)).run console
      = (((ExceptT.run work).run console.files).1,
        { console with files := ((ExceptT.run work).run console.files).2 }) := by
  unfold filing
  rw [run_get_bind]
  cases (ExceptT.run work).run console.files with
  | mk result files =>
    dsimp only
    rw [run_modify_bind]
    cases result <;> rfl

/-- **Entering an entry ends well**, and the log has the entry if it keeps it. -/
theorem run_enter (h : console.log.CanFile) (level : Level) (text : String) :
    ∃ after, (ExceptT.run (enter level text)).run console
        = (.ok (if console.log.keeps level.word then console.log.listeners else []), after)
      ∧ after.log = if console.log.keeps level.word
          then console.log.push ⟨console.moment, text, level.word⟩ else console.log := by
  unfold enter
  rw [run_get_bind, run_bind, run_filing]
  obtain ⟨files, hadd⟩ := run_add h console.moment level.word text console.files
  rw [hadd]
  cases console.log.keeps level.word
  · exact ⟨_, rfl, rfl⟩
  · exact ⟨_, rfl, rfl⟩

/-- **An entry is heard and goes to the history**, if it is accepted. -/
theorem run_hear (h : console.log.Holds limit listeners verbose history) (moment : Moment)
    (level : Level) (text : String) :
    ∃ after, (ExceptT.run (hear moment level text)).run console
        = (.ok (hearings listeners (entryOf? verbose moment level text).toList), after)
      ∧ after.log.Holds limit listeners verbose
        (history ++ (entryOf? verbose moment level text).toList) := by
  have hkeeps := console.log.keeps_word level
  have hfiles : Console.log { console with moment } |>.CanFile := h.canFile
  obtain ⟨after, henter, hlog⟩ := run_enter hfiles level text
  dsimp only at henter hlog
  unfold hear entryOf?
  rw [run_modify_bind, run_bind, henter]
  rw [h.talks] at hkeeps
  by_cases hdropped : level = .debug ∧ verbose = false
  · rw [hkeeps, decide_eq_true hdropped] at hlog ⊢
    rw [if_pos hdropped, Option.toList_none, List.append_nil]
    exact ⟨after, rfl, hlog ▸ h⟩
  · rw [hkeeps, decide_eq_false hdropped] at hlog ⊢
    rw [if_neg hdropped, Option.toList_some]
    have hheard : hearings listeners [⟨moment, text, level.word⟩]
        = console.log.listeners.map (·, ⟨moment, text, level.word⟩) := by
      rw [h.listens]
      exact List.append_nil _
    rw [hheard]
    exact ⟨after, rfl, hlog ▸ h.push _⟩

/-- **A command does what is told of it**: its entry is heard, if it brings one that is accepted,
and the log goes on with the history, or with none if the command clears it. -/
theorem run_serve (h : console.log.Holds limit listeners verbose history) (moment : Moment)
    (command : Command) :
    ∃ after, (ExceptT.run (serve moment command)).run console
        = (.ok (hearings listeners (command.entry? verbose moment).toList), after)
      ∧ after.log.Holds limit listeners (command.verboseAfter verbose)
        ((if command.isClear then [] else history) ++ (command.entry? verbose moment).toList) := by
  cases command with
  | log word text => exact run_hear h moment (levelOf word) text
  | status text =>
    unfold serve adjust
    rw [run_modify_bind]
    exact run_hear (h.withStatus text) moment .info text
  | clear =>
    unfold serve adjust
    rw [run_modify_bind]
    exact run_hear h.cleared moment .info clearedText
  | verbose on =>
    refine ⟨{ console with log := { console.log with verbose := on } }, rfl, ?_⟩
    exact (List.append_nil history).symm ▸ h.withVerbose on

/-- **One command after another**: every entry that is accepted is heard, and the log goes on with
the history, or with what has been accepted since it was cleared. The induction is on the commands;
what has been accepted before them is in the history. -/
theorem run_serveAll (h : console.log.Holds limit listeners verbose history)
    (commands : List (Moment × Command)) :
    ∃ after, (ExceptT.run (serveAll commands)).run console
        = (.ok (hearings listeners (accepted verbose commands)), after)
      ∧ ∃ verbose', after.log.Holds limit listeners verbose'
        (historyAfter verbose history commands) := by
  induction commands generalizing console verbose history with
  | nil =>
    have hsame : historyAfter verbose history [] = history := List.append_nil history
    exact ⟨console, rfl, verbose, hsame.symm ▸ h⟩
  | cons timed commands ih =>
    obtain ⟨moment, command⟩ := timed
    obtain ⟨between, hserve, hbetween⟩ := run_serve h moment command
    obtain ⟨after, hrest, verbose', hafter⟩ := ih hbetween
    unfold serveAll
    rw [run_bind, hserve]
    dsimp only
    rw [run_bind, hrest]
    rw [historyAfter_cons, accepted, hearings_append]
    exact ⟨after, rfl, verbose', hafter⟩

/-- **The history is the newest entries.** Whatever a log is asked that starts without a history,
everybody who listens hears every entry that is accepted, once and in order. The entries afterwards
are the last ones accepted since the last clearing, up to the bound, and the recent ones are the
last of these, up to the count; but a bound of zero is none, and a count of zero is none either. -/
theorem history_newest (limit : Nat) (directory : Option Path) (filePrefix : String)
    (verbose : Bool) (listeners : List String) (console : Console)
    (commands : List (Moment × Command))
    (hdirectory : ∀ path ∈ directory, path.HasNoZero) (hname : '\x00' ∉ filePrefix.toList) :
    ∃ after, (ExceptT.run (serveAll commands)).run
        { console with
          log := { StatusLog.empty limit directory filePrefix verbose with listeners } }
        = (.ok ((accepted verbose commands).flatMap fun entry => listeners.map (·, entry)), after)
      ∧ after.log.entries = (if limit = 0 then sinceClear verbose commands
          else (sinceClear verbose commands).rtake limit)
      ∧ ∀ count : Nat, after.log.recent count = if count = 0 then after.log.entries
          else after.log.entries.rtake (min count after.log.entries.length) := by
  have hempty : Console.log { console with
        log := { StatusLog.empty limit directory filePrefix verbose with listeners } }
      |>.Holds limit listeners verbose [] :=
    ⟨(newest_of_length_le limit.zero_le).symm, rfl, rfl, rfl,
      canFile_of_hasNoZero hdirectory hname⟩
  obtain ⟨after, hrun, verbose', hafter⟩ := run_serveAll hempty commands
  rw [historyAfter_nil] at hafter
  refine ⟨after, hrun, hafter.entries, fun count => (lastOf_ofNat count after.log.entries).trans ?_⟩
  unfold newest
  split
  · rfl
  · rw [rtake_min_length]

/-- Two entries fit. A diagnostic one is accepted while the log is verbose, and the clearing forgets
it again. -/
theorem history_newest_two :
    ∃ after, (ExceptT.run (serveAll [(⟨2024, 1, 2, 3, 4, 5, 0⟩, .verbose true),
          (⟨2024, 1, 2, 3, 4, 6, 0⟩, .log "debug" "a"), (⟨2024, 1, 2, 3, 4, 7, 0⟩, .clear),
          (⟨2024, 1, 2, 3, 4, 8, 0⟩, .verbose false), (⟨2024, 1, 2, 3, 4, 9, 0⟩, .log "debug" "b"),
          (⟨2024, 1, 2, 3, 4, 10, 0⟩, .status "c"), (⟨2024, 1, 2, 3, 4, 11, 0⟩, .status "d")])).run
        { Console.initial ⟨2024, 1, 2, 3, 4, 5, 0⟩ .empty with
          log := { StatusLog.empty 2 (some (.ofText "logs")) "macro" false with
            listeners := ["window"] } }
        = (.ok [("window", ⟨⟨2024, 1, 2, 3, 4, 6, 0⟩, "a", "DEBUG"⟩),
          ("window", ⟨⟨2024, 1, 2, 3, 4, 7, 0⟩, "Log history cleared", "INFO"⟩),
          ("window", ⟨⟨2024, 1, 2, 3, 4, 10, 0⟩, "c", "INFO"⟩),
          ("window", ⟨⟨2024, 1, 2, 3, 4, 11, 0⟩, "d", "INFO"⟩)], after)
      ∧ after.log.entries = [⟨⟨2024, 1, 2, 3, 4, 10, 0⟩, "c", "INFO"⟩,
          ⟨⟨2024, 1, 2, 3, 4, 11, 0⟩, "d", "INFO"⟩]
      ∧ after.log.recent 1 = [⟨⟨2024, 1, 2, 3, 4, 11, 0⟩, "d", "INFO"⟩] := by
  have hdirectory : ∀ path ∈ some (Path.ofText "logs"), path.HasNoZero := fun path hpath =>
    Option.some.inj hpath ▸ Path.hasNoZero_ofText (by decide)
  obtain ⟨after, hrun, hentries, hrecent⟩ :=
    history_newest 2 (some (.ofText "logs")) "macro" false ["window"]
      (Console.initial ⟨2024, 1, 2, 3, 4, 5, 0⟩ .empty) _ hdirectory (by decide)
  refine ⟨after, hrun.trans ?_, hentries.trans (by decide), (hrecent 1).trans ?_⟩
  · exact congrArg (fun heard => (Except.ok heard, after)) (by decide)
  · rw [hentries]
    decide

/-- **Nothing is bounded by zero**: of at most no entries there is one, and of one entry the last no
entries are that one. -/
theorem history_bounded_by_zero :
    ∃ after, (ExceptT.run (serveAll [(⟨2024, 1, 2, 3, 4, 5, 0⟩, .status "a")])).run
        { Console.initial ⟨2024, 1, 2, 3, 4, 5, 0⟩ .empty with
          log := StatusLog.empty 0 none StatusLog.usualPrefix false } = (.ok [], after)
      ∧ after.log.entries = [⟨⟨2024, 1, 2, 3, 4, 5, 0⟩, "a", "INFO"⟩]
      ∧ after.log.recent 0 = [⟨⟨2024, 1, 2, 3, 4, 5, 0⟩, "a", "INFO"⟩] :=
  ⟨_, rfl, rfl, rfl⟩

end Session
end DesktopMacro
