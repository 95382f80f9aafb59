/-
The file system as far as it matters here: a tree of directories and files from the root on.

The work directory is somewhere in it. Around it there is only what is found on every system: the
directories above, and a few at the root.

A path is followed step by step, and every step but the last has to lead to a directory; a step may
also stay where it is, or go up, which at the root is to stay. A name may not be longer than the
system allows. Where following fails, the fault is the one that is met first. What the last step may
be depends on what is to be done: a file cannot be written, and nothing can be made or moved, where
the last step is no name.
-/
import DesktopMacro.Files.Codec
import DesktopMacro.Files.Path

set_option autoImplicit false

namespace DesktopMacro

/-- What a path leads to. -/
inductive Node where
  | file (bytes : List UInt8)
  | directory
deriving DecidableEq, Repr

/-- The files and directories, by their places: the names that lead there from the root. -/
structure FileTree where
  entries : List (List String × Node)
deriving DecidableEq, Repr

namespace FileTree

/-- The place of the work directory. -/
def home : List String := ["tmp", "work"]

/-- What there is around the work directory. -/
def surroundings : List (List String × Node) :=
  (["bin", "dev", "etc", "home", "lib", "opt", "proc", "root", "run", "sbin", "sys", "tmp", "usr",
    "var"].map (fun name => ([name], Node.directory)))
    ++ [(["dev", "null"], .file []), (home, .directory)]

/-- The tree with nothing in the work directory. -/
def empty : FileTree := ⟨surroundings⟩

/-- What is at a place. The root is always there. -/
def node? (tree : FileTree) (place : List String) : Option Node :=
  if place.isEmpty then some .directory
  else (tree.entries.find? (fun entry => entry.1 == place)).map Prod.snd

/-- Puts a node into the place of another one, or at the end. -/
def putInto : List (List String × Node) → List String → Node → List (List String × Node)
  | [], place, node => [(place, node)]
  | entry :: entries, place, node =>
    if entry.1 == place then (place, node) :: entries else entry :: putInto entries place node

/-- The tree with a node at a place. -/
def put (tree : FileTree) (place : List String) (node : Node) : FileTree :=
  ⟨putInto tree.entries place node⟩

/-- The tree without what is at a place. -/
def drop (tree : FileTree) (place : List String) : FileTree :=
  ⟨tree.entries.filter (fun entry => entry.1 != place)⟩

/-! ## Below the work directory -/

/-- The files below the work directory with their bytes, by the names that lead there. -/
def files (tree : FileTree) : List (List String × List UInt8) :=
  tree.entries.filterMap (fun
    | (place, .file bytes) =>
      if home.isPrefixOf place then some (place.drop home.length, bytes) else none
    | _ => none)

/-- Is there anything at a place below the work directory? -/
def has (tree : FileTree) (parts : List String) : Bool := (tree.node? (home ++ parts)).isSome

/-- The beginnings of a path, shortest first, without the path itself. -/
def above : List String → List (List String)
  | [] => []
  | [_] => []
  | part :: parts => [part] :: (above parts).map (part :: ·)

/-- The tree with a node below the work directory, and with the directories above it. -/
def plant (tree : FileTree) (parts : List String) (node : Node) : FileTree :=
  ((above parts).foldl (fun tree parts => tree.put (home ++ parts) .directory) tree).put
    (home ++ parts) node

/-! ## Following a path -/

/-- The longest name that the system allows, in bytes. -/
def nameLimit : Nat := 255

/-- The longest path that the system allows, in bytes. -/
def pathLimit : Nat := 4095

/-- Where a path leads: to a node, or to a free place in a directory. -/
inductive Spot where
  | taken (place : List String) (node : Node)
  | free (place : List String)
deriving DecidableEq, Repr

/-- One step from a directory. -/
def step (tree : FileTree) (here : List String) (name : String) : Except FileFault Spot :=
  if name == "." then .ok (.taken here .directory)
  else if name == ".." then .ok (.taken here.dropLast .directory)
  else if nameLimit < name.utf8ByteSize then .error .nameTooLong
  else
    match tree.node? (here ++ [name]) with
    | some node => .ok (.taken (here ++ [name]) node)
    | none => .ok (.free (here ++ [name]))

/-- One step from a directory to a directory. -/
def enter (tree : FileTree) (here : List String) (name : String) :
    Except FileFault (List String) := do
  match ← tree.step here name with
  | .taken place .directory => return place
  | .taken _ (.file _) => throw .notDirectory
  | .free _ => throw .missing

/-- A path followed up to its last step: the directory it has come to, the last step, and whether a
slash behind it asks for a directory. -/
structure Approach where
  here : List String
  last : String
  asksDirectory : Bool
deriving DecidableEq, Repr

/-- The last step is a name. -/
def Approach.isNamed (approach : Approach) : Bool :=
  approach.last != "." && approach.last != ".."

/-- Follows a written path up to its last step. -/
def approach (tree : FileTree) (path : String) : Except Cause Approach :=
  if path.toList.contains '\x00' then .error .zeroInPath
  else
    let reached : Except FileFault Approach := do
      if path.isEmpty then throw .missing
      if pathLimit < path.utf8ByteSize then throw .nameTooLong
      let names := (Text.splitOn path (· == '/')).filter (fun name => !name.isEmpty)
      let here ← names.dropLast.foldlM tree.enter (if Text.startsWith path "/" then [] else home)
      return ⟨here, names.getLast?.getD ".", Text.endsWith path "/"⟩
    reached.mapError (fun fault => .file fault path none)

/-- A step with the path to name in a fault. -/
def stepFor (tree : FileTree) (path : String) (approach : Approach) : Except Cause Spot :=
  (tree.step approach.here approach.last).mapError (fun fault => .file fault path none)

/-- Where a written path leads. -/
def locate (tree : FileTree) (path : String) : Except Cause Spot := do
  let approach ← tree.approach path
  match ← tree.stepFor path approach with
  | .taken place (.file bytes) =>
    if approach.asksDirectory then throw (.file .notDirectory path none)
    else return .taken place (.file bytes)
  | spot => return spot

/-! ## Looking -/

/-- The bytes of a file. -/
def read (tree : FileTree) (path : String) : Except Cause (List UInt8) := do
  match ← tree.locate path with
  | .taken _ (.file bytes) => return bytes
  | .taken _ .directory => .error (.file .isDirectory path none)
  | .free _ => .error (.file .missing path none)

/-- Is there a directory at a path? -/
def isDirectory (tree : FileTree) (path : String) : Bool :=
  match tree.locate path with
  | .ok (.taken _ .directory) => true
  | _ => false

/-- Is there anything at a path? Only a name that is too long leaves that open. -/
def exists? (tree : FileTree) (path : String) : Except Cause Bool :=
  match tree.locate path with
  | .ok (.taken _ _) => .ok true
  | .error (.file .nameTooLong path target) => .error (.file .nameTooLong path target)
  | _ => .ok false

/-! ## Changing -/

/-- The place of a file to be written, with what is in it. -/
def placeToWrite (tree : FileTree) (path : String) :
    Except Cause (List String × List UInt8) := do
  let approach ← tree.approach path
  if !approach.isNamed || approach.asksDirectory then throw (.file .isDirectory path none)
  match ← tree.stepFor path approach with
  | .taken _ .directory => throw (.file .isDirectory path none)
  | .taken place (.file bytes) => return (place, bytes)
  | .free place => return (place, [])

/-- The tree with bytes in a file, new or not. -/
def write (tree : FileTree) (path : String) (bytes : List UInt8) : Except Cause FileTree := do
  let (place, _) ← tree.placeToWrite path
  return tree.put place (.file bytes)

/-- The tree with bytes at the end of a file, new or not. -/
def append (tree : FileTree) (path : String) (bytes : List UInt8) : Except Cause FileTree := do
  let (place, before) ← tree.placeToWrite path
  return tree.put place (.file (before ++ bytes))

/-- The tree with a new directory. -/
def makeDirectory (tree : FileTree) (path : String) : Except Cause FileTree := do
  let approach ← tree.approach path
  if !approach.isNamed then throw (.file .present path none)
  match ← tree.stepFor path approach with
  | .taken _ _ => throw (.file .present path none)
  | .free place => return tree.put place .directory

/-- Is there anything in a directory? -/
def hasEntries (tree : FileTree) (place : List String) : Bool :=
  tree.entries.any (fun entry => place.isPrefixOf entry.1 && entry.1 != place)

/-- The tree with a directory, and everything in it, at another place. -/
def relocate (tree : FileTree) (place target : List String) : FileTree :=
  ⟨tree.entries.map (fun entry =>
    if place.isPrefixOf entry.1 then (target ++ entry.1.drop place.length, entry.2) else entry)⟩

/-- The tree with a node moved to a spot: a file takes the place of a file, and a directory that of
an empty one. -/
def moveNode (tree : FileTree) (place : List String) (node : Node) (target : Spot) :
    Except FileFault FileTree :=
  match node, target with
  | .file bytes, .taken there (.file _) | .file bytes, .free there =>
    .ok ((tree.drop place).put there (.file bytes))
  | .file _, .taken _ .directory => .error .isDirectory
  | .directory, .free there => .ok (tree.relocate place there)
  | .directory, .taken there .directory =>
    if place = there then .ok tree
    else if tree.hasEntries there then .error .notEmpty
    else .ok ((tree.drop there).relocate place there)
  | .directory, .taken _ (.file _) => .error .notDirectory

/-- The tree with a file or a directory moved to another path. A fault names both paths. -/
def move (tree : FileTree) (path target : String) : Except Cause FileTree :=
  let moved : Except Cause FileTree := do
    let old ← tree.approach path
    let new ← tree.approach target
    if !old.isNamed || !new.isNamed then throw (.file .busy path none)
    match ← tree.stepFor path old with
    | .free _ => throw (.file .missing path none)
    | .taken place node =>
      let spot ← tree.stepFor target new
      if node != .directory && (old.asksDirectory || new.asksDirectory) then
        throw (.file .notDirectory path none)
      (tree.moveNode place node spot).mapError (fun fault => .file fault path none)
  moved.mapError (fun
    | .file fault _ _ => .file fault path (some target)
    | cause => cause)

/-- A tree after some steps, and the cause that ended them, if one did. -/
abbrev Filing (α : Type) := ExceptT Cause (StateM FileTree) α

namespace Filing

/-- Changes the tree. -/
def change (step : FileTree → Except Cause FileTree) : Filing Unit := do
  match step (← get) with
  | .ok tree => set tree
  | .error cause => throw cause

/-- Looks at the tree. -/
def look {α : Type} (step : FileTree → Except Cause α) : Filing α := do
  match step (← get) with
  | .ok result => return result
  | .error cause => throw cause

/-- Makes sure that there is a directory, making those above it first where they are missing. The
parts are given last one first. -/
def demandDirectory (root : String) : (parts : List String) → Filing Unit
  | [] => do
    let path := (Path.mk root []).toText
    match (← get).makeDirectory path with
    | .ok tree => set tree
    | .error cause => if (← get).isDirectory path then return else throw cause
  | part :: parts => do
    let path := (Path.mk root (part :: parts).reverse).toText
    match (← get).makeDirectory path with
    | .ok tree => set tree
    | .error (.file .missing _ _) =>
      demandDirectory root parts
      match (← get).makeDirectory path with
      | .ok tree => set tree
      | .error cause => if (← get).isDirectory path then return else throw cause
    | .error (.file fault p t) =>
      if (← get).isDirectory path then return else throw (.file fault p t)
    | .error cause => throw cause

/-- Makes sure that there is a directory at a path. -/
def demand (path : Path) : Filing Unit := demandDirectory path.root path.parts.reverse

end Filing
end FileTree
end DesktopMacro
