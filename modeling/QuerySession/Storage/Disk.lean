import QuerySession.Keyed

/-!
# Disks

A tree of folders with permission bits and files, and the calls of an operating system that work on
it. Paths lead down from the top by names; a single dot stays where it is and two dots go up. No
call is refused for lack of permission.

## Main Definitions

* `Disk` — the tree; `Disk.Entry` — a folder or a file
* `Disk.Fault` — why a call is refused, with its wording
* `Disk.locate` — the place that a path denotes
* `Disk.makeFolder`, `Disk.makeFolders`, `Disk.removeFolder`, `Disk.removeTree`, …

## Design Notes

A place is given by the names that lead to it, without dots. The top is always a folder and is not
listed among the entries.
-/

namespace QuerySession

/-- What stands at a place. -/
inductive Disk.Entry where
  | folder (mode : Nat)
  | file (bytes : List UInt8)
  deriving DecidableEq

/-- A tree of folders and files, by the names that lead to them. -/
structure Disk where
  entries : Keyed (List String) Disk.Entry
  deriving DecidableEq

namespace Disk

/-- Why a call is refused. -/
inductive Fault where
  | notFound
  | notFolder
  | isFolder
  | taken
  | notEmpty
  | busy
  | invalid
  | nameTooLong
  | nullInName
  deriving DecidableEq

/-- The wording. -/
def Fault.message : Fault → String
  | notFound => "No such file or directory (os error 2)"
  | notFolder => "Not a directory (os error 20)"
  | isFolder => "Is a directory (os error 21)"
  | taken => "File exists (os error 17)"
  | notEmpty => "Directory not empty (os error 39)"
  | busy => "Device or resource busy (os error 16)"
  | invalid => "Invalid argument (os error 22)"
  | nameTooLong => "File name too long (os error 36)"
  | nullInName => "file name contained an unexpected NUL byte"

/-- Whether an entry is a folder. -/
def Entry.isFolder : Entry → Bool
  | .folder _ => true
  | .file _ => false

/-- Nothing but the top. -/
def empty : Disk := ⟨.empty⟩

/-- The permission bits of folders that nobody has given others. -/
def usualMode : Nat := 0o755

/-- What stands at a place. -/
def find? (d : Disk) (place : List String) : Option Entry :=
  if place = [] then some (.folder usualMode) else d.entries.find? place

/-- Whether a place lies strictly below another. -/
def isBelow (place top : List String) : Bool := top.isPrefixOf place && place.length != top.length

/-- Whether something stands below a place. -/
def hasBelow (d : Disk) (place : List String) : Bool :=
  d.entries.entries.any fun e => isBelow e.1 place

/-! ### Paths -/

/-- Whether a name is a dot, which leads nowhere. -/
def isDot (name : String) : Bool := name == "."

/-- Whether a name is longer than 255 bytes. -/
def isTooLong (name : String) : Bool := 255 < name.utf8ByteSize

/-- Whether a name is one that the operating system accepts and that leads down. -/
def isOrdinary (name : String) : Bool :=
  name != "" && name != "." && name != ".." && !isTooLong name && !name.toList.contains '\x00' &&
    !name.toList.contains '/'

/-- The length of a path in bytes, with a slash before every name. -/
def pathSize (names : List String) : Nat :=
  names.foldr (fun name size => name.utf8ByteSize + 1 + size) 0

/-- The fault of a path that the operating system does not even look at. -/
def refusal? (names : List String) : Option Fault :=
  if names.any fun n => n.toList.contains '\x00' then some .nullInName
  else if 4096 ≤ pathSize names then some .nameTooLong
  else none

/-- The place that `names` lead to from the place `here`. -/
def walk (d : Disk) (here : List String) : List String → Except Fault (List String)
  | [] => .ok here
  | name :: names =>
    match d.find? here with
    | none => .error .notFound
    | some (.file _) => .error .notFolder
    | some (.folder _) =>
      if isDot name then walk d here names
      else if name = ".." then walk d here.dropLast names
      else if isTooLong name then .error .nameTooLong
      else if (d.find? (here ++ [name])).isNone then .error .notFound
      else walk d (here ++ [name]) names

/-- The place that a path denotes, when something stands there. -/
def locate (d : Disk) (names : List String) : Except Fault (List String) :=
  match refusal? names with
  | some fault => .error fault
  | none => d.walk [] names

/-- What stands at the place that a path denotes. -/
def stat (d : Disk) (names : List String) : Except Fault Entry := do
  let place ← d.locate names
  match d.find? place with
  | some entry => .ok entry
  | none => .error .notFound

/-- The place of a path's last name, which may be free: the parent must be a folder. -/
def locateNew (d : Disk) (names : List String) : Except Fault (List String) :=
  match refusal? names, names.getLast? with
  | some fault, _ => .error fault
  | none, none => .error .taken
  | none, some last => do
    let parent ← d.walk [] names.dropLast
    match d.find? parent with
    | some (.folder _) =>
      if isDot last ∨ last = ".." then .error .taken
      else if isTooLong last then .error .nameTooLong
      else .ok (parent ++ [last])
    | some (.file _) => .error .notFolder
    | none => .error .notFound

/-! ### Changes -/

/-- Put an entry at a place. -/
def put (d : Disk) (place : List String) (entry : Entry) : Disk :=
  if place = [] then d else ⟨d.entries.put place entry⟩

/-- Remove what stands at a place and below it. -/
def cut (d : Disk) (place : List String) : Disk :=
  ⟨d.entries.filter fun e => !place.isPrefixOf e.1⟩

/-- Make a folder whose parent is there. -/
def makeFolder (d : Disk) (names : List String) : Except Fault Disk := do
  let place ← d.locateNew names
  if (d.find? place).isSome then .error .taken else .ok (d.put place (.folder usualMode))

/-- The path without the dots that lead nowhere. -/
def withoutDots (names : List String) : List String := names.filter (!isDot ·)

/-- Whether a path denotes a folder. -/
def denotesFolder (d : Disk) (names : List String) : Bool :=
  match d.stat names with
  | .ok entry => entry.isFolder
  | .error _ => false

/-- A path and the paths above it, without the top; those above are written without dots. -/
def ancestors (names : List String) : List (List String) :=
  let above := (withoutDots names).dropLast
  if withoutDots names = [] then []
  else names :: (above.length.fold (fun i _ acc => acc ++ [above.take (above.length - i)]) [])

/-- From a path upwards, the paths whose parents are missing, up to the first folder that is there
or can be made; the result tells how to go on. -/
def climb (d : Disk) : List (List String) → Except Fault (List (List String) × Disk)
  | [] => .ok ([], d)
  | path :: above =>
    match d.makeFolder path with
    | .ok d => .ok ([], d)
    | .error .notFound => do
      let (missing, d) ← climb d above
      .ok (path :: missing, d)
    -- Something is there already, which is all right if it is a folder.
    | .error .taken => if d.denotesFolder path then .ok ([], d) else .error .taken
    | .error fault => .error fault

/-- Make the given folders, deepest first in the list, from the last one on. -/
def descend (d : Disk) : List (List String) → Except Fault Unit × Disk
  | [] => (.ok (), d)
  | path :: above =>
    match descend d above with
    | (.error fault, d) => (.error fault, d)
    | (.ok (), d) =>
      match d.makeFolder path with
      | .ok d => (.ok (), d)
      | .error .taken => if d.denotesFolder path then (.ok (), d) else (.error .taken, d)
      | .error fault => (.error fault, d)

/-- Make a folder and the missing ones above it. -/
def makeFolders (d : Disk) (names : List String) : Except Fault Unit × Disk :=
  match d.climb (ancestors names) with
  | .error fault => (.error fault, d)
  | .ok (missing, d) => d.descend missing

/-- The bits that a mode may have. -/
def modeBits : Nat := 0o10000

/-- Give an entry other permission bits. -/
def setMode (d : Disk) (names : List String) (mode : Nat) : Except Fault Disk := do
  let place ← d.locate names
  match d.find? place with
  | some (.folder _) => .ok (d.put place (.folder (mode % modeBits)))
  | some (.file _) => .ok d
  | none => .error .notFound

/-- What forbids to remove the folder that a path denotes by its last name. -/
def lastNameFault? (names : List String) : Option Fault :=
  match names.getLast? with
  | none => some .busy
  | some last =>
    if isDot last then some .invalid
    else if last = ".." then some .notEmpty
    else none

/-- Remove an empty folder. -/
def removeFolder (d : Disk) (names : List String) : Except Fault Disk := do
  let place ← d.locate names
  match d.find? place, lastNameFault? names with
  | some (.folder _), some fault => .error fault
  | some (.folder _), none => if d.hasBelow place then .error .notEmpty else .ok (d.cut place)
  | some (.file _), _ => .error .notFolder
  | none, _ => .error .notFound

/-- Remove a folder with everything below it. -/
def removeTree (d : Disk) (names : List String) : Except Fault Unit × Disk :=
  match d.locate names with
  | .error fault => (.error fault, d)
  | .ok place =>
    match d.find? place, lastNameFault? names with
    | some (.folder mode), some fault => (.error fault, (d.cut place).put place (.folder mode))
    | some (.folder _), none => (.ok (), d.cut place)
    | some (.file _), _ => (.error .notFolder, d)
    | none, _ => (.error .notFound, d)

/-- Remove a file. -/
def removeFile (d : Disk) (names : List String) : Except Fault Disk := do
  let place ← d.locate names
  match d.find? place with
  | some (.file _) => .ok (d.cut place)
  | some (.folder _) => .error .isFolder
  | none => .error .notFound

/-- Write a file, over the one that may be there. -/
def store (d : Disk) (names : List String) (bytes : List UInt8) : Except Fault Disk :=
  match d.stat names with
  | .ok (.folder _) => .error .isFolder
  | .ok (.file _) => do
    let place ← d.locate names
    .ok (d.put place (.file bytes))
  | .error _ => do
    let place ← d.locateNew names
    .ok (d.put place (.file bytes))

/-- Write a file, and make the missing folders above it. -/
def storeDeep (d : Disk) (names : List String) (bytes : List UInt8) : Except Fault Unit × Disk :=
  match d.makeFolders names.dropLast with
  | (.error fault, d) => (.error fault, d)
  | (.ok (), d) => match d.store names bytes with
    | .ok d => (.ok (), d)
    | .error fault => (.error fault, d)

/-- Write behind what is in a file; the file is made if it is not there. -/
def append (d : Disk) (names : List String) (bytes : List UInt8) : Except Fault Disk :=
  match d.stat names with
  | .ok (.file written) => d.store names (written ++ bytes)
  | .ok (.folder _) | .error _ => d.store names bytes

/-- Read a file. -/
def contents (d : Disk) (names : List String) : Except Fault (List UInt8) := do
  match ← d.stat names with
  | .file bytes => .ok bytes
  | .folder _ => .error .isFolder

/-! ### Lemmas -/

/-- Looking up after putting something at a place other than the top. -/
theorem find?_put (d : Disk) (place other : List String) (entry : Entry) (h : place ≠ []) :
    (d.put place entry).find? other =
      if other = [] then some (.folder usualMode)
      else if place = other then some entry
      else d.find? other := by
  unfold put find?
  by_cases ho : other = []
  · simp [ho]
  · simp only [h, ho, if_false]
    exact Keyed.find?_put ..

end Disk

end QuerySession
