import SwingTrader.CommandLine.Files

/-!
# SwingTrader — files in memory

A tree of folders and files that the program can be run in. The program works in
one folder of it, where paths start that do not start at the root. Each name of
a path but the last has to lead to a folder, and a slash at its end asks for a
folder too.

* `FileTree.step`, `FileTree.walk` — where a path leads;
* `FileTree.read`, `FileTree.write` — reading and writing by path;
* `FileTree.files` — the files of a tree, for the program to run on;
* `FileTree.lookup_put_self` — a text that was put at a place is found there.
-/

namespace SwingTrader.CommandLine

/-- Files in memory, by the names on the way to them from the root, and their texts. -/
structure FileTree where
  entries : List (List String × String) := []

namespace FileTree

/-! ## Surroundings -/

/-- The folder that the program works in. -/
def workingFolder : List String :=
  ["tmp", "run"]

/-- The folders that are always there, with those on the way to them. -/
def standingFolders : List (List String) :=
  [workingFolder, ["dev"], ["etc"], ["proc"], ["usr"], ["var"]]

/-- A file without a text, which keeps nothing that is written to it. -/
def nullDevice : List String :=
  ["dev", "null"]

/-- The length of the longest name of a file or a folder, in bytes. -/
def longestName : Nat := 255

/-- The length of the longest path, in bytes. -/
def longestPath : Nat := 4095

/-! ## Places -/

/-- The text of the file at a place. -/
def text? (tree : FileTree) (place : List String) : Option String :=
  if place = nullDevice then some "" else tree.entries.lookup place

/-- Whether a place is a folder: one that is always there, or one on the way to a file. -/
def isFolder (tree : FileTree) (place : List String) : Bool :=
  standingFolders.any place.isPrefixOf
    || tree.entries.any fun entry => place != entry.1 && place.isPrefixOf entry.1

/-- Follows one name of a path from a place, which has to be a folder. -/
def step (tree : FileTree) (place : List String) (name : String) :
    Except FileError (List String) :=
  if tree.isFolder place then
    if name = "." then .ok place
    else if name = ".." then .ok place.dropLast
    else if longestName < name.utf8ByteSize then .error .nameTooLong
    else .ok (place ++ [name])
  else if (tree.text? place).isSome then .error .notADirectory
  else .error .notFound

/-- Follows the names of a path. Whether there is anything at its end is left open. -/
def walk (tree : FileTree) (start : List String) (names : List String) :
    Except FileError (List String) :=
  names.foldlM tree.step start

/-- The names in a path. -/
def namesOf (path : String) : List String :=
  ((path.toList.splitOn '/').map String.ofList).filter (· ≠ "")

/-- Where a path starts. -/
def startOf (path : String) : List String :=
  if path.toList.head? = some '/' then [] else workingFolder

/-- Whether a path ends with a slash. -/
def asksForFolder (path : String) : Bool :=
  path.toList.getLast? == some '/'

/-- Refuses a path that is empty or too long as a whole. -/
def checkPath (path : String) : Except FileError Unit :=
  if path.isEmpty then .error .notFound
  else if longestPath < path.utf8ByteSize then .error .nameTooLong
  else .ok ()

/-! ## Reading and writing -/

/-- The text at a path. -/
def read (tree : FileTree) (path : String) : Except FileError String := do
  checkPath path
  let place ← tree.walk (startOf path) (namesOf path ++ if asksForFolder path then ["."] else [])
  match tree.text? place with
  | some text => return text
  | none => throw (if tree.isFolder place then .isADirectory else .notFound)

/-- Replaces the text at a place, or adds a file. -/
def put (place : List String) (text : String) :
    List (List String × String) → List (List String × String)
  | [] => [(place, text)]
  | entry :: rest => if entry.1 = place then (place, text) :: rest else entry :: put place text rest

/-- A file that was written reads back as it was written. -/
theorem lookup_put_self (place : List String) (text : String)
    (entries : List (List String × String)) :
    (put place text entries).lookup place = some text := by
  induction entries with
  | nil => simp [put]
  | cons entry rest ih =>
    obtain ⟨name, old⟩ := entry
    by_cases h : name = place
    · simp [put, h]
    · simp [put, h, List.lookup_cons, beq_false_of_ne (Ne.symm h), ih]

/-- Writes a text to a path, in a folder that is there. A path that ends with a slash is taken for
a folder's, whatever stands there. -/
def write (tree : FileTree) (path text : String) : Except FileError FileTree := do
  checkPath path
  if asksForFolder path then
    let _ ← tree.walk (startOf path) ((namesOf path).dropLast ++ ["."])
    throw .isADirectory
  let place ← tree.walk (startOf path) (namesOf path)
  if tree.isFolder place then throw .isADirectory
  return if place = nullDevice then tree else ⟨put place text tree.entries⟩

/-- The files of a tree in memory. -/
def files : Files (StateM FileTree) where
  read path := return (← get).read path
  write path text := do
    match (← get).write path text with
    | .ok tree =>
      set tree
      return .ok ()
    | .error error => return .error error

/-! ## The working folder -/

/-- A tree with some files in its working folder, by path. -/
def ofList (files : List (String × String)) : FileTree :=
  ⟨files.map fun (path, text) => (workingFolder ++ (namesOf path).filter (· ≠ "."), text)⟩

/-- The files in the working folder, by path. -/
def toList (tree : FileTree) : List (String × String) :=
  tree.entries.filterMap fun (place, text) =>
    if workingFolder.isPrefixOf place then
      some ("/".intercalate (place.drop workingFolder.length), text)
    else none

end FileTree

end SwingTrader.CommandLine
