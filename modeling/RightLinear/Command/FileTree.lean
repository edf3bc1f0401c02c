import RightLinear.PathName

/-! # File trees

A tree of folders and files, as far as a command can see it: it can find and
read a file, make a folder and put a file in its place. Paths are followed name by name
from the top or from the folder that the command works in. What is put at a
place stands there, and the files at other places stay as they are.
-/

namespace RightLinear
namespace Command

/-- The names on the way from the top of the tree. -/
abbrev Place := List String

/-- A file, or a folder of files and folders with names. -/
inductive FileTree
  | file (content : ByteArray)
  | folder (entries : List (String × FileTree))

/-- Why the system refuses to follow, read or write a path. -/
inductive SystemFault
  | missing
  | exists
  | notFolder
  | isFolder
  | nameTooLong
  | nulInName
  | notText
  | other (words : String)
  deriving DecidableEq

def SystemFault.message : SystemFault → String
  | .missing => "No such file or directory (os error 2)"
  | .exists => "File exists (os error 17)"
  | .notFolder => "Not a directory (os error 20)"
  | .isFolder => "Is a directory (os error 21)"
  | .nameTooLong => "File name too long (os error 36)"
  | .nulInName => "file name contained an unexpected NUL byte"
  | .notText => "stream did not contain valid UTF-8"
  | .other words => words

namespace FileTree

def empty : FileTree := .folder []

def subtree? : FileTree → Place → Option FileTree
  | tree, [] => some tree
  | .file _, _ :: _ => none
  | .folder entries, name :: names =>
      match entries.lookup name with
      | none => none
      | some tree => tree.subtree? names

/-- The content of the file at a place, if there is a file. -/
def content? (tree : FileTree) (place : Place) : Option ByteArray :=
  match tree.subtree? place with
  | some (.file content) => some content
  | _ => none

/-- The entries of a folder with a new one, in the place of the one of that name
or at the end. -/
def putEntry (name : String) (new : FileTree) :
    List (String × FileTree) → List (String × FileTree)
  | [] => [(name, new)]
  | entry :: entries =>
      if entry.1 = name then (name, new) :: entries
      else entry :: putEntry name new entries

/-- Puts something at a place, with the folders on the way to it. Nothing can be
put below a file. -/
def put : FileTree → Place → FileTree → FileTree
  | _, [], new => new
  | .file content, _ :: _, _ => .file content
  | .folder entries, name :: names, new =>
      .folder (putEntry name (((entries.lookup name).getD empty).put names new) entries)

theorem lookup_putEntry (name other : String) (new : FileTree)
    (entries : List (String × FileTree)) :
    (putEntry name new entries).lookup other =
      if other = name then some new else entries.lookup other := by
  induction entries with
  | nil =>
      by_cases same : other = name
      · simp [putEntry, same]
      · simp [putEntry, List.lookup_cons, beq_eq_false_iff_ne.mpr same, same]
  | cons entry entries induction =>
      obtain ⟨key, old⟩ := entry
      by_cases here : key = name
      · by_cases same : other = name
        · simp [putEntry, here, same]
        · simp [putEntry, here, List.lookup_cons, beq_eq_false_iff_ne.mpr same, same]
      · by_cases first : other = key
        · simp [putEntry, here, first]
        · simp [putEntry, here, List.lookup_cons, beq_eq_false_iff_ne.mpr first, induction]

@[simp] theorem content?_empty (place : Place) : empty.content? place = none := by
  cases place <;> rfl

theorem content?_folder_cons (entries : List (String × FileTree)) (name : String)
    (names : Place) :
    (folder entries).content? (name :: names) =
      ((entries.lookup name).getD empty).content? names := by
  cases found : entries.lookup name with
  | none =>
      rw [Option.getD_none, content?_empty]
      simp [content?, subtree?, found]
  | some tree => simp [content?, subtree?, found]

/-- What is put at a place stands there, unless a file is in the way. -/
theorem subtree?_put {tree new : FileTree} {place : Place}
    (clear : ∀ before name after, place = before ++ name :: after →
      tree.content? before = none) :
    (tree.put place new).subtree? place = some new := by
  induction place generalizing tree with
  | nil => cases tree <;> rfl
  | cons name names induction =>
      cases tree with
      | file content =>
          have blocked : (file content).content? [] = none := clear [] name names rfl
          exact absurd blocked (Option.some_ne_none content)
      | folder entries =>
          simp only [put, subtree?, lookup_putEntry, if_true]
          refine induction fun before next after equal => ?_
          rw [← content?_folder_cons]
          exact clear (name :: before) next after (by rw [equal, List.cons_append])

/-- Where no files are below a place, putting something without files below it has
no effect on the files at other places. -/
theorem content?_put_of_ne {tree new : FileTree} {place other : Place}
    (bare : ∀ name names, tree.content? (place ++ name :: names) = none)
    (bareNew : ∀ name names, new.content? (name :: names) = none)
    (different : other ≠ place) :
    (tree.put place new).content? other = tree.content? other := by
  induction place generalizing tree other with
  | nil =>
      cases other with
      | nil => exact absurd rfl different
      | cons name names =>
          have putHere : tree.put [] new = new := by cases tree <;> rfl
          rw [putHere, bareNew]
          exact (bare name names).symm
  | cons name names induction =>
      cases tree with
      | file content => rfl
      | folder entries =>
          cases other with
          | nil => rfl
          | cons first rest =>
              rw [put, content?_folder_cons, content?_folder_cons, lookup_putEntry]
              by_cases same : first = name
              · subst same
                rw [if_pos rfl, Option.getD_some]
                refine induction (fun next after => ?_) fun equal => different (by rw [equal])
                rw [← content?_folder_cons]
                exact bare next after
              · rw [if_neg same]

/-- The place that a name leads to from another. -/
def neighbour (place : Place) (name : String) : Place :=
  if PathName.isIdle name then place
  else if name = ".." then place.dropLast
  else place ++ [name]

def longestName : Nat := 255

/-- Refuses a place where no folder is. -/
def requireFolder (tree : FileTree) (place : Place) : Except SystemFault Unit :=
  match tree.subtree? place with
  | none => .error .missing
  | some (.file _) => .error .notFolder
  | some (.folder _) => .ok ()

/-- The place of a name in a folder, whether anything stands there or not. -/
def enter (tree : FileTree) (place : Place) (name : String) : Except SystemFault Place := do
  tree.requireFolder place
  if longestName < name.utf8ByteSize then throw .nameTooLong
  return neighbour place name

def walk (tree : FileTree) (place : Place) (names : List String) :
    Except SystemFault Place :=
  names.foldlM tree.enter place

def longestPath : Nat := 4095

/-- Refuses the texts that are no path at all, wherever they would lead. -/
def accept (path : PathName) : Except SystemFault Unit :=
  if path.text.toList.contains '\x00' then .error .nulInName
  else if path.text = "" then .error .missing
  else if longestPath < path.text.utf8ByteSize then .error .nameTooLong
  else .ok ()

/-- Where a path begins: at the top or in the working folder. -/
def base (working : Place) (path : PathName) : Place :=
  if path.isAbsolute then [] else working

def find (tree : FileTree) (working : Place) (path : PathName) :
    Except SystemFault FileTree := do
  accept path
  let place ← tree.walk (base working path) path.segments
  match tree.subtree? place with
  | none => throw .missing
  | some found => return found

/-- Sees to it that there is a folder at a place inside a folder. -/
def ensureFolder (tree : FileTree) (place : Place) : FileTree × Except SystemFault Place :=
  match tree.subtree? place with
  | none => (tree.put place empty, .ok place)
  | some (.file _) => (tree, .error .exists)
  | some (.folder _) => (tree, .ok place)

/-- Sees to it that names lead to a folder and gives its place. Folders that are
missing on the way are made. The tree shows what has been made, also if there is a
fault. The names are given in reverse. -/
def ensureFolders (tree : FileTree) (start : Place) :
    List String → FileTree × Except SystemFault Place
  | [] => (tree, .ok start)
  | last :: before =>
      match tree.walk start (last :: before).reverse with
      | .ok place => tree.ensureFolder place
      | .error .missing =>
          match tree.ensureFolders start before with
          | (made, .error fault) => (made, .error fault)
          | (made, .ok parent) =>
              match made.enter parent last with
              | .error fault => (made, .error fault)
              | .ok place => made.ensureFolder place
      | .error fault => (tree, .error fault)

/-- Makes the folder at a path, if it is not there, and those on the way to it. -/
def makeFolder (tree : FileTree) (working : Place) (path : PathName) :
    FileTree × Option SystemFault :=
  match accept path with
  | .error fault => (tree, some fault)
  | .ok () =>
      match tree.ensureFolders (base working path) path.names.reverse with
      | (made, .error fault) => (made, some fault)
      | (made, .ok _) => (made, none)

/-- The place of the file that is written by a path. A path that ends in a slash cannot be
a file, whatever its last name is. -/
def outputPlace (tree : FileTree) (working : Place) (path : PathName) :
    Except SystemFault Place := do
  accept path
  match path.segments.reverse.dropWhile (· == "") with
  | [] => throw .isFolder
  | last :: before =>
      let parent ← tree.walk (base working path) before.reverse
      tree.requireFolder parent
      if last = "." ∨ last = ".." ∨ path.text.toList.getLast? = some '/' then throw .isFolder
      let place ← tree.enter parent last
      match tree.subtree? place with
      | some (.folder _) => throw .isFolder
      | _ => return place

end FileTree
end Command
end RightLinear
