import PredictionMarket.Dict

/-!
# Files

What a run sees of files is what each path leads to. A folder of named files answers
every relative path that stays inside it.
-/

namespace PredictionMarket

/-- What a path leads to. -/
inductive FileContent where
  /-- No file. -/
  | absent
  /-- A file that cannot be read as text. -/
  | unreadable
  | text (content : String)

/-- The text of a file that can be read. -/
def FileContent.text? : FileContent → Option String
  | text content => some content
  | _ => none

/-- The files by path. -/
abbrev Files := String → FileContent

/-- A folder of files and of folders with files, each file under its relative name. -/
structure Folder where
  files : Dict String

namespace Folder

/-- The components of a path. -/
def parts (path : String) : List String := path.splitOn "/"

/-- The components of a path that name something. -/
def names (path : String) : List String :=
  (parts path).filter fun part => part ≠ "" ∧ part ≠ "."

/-- Whether a place in the folder is a folder itself: the whole one, or one with a file
somewhere below. -/
def isFolder (folder : Folder) (place : List String) : Bool :=
  place.isEmpty || folder.files.keys.any fun name =>
    place.isPrefixOf (names name) && place.length < (names name).length

/-- The place that the components of a path lead to from another place; paths that leave
the folder lead nowhere. -/
def place? (folder : Folder) (reached : List String) : List String → Option (List String)
  | [] => some reached
  | part :: rest =>
    if !folder.isFolder reached then none
    else if part = "" ∨ part = "." then place? folder reached rest
    else if part = ".." then
      if reached.isEmpty then none else place? folder reached.dropLast rest
    else place? folder (reached ++ [part]) rest

/-- The text of the file at a place. -/
def fileAt? (folder : Folder) (place : List String) : Option String :=
  (folder.files.entries.find? fun entry => names entry.1 == place).map (·.2)

/-- What a path leads to in the folder; absolute paths lead nowhere. -/
def content (folder : Folder) : Files := fun path =>
  let found :=
    if "/".toList.isPrefixOf path.toList then none
    else (folder.place? [] (parts path)).bind folder.fileAt?
  match found with
  | some content => .text content
  | none => .absent

end Folder

end PredictionMarket
