/-!
# Files

The program runs in a folder, and reads a file that a path leads to. A path is followed step by step: every
step but the last must lead to a folder, and the last one to a file whose bytes are a text. Above the
folder are others of which nothing else is known.
-/

namespace ArrowScript.CommandLine

/-- Why a file cannot be read. -/
inductive ReadProblem
  | absent
  | throughFile
  | directory
  | longName
  | notText
  | other (reason : String)
deriving DecidableEq

/-- The wording of a problem with reading. -/
def ReadProblem.message : ReadProblem → String
  | absent => "No such file or directory (os error 2)"
  | throughFile => "Not a directory (os error 20)"
  | directory => "Is a directory (os error 21)"
  | longName => "File name too long (os error 36)"
  | notText => "stream did not contain valid UTF-8"
  | other reason => reason

/-- The text that bytes stand for. -/
def decodeText (bytes : ByteArray) : Except ReadProblem String :=
  match String.fromUTF8? bytes with
  | some text => .ok text
  | none => .error .notText

/-- The steps of a path that is written with slashes. -/
def steps (path : String) : List String :=
  (path.split '/').toList.map (·.toString)

/-- Whether a step stays where it is. -/
def stays (step : String) : Bool :=
  step = "" || step = "."

/-- How many bytes a step may have. -/
def longestStep : Nat :=
  255

/-- How many bytes a path may have. -/
def longestPath : Nat :=
  4095

/-- What is found at a place. -/
inductive Item
  | folder
  | file (bytes : ByteArray)

/-- Where a walk along a path is. -/
inductive Place
  /-- In the folder or below it, at some names from it. -/
  | inside (names : List String)
  /-- Somewhere above the folder. -/
  | above
  /-- At some names from the root of all files. -/
  | fromRoot (names : List String)
deriving DecidableEq

namespace Place

/-- The place one step up. Above the root is the root. -/
def parent : Place → Place
  | inside [] => above
  | inside names => inside names.dropLast
  | above => above
  | fromRoot names => fromRoot names.dropLast

/-- The place below with a name, if anything is known of it. -/
def child? (name : String) : Place → Option Place
  | inside names => some (inside (names ++ [name]))
  | above => none
  | fromRoot names => some (fromRoot (names ++ [name]))

end Place

/-- The folders that every system has at its root. -/
def systemFolders : List String :=
  ["bin", "dev", "etc", "home", "proc", "tmp", "usr", "var"]

/-- What every system has at some names from its root. -/
def systemItem? : List String → Option Item
  | [] => some .folder
  | [name] => if name ∈ systemFolders then some .folder else none
  | ["dev", "null"] => some (.file .empty)
  | _ => none

/-- The folders and files in a folder and below it, by the names that lead to them. -/
structure Folder where
  folders : List (List String)
  files : List (List String × ByteArray)

namespace Folder

/-- A folder with nothing in it. -/
def empty : Folder :=
  ⟨[], []⟩

/-- What is at some names. -/
def item? (folder : Folder) (names : List String) : Option Item :=
  match folder.files.find? (·.1 = names) with
  | some file => some (.file file.2)
  | none => if names.isEmpty || names ∈ folder.folders then some .folder else none

/-- Puts a file where steps lead to from some names, with the folders on the way. The file replaces one
that is there. -/
def put (folder : Folder) (bytes : ByteArray) : List String → List String → Folder
  | _, [] => folder
  | names, step :: rest =>
    if stays step then folder.put bytes names rest
    else if step = ".." then folder.put bytes names.dropLast rest
    else
      let names := names ++ [step]
      if rest.isEmpty then { folder with files := (names, bytes) :: folder.files }
      else { folder with folders := names :: folder.folders }.put bytes names rest

/-- The folder with files at paths, which are put there one after another. -/
def ofFiles (files : List (String × ByteArray)) : Folder :=
  files.foldl (fun folder (path, bytes) => folder.put bytes [] (steps path)) empty

/-- What is at a place. -/
def itemAt? (folder : Folder) : Place → Option Item
  | .inside names => folder.item? names
  | .above => some .folder
  | .fromRoot names => systemItem? names

/-- Follows steps from a place. -/
def follow (folder : Folder) : Place → List String → Except ReadProblem ByteArray
  | _, [] => .error .directory
  | place, step :: rest =>
    if stays step then folder.follow place rest
    else if step = ".." then folder.follow place.parent rest
    else if longestStep < step.utf8ByteSize then .error .longName
    else
      match place.child? step with
      | none => .error .absent
      | some next =>
        match folder.itemAt? next with
        | none => .error .absent
        | some .folder => folder.follow next rest
        | some (.file bytes) => if rest.isEmpty then .ok bytes else .error .throughFile

/-- Reads a text at a path. -/
def readText (folder : Folder) (path : String) : Except ReadProblem String := do
  if longestPath < path.utf8ByteSize then throw .longName
  let start := if path.startsWith "/" then Place.fromRoot [] else .inside []
  decodeText (← folder.follow start (steps path))

end Folder

end ArrowScript.CommandLine
