/-!
What there is under a path when a configuration is checked or read.
-/

namespace DurableMqtt

inductive File where
  | directory
  | regular (content : ByteArray)
  /-- A file that can be read but is neither regular nor a directory. -/
  | device (content : ByteArray)

abbrev FileLookup := String → Option File

inductive PathFault where
  | empty
  | missing (path : String)
  | notRegular (path : String)
deriving DecidableEq

namespace PathFault

def code : PathFault → String
  | empty => "empty_path"
  | missing _ => "file_not_found"
  | notRegular _ => "not_a_file"

def message : PathFault → String
  | empty => "File path cannot be empty"
  | missing path => "File does not exist: " ++ path
  | notRegular path => "Path is not a file: " ++ path

end PathFault

namespace FileLookup

def check (files : FileLookup) (path : String) : Except PathFault Unit :=
  if path.isEmpty then .error .empty
  else
    match files path with
    | none => .error (.missing path)
    | some (.regular _) => .ok ()
    | some _ => .error (.notRegular path)

def read (files : FileLookup) (path : String) : Except String ByteArray :=
  match files path with
  | none => .error "No such file or directory (os error 2)"
  | some .directory => .error "Is a directory (os error 21)"
  | some (.regular content) | some (.device content) => .ok content

def readText (files : FileLookup) (path : String) : Except String String := do
  match String.fromUTF8? (← files.read path) with
  | some text => .ok text
  | none => .error "stream did not contain valid UTF-8"

end FileLookup

inductive FileTree where
  | leaf (file : File)
  | folder (entries : List (String × FileTree))

namespace FileTree

/-- Goes from one part of a path to the next. The folders passed on the way are kept for the
steps back; the root has no folder above it, and a file has nothing under it. -/
def walk : List FileTree → List String → Option File
  | [], _ => none
  | leaf file :: _, [] => some file
  | folder _ :: _, [] => some .directory
  | leaf _ :: _, _ :: _ => none
  | folder entries :: above, part :: rest =>
    if part.isEmpty || part == "." then walk (folder entries :: above) rest
    else if part == ".." then walk (if above.isEmpty then [folder entries] else above) rest
    else
      match entries.lookup part with
      | some tree => walk (tree :: folder entries :: above) rest
      | none => none

/-- Looks paths up in a tree, those that do not start at the root in another. -/
def lookup (root working : FileTree) : FileLookup := fun path =>
  if path.isEmpty || path.contains '\x00' then none
  else walk [if path.startsWith "/" then root else working] (path.splitOn "/")

end FileTree

end DurableMqtt
