import Dialogue.Display
import Dialogue.File.Path

/-!
# Dialogue.File.Store — files and when they were written

A store holds files by their paths in normal form, each with its text and the time when it was
written. A time is given by the writer or is a new one, later than all before.

* Every path that a file was written to is in folders that stay there.
* A path that names a folder is no file.
* Nothing lies below a file.
-/

namespace Dialogue.File

/-- When a file was written. -/
inductive Stamp where
  /-- The writer said when, in nanoseconds. -/
  | given (time : Int)
  /-- A new time. -/
  | tick (number : Nat)
deriving DecidableEq, Repr

/-- Why a path cannot be used as a file. -/
inductive Trouble where
  | missing (path : String)
  | folder (path : String)
  /-- The path goes on below a file. -/
  | notFolder (path : String)
deriving DecidableEq, Repr

/-- The wording of a trouble. -/
def Trouble.message : Trouble → String
  | .missing path =>
    let shown := (Json.str path).quoted
    s!"[Errno 2] No such file or directory: {shown}"
  | .folder path =>
    let shown := (Json.str path).quoted
    s!"[Errno 21] Is a directory: {shown}"
  | .notFolder path =>
    let shown := (Json.str path).quoted
    s!"[Errno 20] Not a directory: {shown}"

/-- What a file holds. -/
structure Content where
  text : String
  stamp : Stamp
deriving DecidableEq, Repr

/-- Files and folders. -/
structure Store where
  /-- The files by their paths in normal form; no path stands twice. -/
  files : List (String × Content) := []
  folders : List String := []
  /-- How many times were new. -/
  ticks : Nat := 0
deriving Repr

namespace Store

/-- The folder that all paths start from. -/
def workingFolder : String := "."

/-- The folders that a path in normal form lies in, the outermost first. -/
def foldersOf (path : String) : List String :=
  let cs := path.toList
  (List.range cs.length).filterMap fun i =>
    if 0 < i ∧ cs[i]? = some '/' then some (String.ofList (cs.take i)) else none

/-- Whether a path in normal form names a folder. -/
def isFolder (path : String) (s : Store) : Bool :=
  path == workingFolder || s.folders.contains path

/-- The content of a file. -/
def find? (path : String) (s : Store) : Option Content := s.files.lookup (normalPath path)

/-- Whether a path in normal form goes on below a file. -/
def isBelowFile (path : String) (s : Store) : Bool :=
  (foldersOf path).any fun folder => (s.find? folder).isSome

/-- Why there is no file at a path. -/
def troubleAt (path : String) (s : Store) : Trouble :=
  if s.isFolder (normalPath path) then .folder path
  else if s.isBelowFile (normalPath path) then .notFolder path
  else .missing path

/-- When a file was written. -/
def stamp? (path : String) (s : Store) : Option Stamp := (s.find? path).map (·.stamp)

/-- The files without the one at a path. -/
def without (path : String) (files : List (String × Content)) : List (String × Content) :=
  files.filter fun (p, _) => p != path

/-- Writes a file, and makes the folders that it lies in. -/
def write (path text : String) (time : Option Int) (s : Store) : Store :=
  let path := normalPath path
  let stamp := match time with
    | some time => .given time
    | none => .tick s.ticks
  { files := (path, ⟨text, stamp⟩) :: without path s.files
    folders := s.folders ++ (foldersOf path).filter fun f => !s.folders.contains f
    ticks := s.ticks + 1 }

/-- Writes a file into a folder that is there. -/
def save (path text : String) (s : Store) : Except Trouble Store :=
  let normal := normalPath path
  if path = "" then .error (.missing path)
  else if s.isFolder normal then .error (.folder path)
  else if (foldersOf normal).all s.isFolder then .ok (s.write path text none)
  else .error (s.troubleAt path)

/-- The text of a file. -/
def read (path : String) (s : Store) : Except Trouble String :=
  match s.find? path with
  | some content => .ok content.text
  | none => .error (s.troubleAt path)

/-- Removes a file. -/
def delete (path : String) (s : Store) : Except Trouble Store :=
  match s.find? path with
  | some _ => .ok { s with files := without (normalPath path) s.files }
  | none => .error (s.troubleAt path)

end Store

end Dialogue.File
