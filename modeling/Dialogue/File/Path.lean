import Dialogue.Text.Split

/-!
# Dialogue.File.Path — paths in normal form

A path is written without empty parts, without `.` parts and without a slash at the end; what goes
up with `..` stays. A path from the root starts with a slash, or with exactly two where two were
given.
-/

namespace Dialogue.File

/-- The slashes at the start of a path that are kept. -/
def rootOf : List Char → List Char
  | '/' :: '/' :: '/' :: _ => ['/']
  | '/' :: '/' :: _ => ['/', '/']
  | '/' :: _ => ['/']
  | _ => []

/-- The normal form of a path. -/
def normalPath (path : String) : String :=
  let cs := path.toList
  let parts := (Text.splitAt '/' cs).filter fun part => part != [] && part != ['.']
  let normal := rootOf cs ++ Text.joinWith '/' parts
  if normal.isEmpty then "." else String.ofList normal

/-- A path below a folder; a path from the root stands for itself. -/
def joinPath (folder path : String) : String :=
  if path.startsWith "/" then normalPath path else normalPath (folder ++ "/" ++ path)

end Dialogue.File
