import SellerApi.Report.Parquet

/-! # Files

A `Disk` is the part of a file system that a program can see: some folders and the contents of some
files, by their paths. To create a file empties one that is there; it needs a folder around it. -/

namespace SellerApi

/-- What a file holds. -/
inductive Content where
  | octets (octets : List UInt8)
  /-- A Parquet file, by what it says about itself. -/
  | parquet (file : Parquet.File)
  deriving DecidableEq, Repr

/-- Why the operating system refuses a path. -/
inductive PathFault where
  | missing
  | isFolder
  | noFolder
  deriving DecidableEq, Repr

def PathFault.message : PathFault → String
  | .missing => "No such file or directory (os error 2)"
  | .isFolder => "Is a directory (os error 21)"
  | .noFolder => "Not a directory (os error 20)"

/-- Folders and files by their paths. -/
structure Disk where
  folders : List String := []
  files : List (String × Content) := []
  deriving DecidableEq, Repr

namespace Disk

/-- The path of the folder around a path. -/
def folderOf (path : String) : String :=
  let front := (path.toList.reverse.dropWhile (· ≠ '/')).drop 1
  if path.toList.contains '/' then
    if front = [] then "/" else String.ofList front.reverse
  else "."

def get? (d : Disk) (path : String) : Option Content :=
  (d.files.find? (·.1 = path)).map (·.2)

/-- Why there is no file at a path that is no folder. -/
def absence (d : Disk) (path : String) : PathFault :=
  if (d.get? (folderOf path)).isSome then .noFolder else .missing

/-- The content of a file. -/
def read (d : Disk) (path : String) : Except PathFault Content :=
  if d.folders.contains path then .error .isFolder
  else
    match d.get? path with
    | some content => .ok content
    | none => .error (d.absence path)

/-- The disk with a file that holds a content. -/
def put (d : Disk) (path : String) (content : Content) : Disk :=
  { d with files := (path, content) :: d.files.filter (·.1 ≠ path) }

/-- The disk with an empty file. -/
def create (d : Disk) (path : String) : Except PathFault Disk :=
  if path = "" then .error .missing
  else if d.folders.contains path ∨ path.toList.getLast? = some '/' then .error .isFolder
  else if d.folders.contains (folderOf path) then .ok (d.put path (.octets []))
  else .error (d.absence path)

end Disk

/-- Writes the data rows of a report to a Parquet file. The report is checked before the file is
created. The result is the number of rows. -/
def Report.saveParquet (r : Report) (settings : Parquet.Settings) (path : String) (d : Disk) :
    Except Failure Nat × Disk :=
  match r.check with
  | .error f => (.error f, d)
  | .ok () =>
    match d.create path with
    | .error f => (.error (.output ("Failed to create " ++ path ++ ": " ++ f.message)), d)
    | .ok d =>
      match r.toParquet settings with
      | .error f => (.error f, d)
      | .ok (rows, file) => (.ok rows, d.put path (.parquet file))

end SellerApi
