import RemoteModel.Failure
import RemoteModel.Text.PathName
import RemoteModel.Text.Utf8

/-!
# Files by name

`File` says what stands under a name: the bytes of a file, a folder, or nothing. Some named files
make up a small file system (`Files`), in which the folders are those that the names pass through.
-/

namespace RemoteModel.Cli

/-- What stands under a file name. -/
inductive File where
  | content (bytes : List UInt8)
  | directory
  | missing
  /-- A name that goes on behind the name of a file. -/
  | beyondFile
deriving DecidableEq

namespace File

/-- The bytes of a file, or why there are none. -/
def bytes : File → Except String (List UInt8)
  | content bytes => .ok bytes
  | directory => .error "Is a directory"
  | missing => .error "No such file or directory"
  | beyondFile => .error "Not a directory"

/-- The bytes of a file, if it has some. -/
def content? : File → Option (List UInt8)
  | content bytes => some bytes
  | _ => none

/-- Why a file cannot be written, if it cannot: first by what stands under the name of its folder,
then by what stands under its own. A folder that is missing can be made. -/
def writeFault? (folder file : File) : Option Failure :=
  match folder, file with
  | content _, _ => some .isFile
  | beyondFile, _ => some .behindFile
  | _, directory => some .isFolder
  | _, _ => none

end File

/-- The most bytes that a part of a file name may have. -/
def partLimit : Nat := 255

/-- A part of a file name is too long. -/
def isTooLong (name : String) : Bool :=
  (Text.PathName.segments name.toList).any fun s => (Text.Utf8.encode s).length > partLimit

/-- The contents of files by their names. -/
abbrev Files := Entries (List UInt8)

namespace Files

/-- Names of folders that are there without any files. -/
def folders : List String := [".", "..", "/"]

/-- What stands under a name. -/
def look (files : Files) (name : String) : File :=
  let name := Text.PathName.normal name
  let files : Files := files.map fun (other, bytes) => (Text.PathName.normal other, bytes)
  match files.get? name with
  | some bytes => .content bytes
  | none =>
    if folders.contains name || files.any fun f => f.1.startsWith (name ++ "/") then .directory
    else if files.any fun f => name.startsWith (f.1 ++ "/") then .beyondFile
    else .missing

/-- Makes a file without content, unless something stands under its name. -/
def create (files : Files) (name : String) : Files :=
  if files.look name = .missing then files.insert name [] else files

end Files

end RemoteModel.Cli
