/-
**The local files.**

What a run reads of the local files is known before it starts: a list of files with their bodies
and of directories.  Reading walks through the parts of a path from the working directory.

Main definitions:

* `Cutover.Files` — the files by their path;
* `Cutover.Files.read` — the text of a file, or why it cannot be read.
-/
import Cutover.Failure
import Cutover.File.Path

set_option autoImplicit false

namespace Cutover

/-- Files with their bodies, and directories without one, by the parts of their paths. -/
structure Files where
  entries : List (List String × Option ByteArray)

namespace Files

/-- What stands for the root in front of the parts of an absolute path. -/
def root : String := "/"

/-- The parts of a path that name something. -/
def names (path : String) : List String :=
  let parts := (Path.parts path).filter (fun p => p ≠ "" && p ≠ ".")
  if Path.isAbsolute path then root :: parts else parts

/-- The files of a list of paths; a path without a body is a directory. -/
def ofList (l : List (String × Option ByteArray)) : Files :=
  ⟨l.map (fun e => (names e.1, e.2))⟩

/-- The longest name of a file, in bytes. -/
def maxName : Nat := 255

/-- The length in bytes from which on a path is refused. -/
def maxPath : Nat := 4096

/-- What a path leads to. -/
inductive Place
  | file (body : ByteArray)
  /-- A directory, by the names that lead to it. -/
  | directory (names : List String)
  /-- A directory above the working directory. -/
  | above

/-- What stands under a name in a directory. -/
def look (f : Files) (names : List String) : Except FileError Place :=
  match f.entries.find? (fun e => e.1 == names) with
  | some (_, some body) => .ok (.file body)
  | some (_, none) => .ok (.directory names)
  | none =>
    if f.entries.any (fun e => names.isPrefixOf e.1) then .ok (.directory names)
    else .error .notFound

/-- One step along a path. -/
def step (f : Files) (place : Place) (part : String) : Except FileError Place :=
  match place with
  | .file _ => .error .notDirectory
  | .directory names =>
    if part = "" || part = "." then .ok place
    else if part = ".." then
      if names = [root] then .ok place
      else if names.isEmpty then .ok .above
      else .ok (.directory names.dropLast)
    else if maxName < part.utf8ByteSize then .error .nameTooLong
    else f.look (names ++ [part])
  | .above =>
    if part = "" || part = "." || part = ".." then .ok place
    else if maxName < part.utf8ByteSize then .error .nameTooLong
    else .error .notFound

/-- The steps along the parts of a path. -/
def walk (f : Files) (place : Place) : List String → Except FileError Place
  | [] => .ok place
  | part :: parts => do f.walk (← f.step place part) parts

/-- What a path leads to from the working directory. -/
def locate (f : Files) (path : String) : Except FileError Place :=
  if path.toList.contains '\x00' then .error .nulInPath
  else if path.isEmpty then .error .notFound
  else if maxPath ≤ path.utf8ByteSize then .error .nameTooLong
  else if Path.isAbsolute path then f.walk (.directory [root]) (Path.parts path)
  else f.walk (.directory []) (Path.parts path)

/-- The text of a file. -/
def read (f : Files) (path : String) : Except FileError String := do
  match ← f.locate path with
  | .file body =>
    match String.fromUTF8? body with
    | some s => return s
    | none => throw .notUtf8
  | _ => throw .isDirectory

end Files

end Cutover
