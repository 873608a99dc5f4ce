import StepScript.Error
set_option autoImplicit false

/-!
# Commands: a folder of files

A working directory that holds files and no directories.  A path leads to a file by its name; `.`
and empty parts stay where they are, and a file has no parts of its own.  Outside the working
directory stand the usual directories of the root and the null device; no other file is there.
Lengths are limited in octets: a part to 255, a path to 4095.
-/

namespace StepScript

/-- The files of a working directory by name. -/
structure Folder where
  files : List (String × ByteArray)

namespace Folder

/-- Whether a part of a path is too long for a name. -/
def isTooLong (part : String) : Bool := 255 < part.utf8ByteSize

/-- Follows the parts of a path that leads above the working directory, where nothing is known but
that the places on the way are directories. -/
def above (parts : List String) : Except ReadFault ByteArray :=
  match parts.find? fun part => part != "" && part != "." && part != ".." with
  | none => .error .isDirectory
  | some part => .error (if isTooLong part then .nameTooLong else .notFound)

/-- The directories that stand at the root. -/
def rootDirectories : List String :=
  ["bin", "boot", "dev", "etc", "home", "lib", "media", "mnt", "opt", "proc", "root", "run", "sbin",
    "srv", "sys", "tmp", "usr", "var"]

/-- Follows the parts of a path from the root, or from one of its directories.  The null device
reads as an empty file. -/
def fromRoot : Option String → List String → Except ReadFault ByteArray
  | _, [] => .error .isDirectory
  | directory, part :: rest =>
      if part = "" || part = "." then fromRoot directory rest
      else if part = ".." then fromRoot none rest
      else if isTooLong part then .error .nameTooLong
      else if directory = some "dev" && part = "null" then
        if rest.isEmpty then .ok ByteArray.empty else .error .notDirectory
      else if directory.isNone && rootDirectories.contains part then fromRoot (some part) rest
      else .error .notFound

/-- Follows the parts of a path from the working directory. -/
def follow (f : Folder) : List String → Except ReadFault ByteArray
  | [] => .error .isDirectory
  | part :: rest =>
      if part = "" || part = "." then f.follow rest
      else if part = ".." then above rest
      else if isTooLong part then .error .nameTooLong
      else
        match f.files.find? fun file => file.1 == part with
        | none => .error .notFound
        | some file => if rest.isEmpty then .ok file.2 else .error .notDirectory

/-- Reads a file as text. -/
def read (f : Folder) : String → Except ReadFault String := fun path =>
  if path.contains '\x00' then .error .nulInName
  else if path = "" then .error .notFound
  else if 4095 < path.utf8ByteSize then .error .nameTooLong
  else
    let parts := path.splitOn "/"
    match if path.startsWith "/" then fromRoot none parts else f.follow parts with
    | .error fault => .error fault
    | .ok bytes =>
        match String.fromUTF8? bytes with
        | none => .error .notUtf8
        | some text => .ok text

end Folder

end StepScript
