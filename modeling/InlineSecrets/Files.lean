/-
**Files.**

The files that a configuration may come from, by their names.  A name is a path, with `/` between
its components; a directory is there when a file is in it, and two dots lead to the directory that
a directory is in.  A path that begins with `/` does not depend on the directory that the program
runs in, and is never the same as one that does.

Main definitions:

* `InlineSecrets.Files` — the files that there are;
* `InlineSecrets.Files.find` — what there is of a name;
* `InlineSecrets.Files.read` — the contents of a file, or why there are none;
* `InlineSecrets.Files.tidy` — the shortest spelling of a name.
-/

import InlineSecrets.Assoc
import InlineSecrets.Utf8

set_option relaxedAutoImplicit false
set_option autoImplicit false

namespace InlineSecrets

/-- The files that there are, with their contents. -/
abbrev Files := Assoc Text Bytes

namespace Files

/-- Why a file cannot be read. -/
inductive Fault where
  | absent
  | notDirectory
  | isDirectory
  /-- The name, or a component of it, is too long. -/
  | tooLong
  /-- The name has a zero byte in it. -/
  | zeroByte
  deriving DecidableEq, Repr

/-- The number and the wording of a fault of the system. -/
def Fault.wording? : Fault → Option (Nat × String)
  | absent => some (2, "No such file or directory")
  | notDirectory => some (20, "Not a directory")
  | isDirectory => some (21, "Is a directory")
  | tooLong => some (36, "File name too long")
  | zeroByte => none

/-- The message for a fault with the file of a name. -/
def Fault.message (f : Fault) (name : Text) : String :=
  match f.wording? with
  | some (number, wording) =>
      "[Errno " ++ toString number ++ "] " ++ wording ++ ": " ++ Text.quoted name
  | none => "embedded null byte"

/-- The components of a path; empty ones and single dots do not count, but the one in front of a
leading `/` does. -/
def components (name : Text) : List Text :=
  let plain := (name.split '/').filter fun c => c ≠ [] ∧ c ≠ ['.']
  if name.head? = some '/' then [] :: plain else plain

/-- The greatest number of bytes in a component of a path. -/
def componentLimit : Nat := 255

/-- The greatest number of bytes in a path. -/
def pathLimit : Nat := 4095

/-- What a path leads to: a file, the directory of a path, or a directory above the one that the
program runs in. -/
inductive Target where
  | file (contents : Bytes)
  | directory (path : List Text)
  | above
  deriving DecidableEq, Repr

/-- The files that there are, with the one that is always empty. -/
def withNull (fs : Files) : Files := fs ++ [("/dev/null".toList, [])]

/-- The file or the directory of a path. -/
def target? (fs : Files) (path : List Text) : Option Target :=
  match fs.find? fun f => components f.1 = path with
  | some f => some (.file f.2)
  | none =>
      if path.isEmpty || path == [[]] || fs.any fun f => path.isPrefixOf (components f.1) then
        some (.directory path)
      else none

/-- What a component leads to from somewhere. -/
def follow (fs : Files) (here : Target) (component : Text) : Except Fault Target :=
  let isLong := componentLimit < (Utf8.encode component).length
  match here with
  | .file _ => .error .notDirectory
  | .above =>
      if component = ['.', '.'] then .ok .above
      else .error (if isLong then .tooLong else .absent)
  | .directory path =>
      if component = ['.', '.'] then
        .ok (if path = [] then .above else if path = [[]] then here else .directory path.dropLast)
      else if isLong then .error .tooLong
      else match fs.target? (path ++ [component]) with
        | some there => .ok there
        | none => .error .absent

/-- What the path of a name leads to. -/
def find (fs : Files) (name : Text) : Except Fault Target :=
  if name.contains '\x00' then .error .zeroByte
  else if pathLimit < (Utf8.encode name).length then .error .tooLong
  else
    let (start, steps) : Target × List Text :=
      match components name with
      | [] :: steps => (.directory [[]], steps)
      | steps => (.directory [], steps)
    steps.foldlM fs.withNull.follow start

/-- The contents of the file of a name. -/
def read (fs : Files) (name : Text) : Except Fault Bytes :=
  match fs.find name with
  | .ok (.file b) => .ok b
  | .ok _ => .error .isDirectory
  | .error f => .error f

/-- The slashes that a path begins with: two stay two, and more than two mean the same as one. -/
def root (name : Text) : Text :=
  match (name.takeWhile (· = '/')).length with
  | 0 => []
  | 2 => ['/', '/']
  | _ => ['/']

/-- The path without empty components and single dots; the directory itself is a single dot. -/
def tidy (name : Text) : Text :=
  let plain := (components name).filter (· ≠ [])
  match root name ++ List.intercalate ['/'] plain with
  | [] => ['.']
  | path => path

end Files

/-- The text with every line break written as a single line feed. -/
def Text.unifyBreaks : Text → Text
  | [] => []
  | '\r' :: '\n' :: r => '\n' :: unifyBreaks r
  | '\r' :: r => '\n' :: unifyBreaks r
  | c :: r => c :: unifyBreaks r

end InlineSecrets
