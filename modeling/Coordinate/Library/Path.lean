import Coordinate.Library.Text

/-! # Lexical path normalization

`posixpath.normpath` for paths with a leading slash and `ntpath.normpath`, without any file system
access. Both reduce the components of a path the same way (`collapse`) and differ in what they
regard as the root.
-/

namespace Path

/-- Reduce components against those already kept, the last one first. -/
def collapseOnto (rooted : Bool) : List String → List String → List String
  | kept, [] => kept.reverse
  | kept, part :: rest =>
    if part = "" ∨ part = "." then collapseOnto rooted kept rest
    else if part = ".." then
      match kept with
      | [] => if rooted then collapseOnto rooted [] rest else collapseOnto rooted [".."] rest
      | last :: earlier =>
        if last = ".." then collapseOnto rooted (".." :: last :: earlier) rest
        else collapseOnto rooted earlier rest
    else collapseOnto rooted (part :: kept) rest

def collapse (rooted : Bool) (parts : List String) : List String :=
  collapseOnto rooted [] parts

/-- `posixpath.normpath` of a path with exactly one leading slash. -/
def posixNormpath (path : String) : String :=
  "/" ++ Text.join "/" (collapse true (Text.split '/' path))

/-- The position of the first separator at or after a position. -/
def findFrom (sep : Char) (cs : List Char) (start : Nat) : Option Nat :=
  ((cs.drop start).findIdx? (· == sep)).map (· + start)

/-- `ntpath.splitdrive`, on characters whose separators are backslashes already. -/
def splitDrive (cs : List Char) : List Char × List Char :=
  if cs.take 2 = ['\\', '\\'] then
    let start := if (cs.take 8).map Char.toUpper = "\\\\?\\UNC\\".toList then 8 else 2
    match findFrom '\\' cs start with
    | none => (cs, [])
    | some server =>
      match findFrom '\\' cs (server + 1) with
      | none => (cs, [])
      | some share => (cs.take share, cs.drop share)
  else if (cs.drop 1).take 1 = [':'] then (cs.take 2, cs.drop 2)
  else ([], cs)

/-- `ntpath.normpath`. -/
def ntNormpath (path : String) : String :=
  let drive := splitDrive (Text.replaceChar '/' '\\' path).toList
  let rooted := drive.2.head? = some '\\'
  let lead := if rooted then drive.1 ++ ['\\'] else drive.1
  let parts := collapse (lead.getLast? = some '\\')
    (((drive.2.dropWhile (· == '\\')).splitOn '\\').map String.ofList)
  if lead = [] ∧ parts = [] then "."
  else String.ofList lead ++ Text.join "\\" parts

/-- A path of `pathlib` on a POSIX system: its root and its parts. -/
structure Pure where
  root : String
  parts : List String
deriving DecidableEq, Repr

namespace Pure

def parse (raw : String) : Pure where
  root := match raw.toList with
    | '/' :: '/' :: '/' :: _ => "/"
    | '/' :: '/' :: _ => "//"
    | '/' :: _ => "/"
    | _ => ""
  parts := (Text.split '/' raw).filter fun part => part ≠ "" && part ≠ "."

/-- `base / path`. -/
def join (base path : Pure) : Pure :=
  if path.root ≠ "" then path else ⟨base.root, base.parts ++ path.parts⟩

/-- `str(path)`, which `os.path.normpath` leaves alone where no part is `..`. -/
def text (path : Pure) : String :=
  if path.root = "" ∧ path.parts = [] then "." else path.root ++ Text.join "/" path.parts

/-- `path.relative_to(base)`. -/
def relativeTo? (path base : Pure) : Option Pure :=
  if path.root = base.root ∧ base.parts.isPrefixOf path.parts then
    some ⟨"", path.parts.drop base.parts.length⟩
  else none

end Pure

example : posixNormpath "/srv/a/../b//./c" = "/srv/b/c" := by decide

example : ntNormpath "C:/Work/./a/..\\b" = "C:\\Work\\b" := by decide

end Path
