/-!
A tree of files below one directory, and the paths that lead into it.
-/

namespace Verdict

namespace Path

def parts (path : String) : List String :=
  (path.toList.splitOn '/').map String.ofList

def fileName? (path : String) : Option String :=
  match ((parts path).filter fun part => !part.isEmpty && part != ".").getLast? with
  | some ".." => none
  | name => name

def extension? (path : String) : Option String := do
  let reversed := (← fileName? path).toList.reverse
  match reversed.dropWhile (· != '.') with
  | _ :: _ :: _ => some (String.ofList (reversed.takeWhile (· != '.')).reverse)
  | _ => none

end Path

/-- Files with their bytes and directories, by the names on the way to them. Directories on the way
to another entry need no entry of their own. -/
structure Files where
  entries : List (List String × Option ByteArray)

namespace Files

def isDirectory (files : Files) (place : List String) : Bool :=
  place.isEmpty || files.entries.any fun entry =>
    (entry.2.isNone && entry.1 == place) ||
      (place.length < entry.1.length && place.isPrefixOf entry.1)

/-- Follows the parts of a path. Every part but the last has to be a directory, and no path leads
out of the tree. -/
def walk (files : Files) (place : List String) : List String → Option (List String)
  | [] => some place
  | part :: rest =>
    if !files.isDirectory place then none
    else if part.isEmpty || part == "." then files.walk place rest
    else if part == ".." then
      if place.isEmpty then none else files.walk place.dropLast rest
    else files.walk (place ++ [part]) rest

def locate (files : Files) (path : String) : Option (List String) :=
  match Path.parts path with
  | "" :: _ => none
  | parts => files.walk [] parts

def text? (files : Files) (path : String) : Option String := do
  let place ← files.locate path
  let bytes ← (files.entries.lookup place).join
  String.fromUTF8? bytes

def names? (files : Files) (path : String) : Option (List String) := do
  let place ← files.locate path
  guard (files.isDirectory place)
  return (files.entries.filterMap fun entry =>
    if place.isPrefixOf entry.1 then entry.1[place.length]? else none).eraseDups

end Files

end Verdict
