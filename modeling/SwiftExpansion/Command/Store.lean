import SwiftExpansion.Json.Document

/-!
# The files a command sees

The files around the working directory, as a map from places to octets. A place is the list of
names that lead to it from the working directory, or from the root when it starts with a slash. A
directory is there when a file below it is, or when it is listed.
-/
namespace SwiftExpansion

abbrev Place := List String

structure Store where
  files : List (Place × List UInt8)
  directories : List Place := []
  deriving Repr

/-- What a path leads to: a file, a directory, a free name in a directory, or nothing because a
directory on the way is missing or is a file, or because a name is too long. -/
inductive PathStatus
  | file (octets : List UInt8)
  | directory
  | free
  | missing
  | notDirectory
  | nameTooLong
  deriving Repr, DecidableEq

namespace Path

def maxName : Nat := 255

def maxPath : Nat := 4095

def names (path : String) : List String :=
  (path.toList.splitOn '/').map String.ofList

def isAbsolute (path : String) : Bool :=
  path.toList.head? == some '/'

/-- Two slashes in front are kept, any other number of them counts as one. -/
def root (path : String) : String :=
  match Nat.min 3 (path.toList.takeWhile (· == '/')).length with
  | 0 => ""
  | 2 => "//"
  | _ => "/"

/-- The path without empty names and dots, as messages show it. -/
def shown (path : String) : String :=
  let names := (names path).filter fun n => !n.isEmpty && n != "."
  let s := root path ++ "/".intercalate names
  if s.isEmpty then "." else s

end Path

namespace Store

def isDirectory (s : Store) (place : Place) : Bool :=
  place.all (· == "..") || place == ["/"] || s.directories.contains place ||
    s.files.any fun f => place.isPrefixOf f.1 && place.length < f.1.length

/-- The directory above a place; there is one above the working directory, none above the root. -/
def parent (place : Place) : Place :=
  if place == ["/"] then place
  else if place.all (· == "..") then place ++ [".."]
  else place.dropLast

def follow (s : Store) : Place → List String → Place × PathStatus
  | place, [] => (place, .directory)
  | place, name :: rest =>
    if name.isEmpty || name == "." then follow s place rest
    else if name == ".." then follow s (parent place) rest
    else if Path.maxName < name.utf8ByteSize then (place ++ [name], .nameTooLong)
    else
      let next := place ++ [name]
      match s.files.lookup next with
      | some octets => (next, if rest.isEmpty then .file octets else .notDirectory)
      | none =>
        if s.isDirectory next then follow s next rest
        else (next, if rest.isEmpty then .free else .missing)

/-- The place and the status of a path. The empty path leads nowhere. -/
def resolve (s : Store) (path : String) : Place × PathStatus :=
  if path.isEmpty then ([], .missing)
  else if Path.maxPath < path.utf8ByteSize then ([], .nameTooLong)
  else s.follow (if Path.isAbsolute path then ["/"] else []) (Path.names path)

def status (s : Store) (path : String) : PathStatus :=
  (s.resolve path).2

def causeOf : PathStatus → FileCause
  | .directory => .isDirectory
  | .notDirectory => .notDirectory
  | .nameTooLong => .nameTooLong
  | _ => .missing

def read (s : Store) (path : String) : Except Fault (List UInt8) :=
  match s.status path with
  | .file octets => .ok octets
  | status => .error (.file (causeOf status) path)

def readJson (s : Store) (path : String) : Except Fault Json := do
  Json.ofOctets (← s.read path)

def put (s : Store) (place : Place) (octets : List UInt8) : Store :=
  if s.files.any (·.1 == place) then
    { s with files := s.files.map fun f => if f.1 == place then (place, octets) else f }
  else { s with files := s.files ++ [(place, octets)] }

/-- Writes a file, which may be new but not in a new directory. -/
def write (s : Store) (path : String) (octets : List UInt8) : Except Fault Store :=
  match s.resolve path with
  | (place, .file _) | (place, .free) => .ok (s.put place octets)
  | (_, status) => .error (.file (causeOf status) path)

end Store

end SwiftExpansion
