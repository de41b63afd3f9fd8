-- What is found at the path of a file, and the files of a tree of directories.

import DelugeAssist.Text.Utf8

namespace DelugeAssist

/-- What is found at a path. -/
inductive FileState where
  | absent
  /-- Something is there that cannot be read, for a reason. -/
  | unreadable (reason : String)
  | content (octets : List UInt8)
deriving DecidableEq, Repr

namespace FileState

/-- What a directory answers when it is read. -/
def directory : FileState := .unreadable "Is a directory (os error 21)"

/-- The text of a file, or why there is none. -/
def text : FileState → Except String Text
  | .absent => .error "No such file or directory (os error 2)"
  | .unreadable reason => .error reason
  | .content octets =>
    match Utf8.decode? octets with
    | some text => .ok text
    | none => .error "stream did not contain valid UTF-8"

end FileState

/-- What is found at each path. -/
abbrev Files := String → FileState

/-- A path with a name added to it. There is one slash between the two. -/
def joinPath (base name : String) : String :=
  if base.isEmpty || base.toList.getLast? = some '/' then base ++ name else base ++ "/" ++ name

/-- Files and directories in a tree, to lay out a file system beforehand. -/
inductive FileTree where
  | file (octets : List UInt8)
  | directory (entries : List (String × FileTree))

namespace FileTree

/-- What the steps of a path lead to, from a tree whose parents are given, the nearest first. -/
def walk (parents : List FileTree) (tree : FileTree) : List String → Option FileTree
  | [] => some tree
  | step :: steps =>
    match tree with
    | .file _ => none
    | .directory entries =>
      if step = "" ∨ step = "." then walk parents tree steps
      else if step = ".." then
        match parents with
        | [] => walk [] tree steps
        | parent :: above => walk above parent steps
      else
        match entries.lookup step with
        | some next => walk (tree :: parents) next steps
        | none => none

/-- The files of a tree, by absolute paths. -/
def files (root : FileTree) : Files := fun path =>
  if path.toList.head? = some '/' then
    match walk [] root (path.splitOn "/") with
    | some (.file octets) => .content octets
    | some (.directory _) => .directory
    | none => .absent
  else .absent

end FileTree

end DelugeAssist
