import FactQuery.Text.Pieces

/-!
# Paths in a file tree

A path is walked a name at a time from the root, or from the directory in which the program stands.
Only a directory can be walked through, and `..` leads to the one above; the root is above itself.
A name longer than 255 bytes fails in the directory that is asked for it, and a path of 4096 bytes
or more is not walked at all.
-/

set_option autoImplicit false

namespace FactQuery

open FactQuery.Text

inductive PathState where
  | present
  | absent
  /-- The path, or a name that is looked up on the way, is too long to be asked for. -/
  | tooLong
  deriving DecidableEq, Repr

structure FileTree where
  directories : List (List String)
  files : List (List String) := []
  here : List String := []

namespace FileTree

def nameLimit : Nat := 255

def pathLimit : Nat := 4095

def walk (tree : FileTree) (place : List String) : List String → PathState
  | [] => .present
  | name :: others =>
    if name.isEmpty || name == "." then walk tree place others
    else if name == ".." then walk tree place.dropLast others
    else if nameLimit < name.utf8ByteSize then .tooLong
    else if tree.directories.contains (place ++ [name]) then walk tree (place ++ [name]) others
    else if others.isEmpty && tree.files.contains (place ++ [name]) then .present
    else .absent

/-- What a path leads to.  No name holds the character NUL. -/
def look (tree : FileTree) (path : String) : PathState :=
  if path.toList.contains '\x00' then .absent
  else if pathLimit < path.utf8ByteSize then .tooLong
  else
    let start := if path.toList.head? == some '/' then [] else tree.here
    tree.walk start ((pieces '/' path.toList).map String.ofList)

end FileTree

end FactQuery
