/-! # Files

What reading a path gives, and a small tree of files in which paths are looked up. -/

namespace GridQuery

/-- What reading a path gives. -/
inductive FileStatus where
  | text (content : String)
  /-- A path that leads to nothing readable, and whether it leads to anything. -/
  | unreadable (found : Bool) (reason : String)
  deriving DecidableEq

namespace FileStatus

def isFound : FileStatus → Bool
  | text _ => true
  | unreadable found _ => found

def missing : FileStatus := unreadable false "No such file or directory (os error 2)"

def notDirectory : FileStatus := unreadable false "Not a directory (os error 20)"

def directory : FileStatus := unreadable true "Is a directory (os error 21)"

end FileStatus

/-- Files with their contents; a file is named by the parts of its path. -/
abbrev FileTree := List (List String × String)

namespace FileTree

/-- The parts of a path, without empty ones. -/
def parts (path : String) : List String :=
  ((path.toList.splitOn '/').filter (!·.isEmpty)).map String.ofList

def ofPaths (files : List (String × String)) : FileTree :=
  files.map fun (path, content) => (parts path, content)

def isDirectory (tree : FileTree) (path : List String) : Bool :=
  path.isEmpty || tree.any fun (file, _) => path.isPrefixOf file && path.length < file.length

/-- Follows the parts of a path from a directory on. -/
def follow (tree : FileTree) (dir : List String) : List String → FileStatus
  | [] =>
    match tree.lookup dir with
    | some content => .text content
    | none => if tree.isDirectory dir then .directory else .missing
  | part :: rest =>
    if (tree.lookup dir).isSome then .notDirectory
    else if !tree.isDirectory dir then .missing
    else if part = "." then tree.follow dir rest
    else if part = ".." then if dir.isEmpty then .missing else tree.follow dir.dropLast rest
    else tree.follow (dir ++ [part]) rest

/-- What reading a path gives; a slash at its end asks for a directory. -/
def status (tree : FileTree) (path : String) : FileStatus :=
  if path.isEmpty || path.toList.head? = some '/' then .missing
  else if path.toList.getLast? = some '/' then tree.follow [] (parts path ++ ["."])
  else tree.follow [] (parts path)

end FileTree
end GridQuery
