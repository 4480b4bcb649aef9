import FrameTap.Bitmap

set_option autoImplicit false

namespace FrameTap

inductive FileContent
  | object (id : Nat)
  | image (bitmap : Bitmap)
  | empty
  deriving DecidableEq, Repr

structure FileTree where
  directories : List (List String)
  files : List (List String × FileContent)
  deriving Repr

inductive Located
  | directory (place : List String)
  | file (place : List String) (content : FileContent)
  | absent (place : List String)
  deriving DecidableEq, Repr

namespace FileTree

def longestName : Nat := 255

def longestPath : Nat := 4095

/-- Everything above the tree is one directory of which nothing is known. -/
def above : List String := [".."]

def ofDirectories (names : List String) : FileTree where
  directories := [] :: names.map (fun name => [name])
  files := []

def parent (place : List String) : List String :=
  if place = [] ∨ place = above then above else place.dropLast

def child (tree : FileTree) (directory : List String) (name : String) : Located :=
  let place := directory ++ [name]
  match tree.files.lookup place with
  | some content => .file place content
  | none => if place ∈ tree.directories then .directory place else .absent place

def walk (tree : FileTree) : Located → List String → Except SystemFault Located
  | here, [] => .ok here
  | .file .., _ :: _ => .error .notADirectory
  | .absent _, _ :: _ => .error .notFound
  | .directory place, name :: rest =>
    if name = "" ∨ name = "." then walk tree (.directory place) rest
    else if name = ".." then walk tree (.directory (parent place)) rest
    else if longestName < name.utf8ByteSize then .error .nameTooLong
    else walk tree (tree.child place name) rest

def locate (tree : FileTree) (path : String) : Except SystemFault Located :=
  if path.toList.contains '\x00' then .error .nulInName
  else if path.isEmpty then .error .notFound
  else if longestPath < path.utf8ByteSize then .error .nameTooLong
  else
    tree.walk (.directory (if path.startsWith "/" then above else [])) (path.splitOn "/")

def put (tree : FileTree) (place : List String) (content : FileContent) : FileTree :=
  { tree with files := (place, content) :: tree.files.filter (fun (other, _) => other ≠ place) }

def putDirectories (tree : FileTree) (place : List String) : FileTree :=
  let missing := (List.range place.length).filterMap (fun depth =>
    let directory := place.take depth
    if directory ∈ tree.directories then none else some directory)
  { tree with directories := tree.directories ++ missing }

def create (tree : FileTree) (path : String) (content : FileContent) :
    Except SystemFault FileTree :=
  match tree.locate path with
  | .error fault => .error fault
  | .ok (.directory _) => .error .isADirectory
  | .ok (.file place _) => .ok (tree.put place content)
  | .ok (.absent place) =>
    if place.dropLast ∈ tree.directories then .ok (tree.put place content)
    else .error .notFound

def remove (tree : FileTree) (path : String) : FileTree :=
  match tree.locate path with
  | .ok (.file place _) =>
    { tree with files := tree.files.filter (fun (other, _) => other ≠ place) }
  | _ => tree

def images (tree : FileTree) (path : String) : List (String × Bitmap) :=
  match tree.locate path with
  | .ok (.directory directory) =>
    tree.files.filterMap fun (place, content) =>
      match content, place.getLast? with
      | .image bitmap, some name =>
        if place.dropLast = directory then some (name, bitmap) else none
      | _, _ => none
  | _ => []

end FileTree

end FrameTap
