import AccessorGen.Place

/-!
# File trees

The part of a file system that a run can see: what stands at which place below the working
directory. In a tree without limits, making directories fails exactly when a regular file is in the
way, writing a file exactly when a directory stands in its place, and nothing else fails. Limits add
that names and paths can be too long. What fails changes no file.
-/

set_option autoImplicit false

namespace AccessorGen

/-- What a file holds. -/
inductive Content
  | text (value : String)
  /-- Bytes that are not the encoding of a text. -/
  | bytes (value : ByteArray)

def Content.ofBytes (bs : ByteArray) : Content :=
  match String.fromUTF8? bs with
  | some s => .text s
  | none => .bytes bs

/-- What can stand at a place. -/
inductive Node
  | file (content : Content)
  | directory

/-- What stands where. -/
structure FileTree where
  nodes : List (Place × Node) := []
  /-- What the file system refuses whatever stands in it. Without limits it refuses nothing. -/
  limits : Option Limits := none

namespace FileTree

def node? (t : FileTree) (p : Place) : Option Node :=
  if p.isAbove then some .directory else t.nodes.lookup p

/-- The tree with this node at the place, instead of what stood there. -/
def put (t : FileTree) (p : Place) (n : Node) : FileTree :=
  if (t.nodes.lookup p).isSome then
    { t with nodes := t.nodes.map fun e => if e.1 == p then (p, n) else e }
  else { t with nodes := t.nodes ++ [(p, n)] }

def takesName (t : FileTree) (name : String) : Bool :=
  match t.limits with
  | some l => l.takesName name
  | none => true

def checkPath (t : FileTree) (path : String) : Except FileFault Unit :=
  match t.limits with
  | some l => l.checkPath path
  | none => .ok ()

/-- The fault of a regular file in the way of directories that are to be made: `made` says whether a
directory was made before the file was met, `rest` are the names beyond the file. The whole way is
tried first, so a file stops it as something that is no directory, unless the way ends there. Where a
directory is missing before the file, the directories are made one at a time, and then the file
stands where one of them should be. -/
def faultInTheWay (made : Bool) (rest : List String) : FileFault :=
  if made || rest.isEmpty then .fileExists else .notADirectory

/-- The tree with all directories on a way that starts at the place, and where the way ends; `made`
says whether a directory was made on the way to the place. -/
def makeDirectories (t : FileTree) (p : Place) (made : Bool) :
    List String → Except FileFault (FileTree × Place)
  | [] => .ok (t, p)
  | name :: rest =>
    let q := p.step name
    if t.takesName name then
      match t.node? q with
      | some .directory => t.makeDirectories q made rest
      | none => (t.put q .directory).makeDirectories q true rest
      | some (.file _) => .error (faultInTheWay made rest)
    else .error .nameTooLong

/-- The tree with this file at the path, below directories that are made if they are missing. -/
def write (t : FileTree) (path : String) (content : Content) : Except FileFault FileTree := do
  let names := Place.names path
  t.checkPath (Place.parent path)
  let (t, p) ← t.makeDirectories [] false names.dropLast
  t.checkPath path
  -- a path without names is that of a directory
  let name := names.getLastD Place.up
  let q := p.step name
  if t.takesName name then
    match t.node? q with
    | some .directory => .error .isADirectory
    | _ => .ok (t.put q (.file content))
  else .error .nameTooLong

def follow (t : FileTree) (p : Place) : List String → Except FileFault Node
  | [] =>
    match t.node? p with
    | some n => .ok n
    | none => .error .notFound
  | name :: rest =>
    match t.node? p with
    | some .directory =>
      if t.takesName name then t.follow (p.step name) rest else .error .nameTooLong
    | some (.file _) => .error .notADirectory
    | none => .error .notFound

def endsInDirectory (path : String) : Bool :=
  match (path.toList.splitOn '/').getLast? with
  | some part => part == [] || part == ['.']
  | none => true

def readText (t : FileTree) (path : String) : Except FileFault String := do
  if path = "" then .error .notFound
  t.checkPath path
  match ← t.follow [] (Place.names path) with
  | .directory => .error .isADirectory
  | .file content =>
    if endsInDirectory path then .error .notADirectory
    else
      match content with
      | .text s => .ok s
      | .bytes _ => .error .notText

def files (t : FileTree) : List (Place × Content) :=
  t.nodes.filterMap fun
    | (p, .file content) => some (p, content)
    | (_, .directory) => none

end FileTree

end AccessorGen
