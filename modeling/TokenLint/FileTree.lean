import TokenLint.Ordered
import TokenLint.Path
import TokenLint.Text.Quoted
import TokenLint.Text.Utf8

/-!
# File trees

The files that a run can see, as a value: a directory is its entries, a file is its bytes. An absolute
path starts at the top of the tree if its anchor is that of the working directory; any other path starts
at the working directory itself. Steps are taken one at a time, so a step up out of a name that is no
directory fails, and so does one out of the tree. A name can only have so many bytes, and so can a path;
a path with a NUL character in it names nothing.

## Main definitions

* `Node`: A file or a directory.
* `FileTree`: A tree and the working directory in it.
* `FileFault`: Why a path cannot be read.
* `FileTree.find`: What a path leads to.
* `FileTree.lookup`: The same, where it may be nothing.
* `FileTree.read`: The bytes of the file at a path.
* `ReadFault`, `FileTree.readSource`: The text of the file at a path.
-/

namespace TokenLint

/-- A file or a directory. -/
inductive Node where
  /-- A file and its bytes. -/
  | file (bytes : List UInt8)
  /-- A directory and its entries by name. -/
  | directory (entries : List (String × Node))

instance : Inhabited Node := ⟨.directory []⟩

/-- Why the file at a path cannot be read. -/
inductive FileFault where
  /-- A step of the path leads to nothing. -/
  | missing
  /-- A step of the path starts from a file. -/
  | notDirectory
  /-- The path leads to a directory. -/
  | isDirectory
  /-- The path, or the name of one of its steps, is too long. -/
  | tooLong
  /-- The path has a NUL character in it. -/
  | unnameable
  /-- The system does not allow it, for a reason that it reports in words of its own. -/
  | refused (number : Nat) (words : String)
deriving DecidableEq, Repr

namespace FileFault

/-- The number that systems give the fault and how they word it, if it gets as far as the system. -/
def report? : FileFault → Option (Nat × String)
  | missing => some (2, "No such file or directory")
  | notDirectory => some (20, "Not a directory")
  | isDirectory => some (21, "Is a directory")
  | tooLong => some (36, "File name too long")
  | refused number words => some (number, words)
  | unnameable => none

/-- The report of a fault at a path. -/
def message (path : Path) : FileFault → String
  | refused _ words => words
  | fault => match fault.report? with
    | some (number, text) => s!"[Errno {number}] {text}: {Text.quoted path.toString}"
    | none => "embedded null byte"

/-- Whether a fault means that there is nothing at a path. -/
def isAbsence : FileFault → Bool
  | missing | notDirectory | unnameable => true
  | isDirectory | tooLong | refused _ _ => false

end FileFault

/-- The greatest number of bytes of a name. -/
def nameLimit : Nat := 255

/-- The greatest number of bytes of a path. -/
def pathLimit : Nat := 4095

/-- The files that a run can see. -/
structure FileTree where
  /-- The absolute path of the working directory. -/
  home : Path
  /-- What is at the anchor of that path. -/
  top : Node

namespace FileTree

/-- The nodes on the way after one more step. The way is kept innermost node first, for steps up. -/
def step (way : List Node) (name : String) : Except FileFault (List Node) :=
  match way with
  | .directory entries :: up =>
    if nameLimit < name.utf8ByteSize then .error .tooLong
    else if name = ".." then
      if up.isEmpty then .error .missing else .ok up
    else match Ordered.get? name entries with
      | some node => .ok (node :: way)
      | none => .error .missing
  | _ => .error .notDirectory

/-- The steps of a path from the top of the tree, if it leads into the tree. -/
def stepsFromTop? (tree : FileTree) (path : Path) : Option (List String) :=
  if !path.isAbsolute then some (tree.home.steps ++ path.steps)
  else if path.anchor = tree.home.anchor then some path.steps
  else none

/-- What a path leads to. -/
def find (tree : FileTree) (path : Path) : Except FileFault Node := do
  if path.toString.toList.contains '\x00' then throw .unnameable
  if pathLimit < path.toString.utf8ByteSize then throw .tooLong
  match tree.stepsFromTop? path with
  | none => throw .missing
  | some steps =>
    match ← steps.foldlM step [tree.top] with
    | node :: _ => return node
    | [] => throw .missing

/-- What a path leads to, if it leads anywhere. -/
def lookup (tree : FileTree) (path : Path) : Except FileFault (Option Node) :=
  match tree.find path with
  | .ok node => .ok (some node)
  | .error fault => if fault.isAbsence then .ok none else .error fault

/-- Whether a path leads to a file. -/
def isFile (tree : FileTree) (path : Path) : Except FileFault Bool :=
  (tree.lookup path).map fun
    | some (.file _) => true
    | _ => false

/-- The bytes of the file at a path. -/
def read (tree : FileTree) (path : Path) : Except FileFault (List UInt8) := do
  match ← tree.find path with
  | .file bytes => return bytes
  | .directory _ => throw .isDirectory

end FileTree

/-- Why the text of a file cannot be had. -/
inductive ReadFault where
  /-- There is no such file to read. -/
  | file (fault : FileFault)
  /-- Its bytes are no text. -/
  | encoding (fault : Utf8.Fault)
deriving DecidableEq, Repr

/-- The report of a fault at a path. -/
def ReadFault.message (path : Path) : ReadFault → String
  | .file fault => fault.message path
  | .encoding fault => fault.message

/-- The text of the file at a path as it stands, less a byte order mark. -/
def FileTree.readSource (tree : FileTree) (path : Path) : Except ReadFault (List Char) := do
  let bytes ← (tree.read path).mapError .file
  (Utf8.decodeMarked bytes).mapError .encoding

namespace Node

mutual

/-- The tree with the node at a path replaced by what `f` makes of it. Directories on the way are made
where they are missing, and a file on the way gives place to one. -/
def alter (f : Option Node → Node) : List String → Node → Node
  | [], node => f (some node)
  | name :: names, .directory entries => .directory (alterEntries f name names entries)
  | name :: names, .file _ => .directory (alterEntries f name names [])

/-- The entries of a directory with the node at a path from one of them replaced. -/
def alterEntries (f : Option Node → Node) (name : String) (names : List String) :
    List (String × Node) → List (String × Node)
  | [] => [(name, made f names)]
  | (k, node) :: rest =>
    if k = name then (k, alter f names node) :: rest
    else (k, node) :: alterEntries f name names rest

/-- A node at the end of new directories. -/
def made (f : Option Node → Node) : List String → Node
  | [] => f none
  | name :: names => .directory [(name, made f names)]

end

/-- The tree with a node at a path. -/
def put (path : List String) (node new : Node) : Node :=
  node.alter (fun _ => new) path

/-- The tree with a file at a path. -/
def putFile (path : List String) (bytes : List UInt8) (node : Node) : Node :=
  node.put path (.file bytes)

/-- The tree with a directory at a path. -/
def putDirectory (path : List String) (node : Node) : Node :=
  node.alter (fun
    | some (.directory entries) => .directory entries
    | _ => .directory []) path

end Node

end TokenLint
