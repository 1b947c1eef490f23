import ScriptLint.Config.File

namespace ScriptLint.CommandLine

/-! Files as the program sees them from the folder that it runs in. -/

/-- What is known of a path that is to become a folder for a configuration. -/
inductive Place where
  | missing
  /-- Something that is no folder, with its full path. -/
  | file (path : String)
  /-- A folder with its full path. `occupied` tells whether the file to be written is
  there, and `writable` whether it can be written. -/
  | folder (path : String) (occupied writable : Bool)
  deriving DecidableEq, Inhabited, Repr

structure Surroundings where
  /-- The text of a file; none if it cannot be read as text. -/
  read : String → Option (List Char)
  place : String → Place

instance : Inhabited Surroundings := ⟨⟨fun _ => none, fun _ => .missing⟩⟩

/-! ### Folders in memory -/

inductive Entry where
  | text (s : List Char)
  | binary
  | folder
  deriving DecidableEq, Inhabited, Repr

/-- The files and folders below a folder by their paths, which are lists of names. -/
structure Folder where
  path : String
  entries : List (List String × Entry)
  deriving Inhabited, Repr

namespace Folder

def splitPath : List Char → List (List Char)
  | [] => [[]]
  | c :: cs =>
      if c = '/' then [] :: splitPath cs
      else
        match splitPath cs with
        | name :: rest => (c :: name) :: rest
        | [] => [[c]]

def isFolder (f : Folder) (path : List String) : Bool :=
  path.isEmpty || f.entries.any fun e =>
    (e.1 == path && e.2 == .folder) || (path.length < e.1.length && path.isPrefixOf e.1)

/-- The path without steps up and steps on the spot; none if a step leads through what is
no folder or out of the folder. -/
def walk (f : Folder) (here : List String) : List String → Option (List String)
  | [] => some here
  | name :: rest =>
      if !f.isFolder here then none
      else if name = "" || name = "." then f.walk here rest
      else if name = ".." then (if here.isEmpty then none else f.walk here.dropLast rest)
      else f.walk (here ++ [name]) rest

def resolve? (f : Folder) (path : String) : Option (List String) :=
  if path.isEmpty || path.toList.head? = some '/' then none
  else f.walk [] ((splitPath path.toList).map String.ofList)

def read (f : Folder) (path : String) : Option (List Char) :=
  match f.resolve? path with
  | none => none
  | some p =>
      match f.entries.lookup p with
      | some (.text s) => some s
      | _ => none

def fullPath (f : Folder) (path : List String) : String :=
  String.join (f.path :: path.map ("/" ++ ·))

def place (f : Folder) (path : String) : Place :=
  match f.resolve? path with
  | none => .missing
  | some p =>
      if f.isFolder p then
        let target := p ++ ["nodelint.toml"]
        let isFolder := f.isFolder target
        .folder (f.fullPath p) (isFolder || (f.entries.lookup target).isSome) !isFolder
      else if (f.entries.lookup p).isSome then .file (f.fullPath p)
      else .missing

def surroundings (f : Folder) : Surroundings := ⟨f.read, f.place⟩

def write (f : Folder) (path : String) (text : List Char) : Folder :=
  match f.resolve? path with
  | none => f
  | some p => { f with entries := (p, .text text) :: f.entries.filter fun e => e.1 != p }

end Folder

end ScriptLint.CommandLine
