import Showroom.Bytes

/-!
# Showroom.Disk

Folders and plain files below a working folder. A path is a list of names; the working folder has
the empty path and always exists. Everything else exists only if it was made, and a file or folder
can only be made in a folder that exists.

Texts name folders by routes: lists of names that are followed one by one, in which `.` stays and
`..` goes back. A route leads to a folder only if every name on it does, so `a/..` leads nowhere as
long as there is no folder `a`.

* `Disk.makeFolder`    makes the folder at the end of a route, and nothing on the way to it.
* `Disk.makeFolders`   makes the folder that a text names, and what is missing on the way to it.
-/

namespace Showroom

/-- Why the file system refuses something. -/
inductive DiskError where
  | notFound
  | alreadyExists
  | notADirectory
  | isADirectory
  | nameTooLong
  | zeroByte
  /-- One that the contents of the disk do not show, such as a missing permission. -/
  | other (message : String)
deriving DecidableEq, Inhabited

namespace DiskError

def message : DiskError → String
  | notFound => "No such file or directory (os error 2)"
  | alreadyExists => "File exists (os error 17)"
  | notADirectory => "Not a directory (os error 20)"
  | isADirectory => "Is a directory (os error 21)"
  | nameTooLong => "File name too long (os error 36)"
  | zeroByte => "file name contained an unexpected NUL byte"
  | other message => message

end DiskError

/-- The names that lead from the working folder to a file or folder. -/
abbrev Path := List String

namespace Path

/-- The names between the slashes of a text; two slashes are one. -/
def namesIn (s : String) : List String :=
  ((s.toList.splitOn '/').map String.ofList).filter (· ≠ "")

/-- Follows one name from a path: `.` stays and `..` goes back. -/
def step (p : Path) (name : String) : Path :=
  if name = "." then p else if name = ".." then p.dropLast else p ++ [name]

def follow (names : List String) : Path := names.foldl step []

/-- The path that a text of names joined by slashes describes. -/
def ofText (s : String) : Path := follow (namesIn s)

/-- The folders on the way to a path, the working folder first. -/
def ancestors (p : Path) : List Path := (List.range p.length).map p.take

/-- What is wrong with the text of a path, whatever is on the disk. -/
def textProblem (s : String) : Option DiskError :=
  if '\x00' ∈ s.toList then some .zeroByte
  else if 4096 ≤ s.utf8ByteSize then some .nameTooLong
  else none

/-- The text of a file's path in a folder given by text. -/
def joinText (folder name : String) : String :=
  if folder = "" then name
  else if folder.endsWith "/" then folder ++ name
  else folder ++ "/" ++ name

end Path

structure Disk where
  folders : List Path := []
  files : List (Path × Bytes) := []
deriving DecidableEq, Inhabited

namespace Disk

def isFolder (d : Disk) (p : Path) : Bool := p.isEmpty || d.folders.contains p

def read? (d : Disk) (p : Path) : Option Bytes := d.files.lookup p

def isFile (d : Disk) (p : Path) : Bool := (d.read? p).isSome

def nameProblem (name : String) : Option DiskError :=
  if 255 < name.utf8ByteSize then some .nameTooLong else none

/-- What is wrong with a path on the way to something: it has to be a folder. -/
def wayProblem (d : Disk) (p : Path) : Option DiskError :=
  if d.isFolder p then none
  else if d.isFile p then some .notADirectory
  else (nameProblem ((p.getLast?).getD "")).or (some .notFound)

/-- Why nothing can be made under a name after a way, taking the way in order. -/
def obstacle (d : Disk) (way : List Path) (name : String) : Option DiskError :=
  (way.findSome? d.wayProblem).or (nameProblem name)

/-- Why nothing can be made at the end of a route. Every name on the way has to be there, also one
that the next name goes back from. -/
def routeProblem (d : Disk) (names : List String) : Option DiskError :=
  d.obstacle ((Path.ancestors names).map Path.follow) ((names.getLast?).getD "")

def makeFolder (d : Disk) (names : List String) : Except DiskError Disk :=
  match d.routeProblem names with
  | some e => .error e
  | none =>
    if d.isFolder (Path.follow names) || d.isFile (Path.follow names) then .error .alreadyExists
    else .ok { d with folders := d.folders ++ [Path.follow names] }

/-- Whether names lead from folder to folder, the last one too. -/
def leads (d : Disk) (names : List String) : Bool :=
  (Path.ancestors names ++ [names]).all fun way => d.isFolder (Path.follow way)

def hasFolder (d : Disk) (s : String) : Bool :=
  (Path.textProblem s).isNone && d.leads (Path.namesIn s)

/-- Makes the folder to which the first route leads; each of the others leads to the folder above
the one before. Only where a folder on the way is missing is the one above made first; a folder
that is there already is kept. Folders made before a failure stay. -/
def makeRoutes (d : Disk) : List (List String) → Disk × Option DiskError
  | [] => (d, none)
  | names :: above =>
    match d.makeFolder names with
    | .ok made => (made, none)
    | .error .notFound =>
      match d.makeRoutes above with
      | (parent, some e) => (parent, some e)
      | (parent, none) =>
        match parent.makeFolder names with
        | .ok made => (made, none)
        | .error e => (parent, if parent.leads names then none else some e)
    | .error e => (d, if d.leads names then none else some e)

/-- The routes to the folders above the one to which names lead, nearest first. A `.` is left out
of them, so that the folder above `a/.` is the one in which `a` is. -/
def routesAbove (names : List String) : List (List String) :=
  let plain := names.filter (· ≠ ".")
  (List.range plain.length).reverse.map plain.take

/-- Makes the folder that a text names and all folders on the way to it. A `.` at the end asks for
the folder before it to be there already. -/
def makeFolders (d : Disk) (s : String) : Disk × Option DiskError :=
  match Path.textProblem s with
  | some e => (d, some e)
  | none => d.makeRoutes (Path.namesIn s :: routesAbove (Path.namesIn s))

/-- Replaces the contents of a file in a list of files, or adds the file at the end. -/
def putFile (p : Path) (data : Bytes) : List (Path × Bytes) → List (Path × Bytes)
  | [] => [(p, data)]
  | f :: fs => if f.1 = p then (p, data) :: fs else f :: putFile p data fs

/-- Why the file that a text names cannot be written. -/
def fileProblem (d : Disk) (s : String) : Option DiskError :=
  if s = "" then some .notFound
  else ((Path.textProblem s).or (d.routeProblem (Path.namesIn s))).or
    (if s.endsWith "/" || d.isFolder (Path.ofText s) then some .isADirectory else none)

def write (d : Disk) (s : String) (data : Bytes) : Except DiskError Disk :=
  match d.fileProblem s with
  | some e => .error e
  | none => .ok { d with files := putFile (Path.ofText s) data d.files }

def read (d : Disk) (p : Path) : Except DiskError Bytes :=
  match d.read? p with
  | some data => .ok data
  | none =>
    if d.isFolder p then .error .isADirectory
    else match d.obstacle p.ancestors ((p.getLast?).getD "") with
      | some e => .error e
      | none => .error .notFound

def filesIn (d : Disk) (folder : Path) : List String :=
  d.files.filterMap fun f => if f.1.dropLast = folder then f.1.getLast? else none

end Disk

end Showroom
