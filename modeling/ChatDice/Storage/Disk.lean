/-! # Disks

    A disk holds texts, other files, and folders by their place.  Paths are
    followed name by name from the folder the program runs in, or from the root
    if they start with a slash; `locate` finds the place a path leads to.  Reading
    and writing give what a file system would give: a text or a new disk, or the
    reason why not.
-/

namespace ChatDice

/-! ## What is on a disk -/

/-- What is found at a place. -/
inductive Node
  | text (s : String)
  /-- A file whose bytes are no text. -/
  | binary
  | folder
  deriving DecidableEq

/-- The file that some bytes make. -/
def Node.ofBytes (bytes : ByteArray) : Node :=
  match String.fromUTF8? bytes with
  | some s => text s
  | none   => binary

/-- Why a path cannot be used. -/
inductive FileError
  | notFound
  | notAFolder
  | isAFolder
  | nameTooLong
  | nulInName
  | notText
  deriving DecidableEq

/-- The text of the reason. -/
def FileError.message : FileError → String
  | notFound    => "No such file or directory (os error 2)"
  | notAFolder  => "Not a directory (os error 20)"
  | isAFolder   => "Is a directory (os error 21)"
  | nameTooLong => "File name too long (os error 36)"
  | nulInName   => "file name contained an unexpected NUL byte"
  | notText     => "stream did not contain valid UTF-8"

/-- A place on a disk: the names of the folders above it and its own.  The empty
place is the folder the program runs in, the name `/` stands for the root, and
leading names `..` for the folders above the one the program runs in. -/
abbrev Place := List String

/-- A disk: what is at each place.  The first node of a place counts. -/
structure Disk where
  nodes : List (Place × Node)

namespace Disk

/-- A disk with nothing on it. -/
def empty : Disk := ⟨[]⟩

/-- Whether a place is the folder the program runs in or one above it. -/
def isAncestor (p : Place) : Bool := p.all (· == "..")

/-- What is at a place.  The root, the folder the program runs in and those above
it are always there. -/
def at? (d : Disk) (p : Place) : Option Node :=
  if p = ["/"] ∨ isAncestor p then some .folder else d.nodes.lookup p

/-- The disk with a place changed. -/
def put (d : Disk) (p : Place) (n : Node) : Disk :=
  ⟨(p, n) :: d.nodes.filter (·.1 != p)⟩

/-! ## Names and paths -/

/-- The longest name in bytes. -/
def longestName : Nat := 255

/-- The longest path in bytes. -/
def longestPath : Nat := 4095

/-- The names in a path.  Empty names lead nowhere. -/
def namesOf (path : String) : List String :=
  ((path.toList.splitOn '/').map String.ofList).filter (· != "")

/-- Where a path starts. -/
def startOf (path : String) : Place := if path.toList.head? = some '/' then ["/"] else []

/-- Whether a path ends in a slash, and so can only lead to a folder. -/
def endsInSlash (path : String) : Bool := path.toList.getLast? == some '/'

/-- The place above another one; the root is above itself. -/
def above (p : Place) : Place :=
  if p = ["/"] then p
  else if isAncestor p then p ++ [".."]
  else p.dropLast

/-- The place that a name leads to from a folder.  A single point stays there, two
points lead to the folder above. -/
def enter (p : Place) (name : String) : Place :=
  if name = "." then p
  else if name = ".." then above p
  else p ++ [name]

/-! ## Following paths -/

/-- What is found at a place in an existing folder. -/
def look (d : Disk) (p : Place) : Except FileError Node :=
  if longestName < (p.getLast?.getD "").utf8ByteSize then .error .nameTooLong
  else
    match d.at? p with
    | some n => .ok n
    | none   => .error .notFound

/-- Follows names from a folder; every one of them must lead to a folder. -/
def follow (d : Disk) : Place → List String → Except FileError Place
  | p, []      => .ok p
  | p, n :: ns =>
    match d.look (enter p n) with
    | .error e    => .error e
    | .ok .folder => follow d (enter p n) ns
    | .ok _       => .error .notAFolder

/-- The place that a path leads to, whether or not something is there.  All names
but the last one must lead to folders. -/
def locate (d : Disk) (path : String) : Except FileError Place :=
  if path.toList.contains '\x00' then .error .nulInName
  else if path = "" then .error .notFound
  else if longestPath < path.utf8ByteSize then .error .nameTooLong
  else
    match d.follow (startOf path) (namesOf path).dropLast with
    | .error e => .error e
    | .ok p    => .ok ((namesOf path).getLast?.elim p (enter p))

/-! ## Reading and writing -/

/-- The text of the file at a path. -/
def read (d : Disk) (path : String) : Except FileError String :=
  match d.locate path with
  | .error e => .error e
  | .ok p    =>
    match d.look p with
    | .error e    => .error e
    | .ok .folder => .error .isAFolder
    | .ok node    =>
      if endsInSlash path then .error .notAFolder
      else
        match node with
        | .text s => .ok s
        | _       => .error .notText

/-- The disk after a text was written to the file at a path, which is made if it
is not there. -/
def write (d : Disk) (path : String) (s : String) : Except FileError Disk :=
  match d.locate path with
  | .error e => .error e
  | .ok p    =>
    -- A path that can only lead to a folder is refused before its last name is looked up.
    if endsInSlash path then .error .isAFolder
    else
      match d.look p with
      | .ok .folder      => .error .isAFolder
      | .ok _            => .ok (d.put p (.text s))
      | .error .notFound => .ok (d.put p (.text s))
      | .error e         => .error e

/-- The text of the file at a path, if it is a file with a text. -/
def text? (d : Disk) (path : String) : Option String := (d.read path).toOption

end Disk

end ChatDice
