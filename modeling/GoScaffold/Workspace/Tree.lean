import GoScaffold.OrderedMap
import GoScaffold.Text.Quoted

/-!
# File trees

A tree of directories and files, held as a map from locations to entries. A location is a path with
all its double dots resolved; the working directory is the empty location, and the directories
above it are locations of double dots only. Every write stamps its file with a new time. There are no
symbolic links and no permissions: an entry is a directory or a file, and may be read and replaced.

A path is a list of segments, relative or from a root. Empty segments and single dots are dropped
when a path is read; a pair of dots is kept, since what it stands for depends on the files.
-/
namespace GoScaffold

open GoScaffold.Text

/-- A path; `anchor` is the leading slashes of an absolute one, one or two, and else empty. -/
structure Path where
  anchor : String := ""
  segments : List String := []
  deriving Repr, DecidableEq

namespace Path

/-- Exactly two leading slashes are kept, any other number above zero counts as one. -/
def anchorOf : List Char → String
  | '/' :: '/' :: '/' :: _ => "/"
  | '/' :: '/' :: _ => "//"
  | '/' :: _ => "/"
  | _ => ""

def isSegment (s : String) : Bool := s != "" && s != "."

def ofString (s : String) : Path where
  anchor := anchorOf s.toList
  segments := (splitAt '/' s).filter isSegment

def here : Path := {}

/-- No file has a name with a zero character. -/
def hasZero (p : Path) : Bool := p.segments.any (·.contains '\x00')

def isAbsolute (p : Path) : Bool := p.anchor != ""

/-- The text of a path; the path without segments is a single dot. -/
def text (p : Path) : String :=
  if p.anchor = "" ∧ p.segments = [] then "." else p.anchor ++ join "/" p.segments

/-- An absolute path takes the place of what stands before it. -/
def append (p q : Path) : Path :=
  if q.isAbsolute then q else { p with segments := p.segments ++ q.segments }

instance : Append Path := ⟨append⟩

instance : HDiv Path String Path := ⟨fun p s => p ++ ofString s⟩

/-- The last segment, empty if there is none. -/
def name (p : Path) : String := p.segments.getLastD ""

def parent (p : Path) : Path := { p with segments := p.segments.dropLast }

def withName (p : Path) (name : String) : Path :=
  { p with segments := p.segments.dropLast ++ [name] }

/-- The last point of the name with what follows, unless it stands first or last. -/
def suffix (p : Path) : String :=
  let tail := (p.name.toList.reverse.takeWhile (· != '.')).reverse
  let stem := p.name.length - tail.length - 1
  if tail.isEmpty ∨ p.name.length ≤ tail.length ∨ stem = 0 then "" else .ofList ('.' :: tail)

end Path

abbrev Location := List String

inductive Entry
  | directory
  | file (bytes : ByteArray) (stamp : Nat)

/-- Why the file system refuses. -/
inductive Refusal
  | absent
  | busy
  | present
  | notDirectory
  | isDirectory
  | nameTooLong
  deriving Repr, DecidableEq

def Refusal.code : Refusal → Nat
  | .absent => 2
  | .busy => 16
  | .present => 17
  | .notDirectory => 20
  | .isDirectory => 21
  | .nameTooLong => 36

def Refusal.text : Refusal → String
  | .absent => "No such file or directory"
  | .busy => "Device or resource busy"
  | .present => "File exists"
  | .notDirectory => "Not a directory"
  | .isDirectory => "Is a directory"
  | .nameTooLong => "File name too long"

/-- A refused operation on a path, with the second path if there is one. -/
structure FileError where
  refusal : Refusal
  path : Path
  target : Option Path := none
  deriving Repr, DecidableEq

def FileError.message (e : FileError) : String :=
  s!"[Errno {e.refusal.code}] {e.refusal.text}: {quoted e.path.text}" ++
    match e.target with
    | some p => " -> " ++ quoted p.text
    | none => ""

/-- A process, by the digits of its number or by a word in capitals that stands for them. -/
structure ProcessId where
  text : String
  isMark : text.toList.all (fun c => c.isDigit || c.isUpper) = true

def ProcessId.untold : ProcessId where
  text := "PID"
  isMark := rfl

/-- The entries below the working directory, the number of writes so far, and the process that
writes. -/
structure Tree where
  entries : List (Location × Entry) := []
  clock : Nat := 0
  process : ProcessId := .untold

namespace Tree

/-- A directory that is always there: the working directory, one above it, or a root. -/
def isFixed (l : Location) : Bool := l.all (· == "..") || l == ["/"] || l == ["//"]

def entry? (t : Tree) (l : Location) : Option Entry :=
  if isFixed l then some .directory else OrderedMap.get? l t.entries

/-- One level up. -/
def up (l : Location) : Location :=
  match l.getLast? with
  | some s => if s = ".." then l ++ [".."] else if isFixed l then l else l.dropLast
  | none => [".."]

/-- The longest name that a directory takes, in bytes. -/
def longestName : Nat := 255

/-- Follows the segments from a location; each but the last has to be a directory. -/
def walk (t : Tree) (l : Location) : List String → Except Refusal Location
  | [] => .ok l
  | s :: rest =>
    match t.entry? l with
    | none => .error .absent
    | some (.file ..) => .error .notDirectory
    | some .directory =>
      if s = ".." then walk t (up l) rest
      else if longestName < s.utf8ByteSize then .error .nameTooLong
      else walk t (l ++ [s]) rest

def start (p : Path) : Location := if p.isAbsolute then [p.anchor] else []

/-- The longest path that the file system takes, in bytes. -/
def longestPath : Nat := 4095

/-- Where a path leads, whether or not something is there. -/
def locate (t : Tree) (p : Path) : Except Refusal Location :=
  if longestPath < p.text.utf8ByteSize then .error .nameTooLong
  else t.walk (start p) p.segments

def find (t : Tree) (p : Path) : Except Refusal Entry := do
  match t.entry? (← t.locate p) with
  | some e => .ok e
  | none => .error .absent

def refuse {α : Type} (r : Refusal) (p : Path) : Except FileError α :=
  .error { refusal := r, path := p }

/-- What is there, if anything. A path through a file or through nothing leads nowhere. -/
def probe (t : Tree) (p : Path) : Except FileError (Option Entry) :=
  if p.hasZero then .ok none
  else match t.find p with
  | .ok e => .ok (some e)
  | .error .absent => .ok none
  | .error .notDirectory => .ok none
  | .error r => refuse r p

def isDirectory (t : Tree) (p : Path) : Except FileError Bool :=
  (t.probe p).map fun
    | some .directory => true
    | _ => false

def isFile (t : Tree) (p : Path) : Except FileError Bool :=
  (t.probe p).map fun
    | some (.file ..) => true
    | _ => false

def holds (t : Tree) (p : Path) : Except FileError Bool := (t.probe p).map (·.isSome)

def readBytes (t : Tree) (p : Path) : Except FileError ByteArray :=
  match t.find p with
  | .ok (.file bytes _) => .ok bytes
  | .ok .directory => refuse .isDirectory p
  | .error r => refuse r p

def set (t : Tree) (l : Location) (e : Entry) : Tree :=
  { t with entries := OrderedMap.insert l e t.entries }

def remove (t : Tree) (l : Location) : Tree :=
  { t with entries := OrderedMap.erase l t.entries }

/-- The tree with a file at a location, stamped as the latest write. -/
def put (t : Tree) (l : Location) (bytes : ByteArray) : Tree :=
  { t with
    entries := OrderedMap.insert l (.file bytes (t.clock + 1)) t.entries
    clock := t.clock + 1 }

/-- Replaces the content of a file, or makes it in a directory that is there. -/
def writeBytes (t : Tree) (p : Path) (bytes : ByteArray) : Except FileError Tree :=
  match t.locate p with
  | .error r => refuse r p
  | .ok l =>
    match t.entry? l with
    | some .directory => refuse .isDirectory p
    | _ => .ok (t.put l bytes)

def makeDirectory (t : Tree) (p : Path) : Except FileError Tree :=
  match t.locate p with
  | .error r => refuse r p
  | .ok l =>
    match t.entry? l with
    | some _ => refuse .present p
    | none => .ok (t.set l .directory)

/-- Makes a directory that may be there already. -/
def ensureDirectory (t : Tree) (p : Path) : Except FileError Tree :=
  match t.makeDirectory p with
  | .ok t => .ok t
  | .error e =>
    if e.refusal = .absent then .error e
    else match t.isDirectory p with
      | .ok true => .ok t
      | _ => .error e

/-- Makes a directory below those that are missing; the segments are given last first. What has
been made stays when a later step is refused. -/
def makeDirectories (t : Tree) (anchor : String) : List String → Tree × Option FileError
  | [] =>
    match t.ensureDirectory { anchor } with
    | .ok t => (t, none)
    | .error e => (t, some e)
  | s :: above =>
    let p : Path := { anchor, segments := (s :: above).reverse }
    match t.ensureDirectory p with
    | .ok t => (t, none)
    | .error e =>
      if e.refusal ≠ .absent then (t, some e)
      else match makeDirectories t anchor above with
        | (t, some e) => (t, some e)
        | (t, none) =>
          match t.ensureDirectory p with
          | .ok t => (t, none)
          | .error e => (t, some e)

/-- Moves a file to a place that is free or holds a file. -/
def moveFile (t : Tree) (p target : Path) : Except FileError Tree :=
  let refused (r : Refusal) : Except FileError Tree := .error ⟨r, p, some target⟩
  match t.locate p, t.locate target with
  | .error r, _ => refused r
  | _, .error r => refused r
  | .ok l, .ok l' =>
    if target.name = ".." then refused .busy
    else match t.entry? l, t.entry? l' with
      | none, _ => refused .absent
      | _, some .directory => refused .isDirectory
      | some e, _ => .ok ((t.remove l).set l' e)

def deleteFile (t : Tree) (p : Path) : Except FileError Tree :=
  match t.locate p with
  | .error r => refuse r p
  | .ok l =>
    match t.entry? l with
    | none => refuse .absent p
    | some .directory => refuse .isDirectory p
    | some (.file ..) => .ok (t.remove l)

/-- A location in the working directory. -/
def isInside (l : Location) : Bool := !([[".."], ["/"], ["//"]].any (·.isPrefixOf l))

/-- The files below the working directory with their contents. -/
def files (t : Tree) : List (Location × ByteArray) :=
  t.entries.filterMap fun e =>
    match e with
    | (l, .file bytes _) => if isInside l then some (l, bytes) else none
    | _ => none

/-- The files below a location, as the segments that lead to each, in order. -/
def filesBelow (t : Tree) (l : Location) : List (List String) :=
  (t.entries.filterMap fun e =>
    match e with
    | (l', .file ..) =>
      let rest := l'.drop l.length
      if l.isPrefixOf l' && isInside rest then some rest else none
    | _ => none).mergeSort fun a b => !b.lex a fun s s' => decide (s < s')

end Tree

end GoScaffold
