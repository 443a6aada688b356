import GoScaffold.Text.Newline
import GoScaffold.Text.Utf8
import GoScaffold.Workspace.Tree

/-!
# Texts in a file tree

A text file is read as UTF-8 with every line end as a newline. It is written whole: under a
temporary name first, which then takes its place, so that no reader sees half of it.
-/
namespace GoScaffold

open GoScaffold.Text

/-- Why a file has no text. -/
inductive ReadFault
  | refused (error : FileError)
  | undecodable (fault : Utf8Fault)
  deriving Repr, DecidableEq

/-- Why a text was not written. -/
inductive WriteFault
  | unnamed (path : Path)
  | zeroCharacter
  | refused (path : Path) (error : FileError)
  | temporaryRefused (error : FileError)
  deriving Repr, DecidableEq

def WriteFault.message : WriteFault → String
  | .unnamed p => s!"PosixPath({quoted p.text}) has an empty name"
  | .zeroCharacter => "embedded null byte"
  | .refused p e => s!"Error writing file {p.text}: {e.message}"
  | .temporaryRefused e => e.message

namespace Tree

/-- The text of a file that has to be there. -/
def readText (t : Tree) (p : Path) : Except ReadFault String :=
  match t.readBytes p with
  | .error e => .error (.refused e)
  | .ok bytes =>
    match decodeUtf8 bytes with
    | .error f => .error (.undecodable f)
    | .ok s => .ok (withNewlines s)

/-- The text of a file, or nothing if there is none. -/
def readText? (t : Tree) (p : Path) : Except ReadFault (Option String) :=
  match t.holds p with
  | .error e => .error (.refused e)
  | .ok false => .ok none
  | .ok true => (t.readText p).map some

/-- The name under which the next content of a file is written before it takes its place. -/
def temporaryName (t : Tree) (name : String) : String := "." ++ name ++ (".tmp." ++ t.process.text)

def temporary (t : Tree) (p : Path) : Path := p.withName (t.temporaryName p.name)

/-- Gives up a write: what stands under the temporary name goes. -/
def abandon (t : Tree) (p : Path) (e : FileError) : Tree × Option WriteFault :=
  match t.holds (t.temporary p) with
  | .error e => (t, some (.temporaryRefused e))
  | .ok false => (t, some (.refused p e))
  | .ok true =>
    match t.deleteFile (t.temporary p) with
    | .ok t => (t, some (.refused p e))
    | .error e => (t, some (.temporaryRefused e))

/-- Writes a text whole, in a directory made if need be. -/
def writeText (t : Tree) (p : Path) (text : String) : Tree × Option WriteFault :=
  if p.name = "" then (t, some (.unnamed p))
  else if p.parent.hasZero then (t, some .zeroCharacter)
  else match t.makeDirectories p.anchor p.parent.segments.reverse with
    | (t, some e) => t.abandon p e
    | (t, none) =>
      if p.hasZero then (t, some .zeroCharacter)
      else match t.writeBytes (t.temporary p) text.toUTF8 with
        | .error e => t.abandon p e
        | .ok written =>
          match written.moveFile (t.temporary p) p with
          | .error e => written.abandon p e
          | .ok moved => (moved, none)

end Tree

end GoScaffold
