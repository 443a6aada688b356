import GoScaffold.CommandLine.Layout
import GoScaffold.CommandLine.Run

/-!
# The program

Runs a command line on the files below the working directory: reads them, computes the files
afterwards, writes those that have changed, and prints what is to be shown.
-/
namespace GoScaffold.Program

open GoScaffold.CommandLine

/-- The directories that a run leaves alone. -/
def skipped : List String := [".git", "node_modules", "vendor"]

/-- The files and directories below the working directory, less those that cannot be read. -/
def readFiles : IO Tree := do
  let root ← IO.currentDir
  let depth := root.components.length
  let mut tree : Tree := {}
  for p in ← root.walkDir fun d => pure (!skipped.contains (d.fileName.getD "")) do
    let path : Path := { Path.here with segments := p.components.drop depth }
    if ← p.isDir then
      tree := (tree.makeDirectories path.anchor path.segments.reverse).1
    else
      try
        let bytes ← IO.FS.readBinFile p
        tree := (tree.writeBytes path bytes).toOption.getD tree
      catch _ => pure ()
  return tree

/-- Writes the files that are new or different. -/
def writeFiles (before after : Tree) : IO Unit := do
  let root ← IO.currentDir
  for (location, bytes) in after.files do
    if before.files.lookup location != some bytes then
      let directory := location.dropLast.foldl (· / ·) root
      IO.FS.createDirAll directory
      IO.FS.writeBinFile (directory / location.getLastD "") bytes

def printNotice : Notice → IO Unit
  | .usage => IO.print usage
  | .text s => IO.print s

def printDisplay (d : Display) : IO Unit := d.lines.forM fun l => IO.println l

def printOutput (o : Output) : IO Unit := do
  o.notices.forM printNotice
  o.console.forM printDisplay

/-- Runs a command line; the result is the exit status. -/
def runProgram (arguments : List String) : IO UInt32 := do
  let before ← readFiles
  match run before (← IO.getEnv "CLEANGO_LOG_LEVEL") arguments with
  | .error fault =>
    IO.eprintln fault.message
    return 1
  | .ok (after, output) =>
    writeFiles before after
    printOutput output
    return UInt32.ofNat output.exit

end GoScaffold.Program

def main (arguments : List String) : IO UInt32 := GoScaffold.Program.runProgram arguments
