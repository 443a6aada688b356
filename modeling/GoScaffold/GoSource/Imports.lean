import GoScaffold.Text.Alphanumeric
import GoScaffold.Text.Split

/-!
# The imports of a Go file

Which paths a file imports, line by line, and how missing ones are added: at the end of the first
block of them; by widening the first single import into a block; or in a new block after the package
clause. Nothing else moves.

A generated head is the package clause and the imports, with one blank line after each.
-/
namespace GoScaffold

open GoScaffold.Text

/-- The line that names one import in a block. -/
def importEntry (path : String) : String := "\t\"" ++ path ++ "\"\n"

/-- An import block, or nothing if nothing is imported. -/
def importBlock (imports : List String) : String :=
  if imports.isEmpty then ""
  else "import (\n" ++ concat (imports.map importEntry) ++ ")\n"

def goHeader (package : String) (imports : List String := []) : String :=
  "package " ++ package ++ "\n\n" ++
    if imports.isEmpty then "" else importBlock imports ++ "\n"

abbrev Line := List Char

def blockOpening : Line := ['i', 'm', 'p', 'o', 'r', 't', ' ', '(', '\n']

def blockClosing : Line := [')', '\n']

/-- The lines before the first closing line of a block, and the lines from it on. -/
def cutAtClosing? : List Line → Option (List Line × List Line)
  | [] => none
  | l :: ls =>
    if l = blockClosing then some ([], l :: ls)
    else (cutAtClosing? ls).map fun p => (l :: p.1, p.2)

/-- The bodies of the import blocks; the next `skip` lines belong to a block already seen. -/
def blockBodies (skip : Nat) : List Line → List (List Line)
  | [] => []
  | l :: ls =>
    match skip with
    | skip + 1 => blockBodies skip ls
    | 0 =>
      if l = blockOpening then
        match cutAtClosing? ls with
        | some (body, _) => body :: blockBodies (body.length + 1) ls
        | none => blockBodies 0 ls
      else blockBodies 0 ls

/-- The texts between double quotes on one line, none of them empty; `current` is what has been
read, the last character first, since a quote that may open one. -/
def quotedTexts (current : Option (List Char)) : List Char → List (List Char)
  | [] => []
  | c :: cs =>
    match current with
    | none => quotedTexts (if c = '"' then some [] else none) cs
    | some seen =>
      if c = '"' then
        if seen.isEmpty then quotedTexts (some []) cs else seen.reverse :: quotedTexts none cs
      else if c = '\n' then quotedTexts none cs
      else quotedTexts (some (c :: seen)) cs

/-- The path of a line that imports one package and holds nothing else. -/
def importedBy? (l : Line) : Option (List Char) :=
  match l with
  | 'i' :: 'm' :: 'p' :: 'o' :: 'r' :: 't' :: ' ' :: '"' :: rest =>
    let path := rest.takeWhile fun c => c != '"' && c != '\n'
    if path ≠ [] ∧ rest.drop path.length = ['"', '\n'] then some path else none
  | _ => none

/-- The paths in import blocks, then those of single imports. -/
def existingImports (content : String) : List String :=
  let ls := lines content.toList
  ((blockBodies 0 ls).flatMap fun body => (quotedTexts none body.flatten).map .ofList) ++
    (ls.filterMap importedBy?).map .ofList

/-- The lines up to the body of the first import block, and the lines from its closing line on. -/
def cutAtBlockEnd? : List Line → Option (List Line × List Line)
  | [] => none
  | l :: ls =>
    if l = blockOpening then
      match cutAtClosing? ls with
      | some (body, rest) => some (l :: body, rest)
      | none => (cutAtBlockEnd? ls).map fun p => (l :: p.1, p.2)
    else (cutAtBlockEnd? ls).map fun p => (l :: p.1, p.2)

/-- The lines before the first single import, its path, and the lines after it. -/
def cutAtSingle? : List Line → Option (List Line × List Char × List Line)
  | [] => none
  | l :: ls =>
    match importedBy? l with
    | some path => some ([], path, ls)
    | none => (cutAtSingle? ls).map fun p => (l :: p.1, p.2)

def packageWord : List Char := ['p', 'a', 'c', 'k', 'a', 'g', 'e', ' ']

/-- A package clause that fills its line. -/
def isPackageLine (l : Line) : Bool :=
  packageWord.isPrefixOf l &&
    let rest := l.drop packageWord.length
    let name := rest.takeWhile isWordChar
    !name.isEmpty && rest.drop name.length == ['\n']

/-- A line that starts like a package clause. -/
def startsPackage (l : Line) : Bool :=
  packageWord.isPrefixOf l && ((l.drop packageWord.length).head?.any isWordChar)

def hasPackageClause (content : String) : Bool := (lines content.toList).any startsPackage

/-- The lines up to the first package clause, and the lines after it. -/
def cutAfterPackage? : List Line → Option (List Line × List Line)
  | [] => none
  | l :: ls =>
    if isPackageLine l then some ([l], ls)
    else (cutAfterPackage? ls).map fun p => (l :: p.1, p.2)

def ofLines (ls : List Line) : String := .ofList ls.flatten

/-- The content with the missing imports added, in a place that the content has for them. -/
def addImports (content : String) (missing : List String) : String :=
  let ls := lines content.toList
  let entries := concat (missing.map importEntry)
  match cutAtBlockEnd? ls with
  | some (before, after) => ofLines before ++ entries ++ ofLines after
  | none =>
    match cutAtSingle? ls with
    | some (before, path, after) =>
      ofLines before ++ "import (\n" ++ importEntry (.ofList path) ++ entries ++ ")\n" ++
        ofLines after
    | none =>
      let block := "\nimport (\n" ++ entries ++ ")\n"
      match cutAfterPackage? ls with
      | some (before, after) => ofLines before ++ block ++ ofLines after
      | none => block ++ content

/-- The content with every requested path imported, and the paths that were missing. -/
def ensureImports (content : String) (imports : List String) : String × List String :=
  let present := existingImports content
  let missing := imports.filter fun i => !present.contains i
  if missing.isEmpty then (content, []) else (addImports content missing, missing)

end GoScaffold
