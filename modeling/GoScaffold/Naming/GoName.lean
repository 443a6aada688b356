import GoScaffold.Naming.Spelling

/-!
# Names in Go code and outside it

Identifiers that are safe in Go, and the names of files, tables and routes.

A plural comes from a short list of rules, tried in order. Irregular nouns are not known.
-/
namespace GoScaffold.Naming

open GoScaffold.Text

/-- The endings after which the plural takes `es`. -/
def hissingEndings : List (List Char) := [['s'], ['x'], ['c', 'h'], ['s', 'h']]

def hisses (lowered : List Char) : Bool := hissingEndings.any (·.isSuffixOf lowered)

/-- `y` becomes `ies`, a hissing ending takes `es`, everything else takes `s`. -/
def pluralChars (word : List Char) : List Char :=
  if word.isEmpty then []
  else
    let lowered := lowerChars word
    if ['y'].isSuffixOf lowered then word.dropLast ++ ['i', 'e', 's']
    else if hisses lowered then word ++ ['e', 's']
    else word ++ ['s']

/-- The rules of the plural the other way round. -/
def singularChars (word : List Char) : List Char :=
  let lowered := lowerChars word
  if ['i', 'e', 's'].isSuffixOf lowered && 3 < word.length then word.take (word.length - 3) ++ ['y']
  else if ['e', 's'].isSuffixOf lowered && hisses (lowered.take (lowered.length - 2)) then
    word.take (word.length - 2)
  else if ['s'].isSuffixOf lowered && 1 < word.length then word.dropLast
  else word

def plural (word : String) : String := .ofList (pluralChars word.toList)

def singular (word : String) : String := .ofList (singularChars word.toList)

def goKeywords : List String := [
  "break", "case", "chan", "const", "continue", "default", "defer",
  "else", "fallthrough", "for", "func", "go", "goto", "if", "import",
  "interface", "map", "package", "range", "return", "select", "struct",
  "switch", "type", "var"]

def goPredeclared : List String := [
  "bool", "byte", "complex64", "complex128", "error", "float32", "float64",
  "int", "int8", "int16", "int32", "int64", "rune", "string",
  "uint", "uint8", "uint16", "uint32", "uint64", "uintptr",
  "append", "cap", "close", "complex", "copy", "delete", "imag", "len",
  "make", "new", "panic", "print", "println", "real", "recover"]

def isGoName (ident : String) : Bool := goKeywords.contains ident || goPredeclared.contains ident

/-- A camel-case name for a parameter or a local; `suffix` sets it apart from Go's own names. -/
def goIdentifier (name : String) (suffix : String := "Value") : String :=
  let ident := if camel name = "" then "value" else camel name
  if isGoName ident then ident ++ suffix else ident

/-- The receiver of the entity's methods: its first letter in lower case. -/
def receiver (entity : String) : String :=
  match entity.toList with
  | [] => "x"
  | c :: _ => .ofList (lowerChars [c])

inductive FileNaming
  | lowercase
  | snake
  | kebab
  deriving Repr, DecidableEq

def FileNaming.all : List FileNaming := [.lowercase, .snake, .kebab]

def FileNaming.name : FileNaming → String
  | .lowercase => "lowercase"
  | .snake => "snake"
  | .kebab => "kebab"

def FileNaming.ofName? (s : String) : Option FileNaming := FileNaming.all.find? (·.name == s)

/-- The base name of an entity's own files. -/
def fileName (entity : String) : FileNaming → String
  | .snake => snake entity
  | .kebab => kebab entity
  | .lowercase => lower (concat (words entity))

def tableName (entity : String) : String := plural (snake entity)

/-- The path segment of an entity's collection. -/
def routeSegment (entity : String) : String := plural (kebab entity)

end GoScaffold.Naming
