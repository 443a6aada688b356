import GoScaffold.Decimal.Double
import GoScaffold.Text.Quoted

/-!
# Tokens of a template

A template is text with tags in it: statements, printed expressions and comments. Its tokens are
the stretches of text, the marks of the tags, and the words and symbols inside them. A fault names
the line on which a template stops making sense, and why.
-/
namespace GoScaffold.Template

open GoScaffold.Decimal GoScaffold.Text

inductive Token
  | text (s : String)
  | openStatement
  | closeStatement
  | openPrint
  | closePrint
  | name (s : String)
  | string (s : String)
  | integer (n : Nat)
  | fraction (x : Double)
  | symbol (s : String)
  | finish
  deriving Repr, DecidableEq

/-- How a message speaks of a token. -/
def Token.describe : Token → String
  | .text _ => "template data / text"
  | .openStatement => "begin of statement block"
  | .closeStatement => "end of statement block"
  | .openPrint => "begin of print statement"
  | .closePrint => "end of print statement"
  | .name s => s
  | .string _ => "string"
  | .integer _ => "integer"
  | .fraction _ => "float"
  | .symbol s => s
  | .finish => "end of template"

/-- A token with the line on which it starts. -/
structure Lexeme where
  token : Token
  line : Nat
  deriving Repr, DecidableEq

/-- A statement whose body is being read, with the tags that may end the body. -/
structure OpenBlock where
  tag : String
  closing : List String
  deriving Repr, DecidableEq

/-- Why a template makes no sense. The blocks around a place are given innermost first. -/
inductive SyntaxCause
  | unclosedComment
  | unclosedRaw
  | strayCharacter (c : Char) (position : Nat)
  | strayCloser (closer : String)
  | wrongCloser (closer wanted : String)
  | badEscape (reason : String)
  | badName
  | expected (wanted got : String)
  | endExpecting (wanted : String)
  | noExpression (got : String)
  | unexpected (got : String)
  | noTagName
  | noMemberName
  | chainedTests
  | badArguments
  | badTarget (kind : String)
  | unknownTag (tag : String) (around : List OpenBlock)
  | unfinished (around : List OpenBlock)
  | noFilter (name : String)
  | noTest (name : String)
  | loopTarget
  deriving Repr, DecidableEq

structure SyntaxFault where
  cause : SyntaxCause
  line : Nat
  deriving Repr, DecidableEq

/-- What the innermost of the blocks waits for; `tag` is the tag found instead, if there is one. -/
def waitingFor (tag : Option String) (around : List OpenBlock) : List String :=
  match around with
  | [] => []
  | inner :: _ =>
    let looking := join " or " (inner.closing.map quoted)
    let misplaced := match tag with
      | some t => around.any (·.closing.contains t)
      | none => false
    [if misplaced then
        "You probably made a nesting mistake. Jinja is expecting this tag, " ++
          "but currently looking for " ++ looking ++ "."
      else "Jinja was looking for the following tags: " ++ looking ++ ".",
      "The innermost block that needs to be closed is " ++ quoted inner.tag ++ "."]

def SyntaxCause.message : SyntaxCause → String
  | .unclosedComment => "Missing end of comment tag"
  | .unclosedRaw => "Missing end of raw directive"
  | .strayCharacter c position => s!"unexpected char {quoted (.singleton c)} at {position}"
  | .strayCloser closer => s!"unexpected '{closer}'"
  | .wrongCloser closer wanted => s!"unexpected '{closer}', expected '{wanted}'"
  | .badEscape reason => reason
  | .badName => "Invalid character in identifier"
  | .expected wanted got => s!"expected token {quoted wanted}, got {quoted got}"
  | .endExpecting wanted => s!"unexpected end of template, expected {quoted wanted}."
  | .noExpression got => s!"Expected an expression, got {quoted got}"
  | .unexpected got => s!"unexpected {quoted got}"
  | .noTagName => "tag name expected"
  | .noMemberName => "expected name or number"
  | .chainedTests => "You cannot chain multiple tests with is"
  | .badArguments => "invalid syntax for function call expression"
  | .badTarget kind => s!"can't assign to {quoted kind}"
  | .unknownTag tag around =>
    join " " (s!"Encountered unknown tag {quoted tag}." :: waitingFor (some tag) around)
  | .unfinished around => join " " ("Unexpected end of template." :: waitingFor none around)
  | .noFilter name => s!"No filter named {quoted name}."
  | .noTest name => s!"No test named {quoted name}."
  | .loopTarget => "Can't assign to special loop variable in for-loop target"

/-- The fault is about a name rather than the shape of the template. -/
def SyntaxCause.isAssertion : SyntaxCause → Bool
  | .noFilter _ => true
  | .noTest _ => true
  | .loopTarget => true
  | _ => false

def SyntaxFault.message (f : SyntaxFault) : String := f.cause.message

end GoScaffold.Template
