import GoScaffold.Layer.Basic
import GoScaffold.Layer.Domain
import GoScaffold.Layer.Repository
import GoScaffold.SharedFile.Merge
import GoScaffold.Template.Shelf

/-!
# Pieces of a layer

A piece is one artifact of a layer. Where it goes and what surrounds it is fixed by the entity; what
it declares is either written out or rendered from a template.
-/
namespace GoScaffold

open GoScaffold.Text GoScaffold.Template

inductive Piece
  | entity
  | errors
  | samples
  | dto
  | repositoryInterface
  | repositoryImplementation
  | handler
  | errorMessages
  | responseMessages
  | constants
  deriving Repr, DecidableEq

/-- The pieces of a layer in their order; domain errors go with validation. -/
def Layer.pieces (e : Entity) : Layer → List Piece
  | .domain =>
    if e.settings.validation.truthy then [.entity, .errors, .samples] else [.entity, .samples]
  | .dto => [.dto]
  | .repository => [.repositoryInterface, .repositoryImplementation]
  | .handler => [.handler]
  | .messages => [.errorMessages, .responseMessages, .constants]

/-- What a piece declares: a text, or what a template says under some names. -/
inductive Content
  | source (text : String)
  | template (name : String) (scope : Scope)
  deriving Repr

namespace Piece

def layer : Piece → Layer
  | .entity => .domain
  | .errors => .domain
  | .samples => .domain
  | .dto => .dto
  | .repositoryInterface => .repository
  | .repositoryImplementation => .repository
  | .handler => .handler
  | .errorMessages => .messages
  | .responseMessages => .messages
  | .constants => .messages

/-- The path of the file that the piece fills or shares. -/
def path (e : Entity) : Piece → String
  | .entity => "internal/domain/" ++ e.fileBase ++ ".go"
  | .errors => "internal/domain/errors.go"
  | .samples => "internal/domain/" ++ e.fileBase ++ "_seeds.go"
  | .dto => "internal/usecase/dto.go"
  | .repositoryInterface => "internal/repository/interfaces.go"
  | .repositoryImplementation =>
    "internal/repository/" ++ e.settings.database.text ++ "_" ++ e.fileBase ++ "_repository.go"
  | .handler => "internal/handler/http/" ++ e.fileBase ++ "_handler.go"
  | .errorMessages => "internal/messages/errors.go"
  | .responseMessages => "internal/messages/responses.go"
  | .constants => "internal/constants/constants.go"

/-- For a piece that shares its file, the text that tells the entity's share from others. -/
def marker (e : Entity) : Piece → Option String
  | .errors => some ("\t" ++ e.recordError ++ " ")
  | .dto => some ("type Create" ++ e.name ++ "Input struct")
  | .repositoryInterface => some ("type " ++ e.name ++ "Repository interface")
  | .errorMessages => some ("\tErr" ++ e.name ++ "NotFound ")
  | .responseMessages => some ("\t" ++ e.name ++ "CreatedSuccessfully ")
  | .constants => some ("\t" ++ e.name ++ "TableName ")
  | _ => none

/-- What stands above the first share of a file. -/
def header (e : Entity) : Piece → String
  | .errors => goHeader "domain" ["errors"]
  | .dto => goHeader "usecase" (Entity.importsOf e.userMembers ++ [e.domainImport])
  | .repositoryInterface => goHeader "repository" e.interfaceImports
  | .errorMessages => goHeader "messages"
  | .responseMessages => goHeader "messages"
  | .constants => goHeader "constants"
  | _ => ""

/-- The line that opens the block of the shares. -/
def opener : Piece → String
  | .errors => "var (\n"
  | .errorMessages => "const (\n"
  | .responseMessages => "const (\n"
  | .constants => "const (\n"
  | _ => ""

def closer : Piece → String
  | .errors => ")\n"
  | .errorMessages => ")\n"
  | .responseMessages => ")\n"
  | .constants => ")\n"
  | _ => ""

def content (e : Entity) : Piece → Content
  | .entity => .template "domain/entity" e.entityScope
  | .errors => .source (Source.build e.errorsSource 1)
  | .samples =>
    .source (goHeader "domain" (Entity.importsOf e.userMembers) ++ Source.build e.samplesSource)
  | .dto => .template "usecase/dto" e.scope
  | .repositoryInterface => .template "repository/interface" e.scope
  | .repositoryImplementation =>
    .source (goHeader "repository" e.implementationImports ++ Source.build e.repositorySource)
  | .handler => .template "handler/http/handler" e.scope
  | .errorMessages => .template "messages/errors" e.scope
  | .responseMessages => .template "messages/responses" e.scope
  | .constants => .template "constants/constants" e.scope

/-- The artifact of a piece that declares a text. -/
def artifact (e : Entity) (p : Piece) (text : String) : Artifact where
  path := p.path e
  content := text
  mergeable := (p.marker e).isSome
  marker := p.marker e
  header := p.header e
  opener := p.opener
  closer := p.closer
  layer := p.layer.name

/-- Builds the artifact, its template coming from a press. -/
def build (press : Press) (t : Tree) (e : Entity) (p : Piece) :
    Press × Except TemplateFault Artifact :=
  match p.content e with
  | .source text => (press, .ok (p.artifact e text))
  | .template name scope =>
    let (press, r) := press.render t name scope
    (press, r.map (p.artifact e))

/-- Builds pieces in turn, up to the first that fails. -/
def buildAll (t : Tree) (e : Entity) (press : Press) :
    List Piece → Except TemplateFault (List Artifact)
  | [] => .ok []
  | p :: rest =>
    match build press t e p with
    | (_, .error f) => .error f
    | (press, .ok a) => (buildAll t e press rest).map (a :: ·)

end Piece

end GoScaffold
