/-!
# Layers

The layers of the generated project. Each has a generator, which is known by a name of its own.
-/
namespace GoScaffold

inductive Layer
  | domain
  | dto
  | repository
  | handler
  | messages
  deriving Repr, DecidableEq

namespace Layer

/-- The layers in the order in which they are generated: types before their uses. -/
def all : List Layer := [.domain, .dto, .repository, .handler, .messages]

def name : Layer → String
  | .domain => "domain"
  | .dto => "dto"
  | .repository => "repository"
  | .handler => "handler"
  | .messages => "messages"

/-- Another name of the layer. -/
def byname : Layer → String
  | .domain => "entity"
  | .dto => "usecase"
  | .repository => "repo"
  | .handler => "http"
  | .messages => "constants"

def generator : Layer → String
  | .domain => "DomainGenerator"
  | .dto => "DTOGenerator"
  | .repository => "RepositoryGenerator"
  | .handler => "HandlerGenerator"
  | .messages => "MessagesGenerator"

def ofGenerator? (generator : String) : Option Layer := all.find? (·.generator == generator)

def description : Layer → String
  | .domain => "Entity struct, domain errors and seed data."
  | .dto => "Input and output DTOs in the shared use case file."
  | .repository => "Repository interface and database implementation."
  | .handler => "HTTP handler with CRUD routes."
  | .messages => "Error messages, response messages and constants."

def home (l : Layer) : String := "cleango.codegen.layers." ++ l.name

end Layer

end GoScaffold
