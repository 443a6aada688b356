import GoScaffold.Entity.Basic
import GoScaffold.Template.Evaluation

/-!
# What a template knows of an entity

Every template of an entity is rendered under the same names, to which a single piece may add.
-/
namespace GoScaffold

open GoScaffold.Template

namespace Entity

/-- The names that every template may use. -/
def scope (e : Entity) : Scope := [
  ("entity", .str e.name),
  ("entity_var", .str e.variableName),
  ("entity_plural", .str e.pluralName),
  ("entity_label", .str e.label),
  ("entity_plural_label", .str e.pluralLabel),
  ("receiver", .str e.receiver),
  ("table_name", .str e.table),
  ("route", .str e.route),
  ("module", .ofJson e.settings.moduleName),
  ("fields", .list (e.fields.map .field)),
  ("user_fields", .list (e.userMembers.map fun m => .field m.field)),
  ("plans", .record (e.plans.map fun p => (p.1, .plan p.2))),
  ("search_methods", .list (e.accessors.map .accessor)),
  ("validation", .ofJson e.settings.validation),
  ("business_rules", .ofJson e.settings.businessRules),
  ("timestamps", .ofJson e.settings.timestamps),
  ("soft_delete", .ofJson e.settings.softDelete),
  ("transactions", .ofJson e.settings.transactions),
  ("database", .ofJson e.settings.database)]

end Entity

end GoScaffold
