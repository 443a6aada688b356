import GoScaffold.Json.Writer
import GoScaffold.Settings.Layered

/-!
# Saved settings

Settings are saved as one flat object, the custom entries beside the others.
-/
namespace GoScaffold

/-- Why settings were not saved. -/
inductive SaveFault
  | custom (fault : EntriesFault)
  | unwritable (fault : Json.Unwritable)
  | zeroCharacter
  | refused (path : Path) (error : FileError)
  deriving Repr, DecidableEq

def SaveFault.message : SaveFault → String
  | .custom f => f.message
  | .unwritable f => f.message
  | .zeroCharacter => "embedded null byte"
  | .refused path e => s!"Failed to save configuration to {path.text}: {e.message}"

namespace Settings

/-- The entries that are written. -/
def flat (s : Settings) : Except EntriesFault Entries :=
  s.custom.toEntries.map (Entries.putAll (Entries.ofFields s.fields))

def save (s : Settings) (t : Tree) (path : Path) : Except SaveFault Tree :=
  match s.flat with
  | .error f => .error (.custom f)
  | .ok entries =>
    let saved := Json.object entries.toFields
    if path.hasZero then .error .zeroCharacter
    else match saved.unwritable? Json.deepestWritten, t.writeBytes path saved.toFile.toUTF8 with
      | some .nestedTooDeep, _ => .error (.unwritable .nestedTooDeep)
      | _, .error e => .error (.refused path e)
      | some f, _ => .error (.unwritable f)
      | none, .ok t => .ok t

end Settings

end GoScaffold
