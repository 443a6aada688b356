import GoScaffold.FieldType.Catalog
import GoScaffold.Proofs.OrderedMap
import GoScaffold.Proofs.Sequence
import Mathlib.Data.List.Induction

/-!
# Histories of a catalog

What a catalog answers is a matter of the registrations behind it: the last record under a name, the
last type that listed an alias, and the order in which names and aliases first came up. A type of
some name hides every alias of that name, and an alias always leads to a type.
-/
namespace GoScaffold

open GoScaffold.Text

/-- A registration of a type together with the aliases that it lists. -/
structure Enrolment where
  type : FieldType
  aliases : List String := []

namespace Catalog

def after (calls : List Enrolment) : Catalog :=
  calls.foldl (fun c call => c.register call.type call.aliases) empty

/-- The last record that was registered under a name. -/
def lastRecord? (calls : List Enrolment) (name : String) : Option FieldType :=
  (calls.reverse.find? fun call => call.type.name = name).map (·.type)

/-- The name of the type that was the last to list an alias. -/
def lastOwner? (calls : List Enrolment) (other : String) : Option String :=
  (calls.reverse.find? fun call => other ∈ call.aliases).map (·.type.name)

section Step

variable (calls : List Enrolment) (call : Enrolment)

theorem after_concat :
    after (calls ++ [call]) = (after calls).register call.type call.aliases := by
  rw [after, List.foldl_append]
  rfl

theorem lastRecord?_concat (name : String) : lastRecord? (calls ++ [call]) name =
    if call.type.name = name then some call.type else lastRecord? calls name := by
  rw [lastRecord?, List.reverse_append, List.reverse_singleton, List.singleton_append,
    List.find?_cons]
  by_cases h : call.type.name = name <;> simp [h, lastRecord?]

theorem lastOwner?_concat (other : String) : lastOwner? (calls ++ [call]) other =
    if other ∈ call.aliases then some call.type.name else lastOwner? calls other := by
  rw [lastOwner?, List.reverse_append, List.reverse_singleton, List.singleton_append,
    List.find?_cons]
  by_cases h : other ∈ call.aliases <;> simp [h, lastOwner?]

end Step

section Run

variable (calls : List Enrolment)

theorem get?_types_after (name : String) :
    OrderedMap.get? name (after calls).types = lastRecord? calls name := by
  induction calls using List.reverseRecOn with
  | nil => rfl
  | append_singleton calls call ih =>
    rw [after_concat, register, OrderedMap.get?_insert, ih, lastRecord?_concat]

theorem get?_aliases_after (other : String) :
    OrderedMap.get? other (after calls).aliases = lastOwner? calls other := by
  induction calls using List.reverseRecOn with
  | nil => rfl
  | append_singleton calls call ih =>
    rw [after_concat, register, OrderedMap.get?_foldl_insert, ih, lastOwner?_concat]

theorem names_after : (after calls).names = (calls.map (·.type.name)).eraseDups := by
  induction calls using List.reverseRecOn with
  | nil => rfl
  | append_singleton calls call ih =>
    rw [names] at ih
    rw [after_concat, register, names, OrderedMap.keys_insert, ih, List.map_append,
      List.map_singleton, eraseDups_concat]
    simp only [List.mem_eraseDups]

theorem aliases_after :
    OrderedMap.keys (after calls).aliases = (calls.flatMap (·.aliases)).eraseDups := by
  induction calls using List.reverseRecOn with
  | nil => rfl
  | append_singleton calls call ih =>
    rw [after_concat, register, OrderedMap.keys_foldl_insert _ _ ih, List.flatMap_append,
      List.flatMap_singleton]

/-- What a catalog can suggest: the names as they first came up, then the aliases so. -/
theorem allNames_after : (after calls).allNames =
    (calls.map (·.type.name)).eraseDups ++ (calls.flatMap (·.aliases)).eraseDups := by
  rw [allNames, names_after, aliases_after]

variable {calls} {token name : String}

theorem contains_types_after :
    OrderedMap.contains name (after calls).types = true ↔ name ∈ calls.map (·.type.name) := by
  have hnames := names_after calls
  rw [names] at hnames
  rw [OrderedMap.contains_iff_mem_keys, hnames, List.mem_eraseDups]

theorem resolve_after : (after calls).resolve token =
    if token ∈ calls.map (·.type.name) then some token else lastOwner? calls token := by
  rw [resolve, get?_aliases_after]
  simp only [contains_types_after]

theorem mem_of_lastOwner? (h : lastOwner? calls token = some name) :
    name ∈ calls.map (·.type.name) := by
  obtain ⟨call, hcall, rfl⟩ := Option.map_eq_some_iff.1 h
  exact List.mem_map_of_mem (List.mem_reverse.1 (List.mem_of_find?_eq_some hcall))

theorem isSome_lastRecord? (h : name ∈ calls.map (·.type.name)) :
    (lastRecord? calls name).isSome = true := by
  rw [← get?_types_after]
  exact contains_types_after.2 h

/-- Whatever a token stands for has a record. -/
theorem isSome_lastRecord?_of_resolve (h : (after calls).resolve token = some name) :
    (lastRecord? calls name).isSome = true := by
  rw [resolve_after] at h
  split at h
  · next htoken => exact isSome_lastRecord? (Option.some.inj h ▸ htoken)
  · exact isSome_lastRecord? (mem_of_lastOwner? h)

theorem isSome_resolve_of_mem (h : name ∈ (after calls).allNames) :
    ((after calls).resolve name).isSome = true := by
  rw [resolve]
  rcases List.mem_append.1 h with hname | hother
  · rw [if_pos (OrderedMap.contains_iff_mem_keys.2 hname)]
    rfl
  · split
    · rfl
    · exact OrderedMap.contains_iff_mem_keys.2 hother

end Run

end Catalog

theorem Text.mem_of_mem_closeMatches {limit : Nat} {word other : String} {candidates : List String}
    (h : other ∈ closeMatches limit word candidates) : other ∈ candidates := by
  obtain ⟨⟨l, other'⟩, hmem, rfl⟩ := List.mem_map.1 h
  have hscored := (List.mem_filter.1 (List.mem_mergeSort.1 (List.mem_of_mem_take hmem))).1
  obtain ⟨candidate, hcandidate, heq⟩ := List.mem_map.1 hscored
  obtain rfl : candidate = other' := congrArg Prod.snd heq
  exact hcandidate

namespace Catalog

section Suggest

variable (c : Catalog) (token : String)

/-- The names that differ from a token in nothing but letter case, in the order of all names. -/
def folded : List String := (c.allNames.filter fun name => lower name == lower token).eraseDups

theorem length_suggest_le (limit : Nat) : (c.suggest token limit).length ≤ limit := by
  rw [suggest]
  exact List.length_take_le _ _

theorem nodup_suggest (limit : Nat) : (c.suggest token limit).Nodup := by
  rw [suggest]
  exact (nodup_eraseDups _).sublist (List.take_sublist _ _)

variable {c token}

theorem mem_allNames_of_close {limit : Nat} {name : String}
    (h : name ∈ closeMatches limit token c.allNames ++ closeMatches limit (lower token) c.allNames) :
    name ∈ c.allNames := by
  rcases List.mem_append.1 h with h | h
  · exact mem_of_mem_closeMatches h
  · exact mem_of_mem_closeMatches h

theorem mem_allNames_of_mem_suggest {limit : Nat} {name : String}
    (h : name ∈ c.suggest token limit) : name ∈ c.allNames := by
  rw [suggest, List.append_assoc] at h
  rcases List.mem_append.1 (List.mem_eraseDups.1 (List.mem_of_mem_take h)) with hfolded | hclose
  · exact (List.mem_filter.1 hfolded).1
  · exact mem_allNames_of_close hclose

/-- The names that are the token but for letter case come first, as many of them as may come. -/
theorem suggest_eq (c : Catalog) (token : String) (limit : Nat) :
    ∃ rest, c.suggest token limit = (c.folded token).take limit ++ rest ∧
      ∀ name ∈ rest, lower name ≠ lower token := by
  rw [suggest, List.append_assoc, List.eraseDups_append, List.take_append]
  refine ⟨_, rfl, fun name hname hsame => ?_⟩
  have hremoved := List.mem_eraseDups.1 (List.mem_of_mem_take hname)
  rw [List.removeAll, List.mem_filter] at hremoved
  obtain ⟨hclose, hnot⟩ := hremoved
  have hfolded : name ∈ c.allNames.filter fun n => lower n == lower token :=
    List.mem_filter.2 ⟨mem_allNames_of_close hclose, beq_iff_eq.2 hsame⟩
  simp [hfolded] at hnot

end Suggest

/-- After any registrations, a token stands for itself if a type was registered under it, and
otherwise for the last type that listed it as an alias. Whatever it stands for has a record, which is
the last one of that name. The names are those of the types in the order of first registration, and
the suggestions for a token are different names that stand for something, at most as many as may
come, those that are the token but for letter case in front. -/
theorem after_answers (calls : List Enrolment) (token : String) :
    (after calls).resolve token =
      (if token ∈ calls.map (·.type.name) then some token else lastOwner? calls token) ∧
    (after calls).lookup token = ((after calls).resolve token).bind (lastRecord? calls) ∧
    ((after calls).lookup token).isSome = ((after calls).resolve token).isSome ∧
    (after calls).names = (calls.map (·.type.name)).eraseDups ∧
    (after calls).allNames =
      (calls.map (·.type.name)).eraseDups ++ (calls.flatMap (·.aliases)).eraseDups ∧
    ∀ limit : Int, 1 ≤ limit → ∃ suggestions,
      (after calls).suggestUpTo token limit = .ok suggestions ∧ suggestions.length ≤ limit ∧
      suggestions.Nodup ∧ (∀ name ∈ suggestions, ((after calls).resolve name).isSome = true) ∧
      ∃ rest, suggestions = ((after calls).folded token).take limit.toNat ++ rest ∧
        ∀ name ∈ rest, lower name ≠ lower token := by
  have hlookup : (after calls).lookup token =
      ((after calls).resolve token).bind (lastRecord? calls) := by
    rw [lookup]
    simp only [get?_types_after]
  refine ⟨resolve_after, hlookup, ?_, names_after calls, allNames_after calls, fun limit hlimit => ?_⟩
  · rw [hlookup]
    cases hresolve : (after calls).resolve token with
    | none => rfl
    | some name => exact isSome_lastRecord?_of_resolve hresolve
  · refine ⟨(after calls).suggest token limit.toNat, by rw [suggestUpTo, if_neg (by omega)], ?_,
      nodup_suggest _ _ _, fun name hname => ?_, suggest_eq _ _ _⟩
    · have hlength := length_suggest_le (after calls) token limit.toNat
      omega
    · exact isSome_resolve_of_mem (mem_allNames_of_mem_suggest hname)

/-- An alias with two owners, one that is the name of a type, and a record that came again. -/
theorem after_answers_string :
    let calls : List Enrolment := [⟨FieldType.int, ["string", "whole"]⟩,
      ⟨FieldType.string, ["whole"]⟩, ⟨{ FieldType.int with goType := "int32" }, []⟩]
    (after calls).lookup "whole" = some FieldType.string ∧
      (after calls).lookup "int" = some { FieldType.int with goType := "int32" } ∧
      (after calls).names = ["int", "string"] ∧
      (after calls).suggestUpTo "String" 1 = .ok ["string"] := by
  intro calls
  obtain ⟨hwhole, hwhole', -⟩ := after_answers calls "whole"
  obtain ⟨hint, hint', -, hnames, -⟩ := after_answers calls "int"
  obtain ⟨-, -, -, -, -, hsuggest⟩ := after_answers calls "String"
  obtain ⟨suggestions, hok, hlength, -, -, rest, heq, -⟩ := hsuggest 1 (by decide)
  have hfolded : (after calls).folded "String" = ["string"] := by decide +kernel
  rw [hfolded] at heq
  have hone : suggestions.length ≤ 1 := Int.ofNat_le.1 hlength
  obtain rfl : rest = [] := by
    rw [heq] at hone
    simpa using hone
  rw [hwhole', hwhole, hint', hint, hnames, hok, heq]
  decide

end Catalog

end GoScaffold
