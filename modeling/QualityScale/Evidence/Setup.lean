import QualityScale.Catalog
import QualityScale.Source.Module

/-!
# Evidence in the setup code

The rules whose evidence is the module `__init__`: where an entry keeps its data, and whether an
entry can be unloaded.
-/

namespace QualityScale.Evidence

/-- The module that sets an integration up. -/
def setupModule : String := "__init__"

/-- The further modules in which the type of an entry may be declared. -/
def typeModules : List String := ["coordinator", "models", "const"]

/-- Whether the type of the integration's entries is declared in one of its modules. -/
def declaresEntryType (files : FileTree) (i : Integration) : Bool :=
  (setupModule :: typeModules).any fun module =>
    i.moduleShows files module Source.declaresTypedEntry

/--
The setup keeps its data in the entry.  If strict typing is declared done too, the type of the
entry has to be declared.
-/
def runtimeData : Validator := fun _ files i done =>
  match i.moduleText? files setupModule with
  | none => ["Integration does not have an __init__.py"]
  | some text =>
    (if Source.mentions text.toList ".runtime_data".toList then []
      else ["Integration does not store its data in entry.runtime_data (no use of " ++
        "`runtime_data` in __init__.py)"]) ++
    (if done.contains "strict-typing" && !declaresEntryType files i then
      ["Integration uses strict typing but does not declare a typed config entry " ++
        "(`type XConfigEntry = ConfigEntry[...]`)"]
      else [])

/-- An entry can be unloaded. -/
def configEntryUnloading : Validator := fun _ files i _ =>
  if i.moduleShows files setupModule (Source.defines · "async_unload_entry".toList) then []
  else
    ["Integration does not support config entry unloading (is missing `async_unload_entry` " ++
      "in __init__.py)"]

end QualityScale.Evidence
