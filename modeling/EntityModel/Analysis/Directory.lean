import EntityModel.Declaration.Entity
import EntityModel.Options

/-!
# The directory of entities

References to entities are written by hand and need not match a name exactly. The directory finds
the entity that is meant: by its name; by the singular or the plural of what is written; and then by
comparing what is written, its singular and its plural, in lowercase, with the same forms of every
entity, where the first declared entity counts. It also settles the table name of each entity.
-/

namespace EntityModel

/-- The lowercase, singular and plural forms of a name. -/
def nameForms (name : String) (overrides : Naming.Overrides) : List String :=
  [Text.lowercase name, Naming.singularize name, Naming.pluralize name overrides]

/-- The entities of a run by name, in the order of their declaration. -/
structure Directory where
  entities : List (String × Entity) := []
  /-- storage table by entity -/
  tables : List (String × Value) := []
  /-- entity by form of its name -/
  forms : List (String × String) := []
  options : Options := {}
  deriving Repr

namespace Directory

/-- The names of the entities, in the order of their declaration. -/
def names (d : Directory) : List String := d.entities.map (·.1)

/-- Whether an entity has exactly this name. -/
def contains (d : Directory) (name : String) : Bool := d.entities.any (·.1 == name)

/-- The entity of exactly this name. -/
def find? (d : Directory) (name : String) : Option Entity := d.entities.lookup name

/-- The table of the entity of exactly this name. -/
def tableFor? (d : Directory) (name : String) : Option Value := d.tables.lookup name

/-- The table of the entity of exactly this name, or null. -/
def tableFor (d : Directory) (name : String) : Value := (d.tableFor? name).getD .null

/-- The plural of a word under the options of the run. -/
def plural (d : Directory) (word : String) : String :=
  Naming.pluralize word d.options.pluralization

/-- Forms with those of one more entity; a form that is taken stays with its entity. -/
def putForms (name : String) (written : List String) (forms : List (String × String)) :
    List (String × String) :=
  written.foldl (fun forms form =>
    if forms.any (·.1 == form) then forms else forms ++ [(form, name)]) forms

/-- The directory with one more entity, whose name has to be new. -/
def add (d : Directory) (e : Entity) : Outcome Directory := do
  let name ← e.name.asText
  if d.contains name then .error (.failed (.duplicateEntity e.name))
  else
    let table := (d.options.tableFor name).orElse (.text (d.plural name))
    return { d with
      entities := d.entities ++ [(name, e)]
      tables := d.tables ++ [(name, table)]
      forms := putForms name (nameForms name d.options.pluralization) d.forms }

def build (entities : List Entity) (options : Options) : Outcome Directory :=
  entities.foldlM add { options }

/-! ### Resolution -/

/-- The name of the entity that is meant by a reference, if there is one. -/
def resolve (d : Directory) (reference : String) : Option String :=
  let singular := Naming.singularize reference
  let plural := d.plural reference
  if d.contains reference then some reference
  else if d.contains singular then some singular
  else if d.contains plural then some plural
  else [Text.lowercase reference, singular, plural].findSome? fun form => d.forms.lookup form

/-- The entity that is meant by a reference, with its name. -/
def get? (d : Directory) (reference : String) : Option (String × Entity) := do
  let name ← d.resolve reference
  return (name, ← d.find? name)

/-- Whether a reference means the entity of a name. A reference that means no entity at all is
compared by its forms. -/
def isMeant (d : Directory) (reference name : String) : Bool :=
  match d.resolve reference with
  | some found => found == name
  | none =>
    (nameForms reference d.options.pluralization).any
      (nameForms name d.options.pluralization).contains

end Directory

end EntityModel
