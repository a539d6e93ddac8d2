import Audience.Proofs.Document.Wire
import Audience.Proofs.Filter.Totality
import Mathlib.Data.List.Forall2

/-!
# The query of table filters

The filters of the table are mapped to the query that lists persons as the table
holds them, or after they were stored and read back.  Both ways give the same
query.  It has an entry for every filter, and the path of an entry is decided by
the last custom column that goes by the label of the filter.
-/

namespace Audience

/-! ## What a filter of the table tells -/

namespace ManualFilter

/-- The label of a table filter: the one in the definition of its column if that
is there. -/
def labelIn (item : Json) : Json :=
  match item.get "field" with
  | .obj column => Fields.getD "label" column
  | _ => item.get "label"

/-- A filter of the table tells what a reduced one holds.  What is no object tells
nothing. -/
structure Tells (item : Json) (filter : ManualFilter) : Prop where
  label : plain (labelIn item) = .value filter.label
  operation : item.get "operation" = Json.ofText? filter.operation
  value : item.get "value" = filter.value

variable {item : Json} {items : List Json} {filter : ManualFilter}
variable {filters : List ManualFilter}

theorem onWire_toJson (filter : ManualFilter) :
    filter.toJson.onWire = filter.onWire.toJson := by
  simp [toJson, Json.onWire, Json.fieldsOnWire, onWire]

end ManualFilter

namespace Document

end Document

namespace QueryFilter

/-! ## The last column of a label -/

section Columns

variable {column : Json} {columns : List Json} {label : String}
variable {identifier : Json}

/-- A custom column goes by a label and has an identifier, which may be null. -/
def Names (column : Json) (label : String) (identifier : Json) : Prop :=
  ∃ fields, column = .obj fields ∧ Fields.getD "label" fields = .str label ∧
    Fields.getD "id" fields = identifier

/-- The last of the columns that go by a label. -/
def LastNamed (columns : List Json) (label : String) (identifier : Json) :
    Prop :=
  ∃ before column after, columns = before ++ column :: after ∧
    Names column label identifier ∧
      ∀ other ∈ after, ∀ another, ¬ Names other label another

/-- Where a label leads: through the identifier of the last column that goes by
it if that is full, and otherwise by the label itself. -/
def Addresses (columns : List Json) (label path : String) : Prop :=
  (∃ identifier, LastNamed columns label identifier ∧
    identifier.isFull = true ∧ path = "fields." ++ identifier.plainText) ∨
  ((∀ identifier, LastNamed columns label identifier →
    identifier.isFull = false) ∧ path = label)

end Columns

/-! ## The query -/

section Queries

variable {items columns : List Json} {manual : ManualState}
variable {filters : List ManualFilter} {search : Json}

/-- An entry of the query asks what a filter of the table tells. -/
structure Asks (columns : List Json) (item : Json) (entry : QueryFilter) :
    Prop where
  path : ∃ label, ManualFilter.plain (ManualFilter.labelIn item) =
    .value label ∧ Addresses columns label entry.path
  operation : item.get "operation" = Json.ofText? entry.operation
  value : item.get "value" = entry.value

end Queries
end QueryFilter
end Audience
