import Audience.Document.Basic

/-!
# Manual filters from the table

The table sends its filters with the definition of the column under `field`.
Here they are reduced to what is stored, and mapped to the query that lists
persons, where a custom column is addressed by its identifier.
-/

namespace Audience

/-- The items of a value that is used as a list: nothing for a value that is
not full, the characters of a text, the keys of an object.  Other values cannot
be used so. -/
def Json.elements : Json → Except Misuse (List Json)
  | .arr items => .ok items
  | .str text => .ok (text.toList.map fun char => .str (String.singleton char))
  | .obj fields => .ok (fields.map fun field => .str field.1)
  | json => if json.isFull then .error .wrongType else .ok []

namespace ManualFilter

/-- Reduce a table filter, or one that is already reduced. -/
def ofTable : Json → Reading ManualFilter
  | .obj fields =>
      let label :=
        match Fields.getD "field" fields with
        | .obj column => Fields.getD "label" column
        | _ => Fields.getD "label" fields
      readFields
        [ ("label", label),
          ("operation", Fields.getD "operation" fields),
          ("value", Fields.getD "value" fields) ]
  | _ => .value .empty

/-- Reduce the filters of a list one after the other, up to the first that is
refused. -/
def ofTableList : List Json → Reading (List ManualFilter)
  | [] => .value []
  | item :: rest =>
      (ofTable item).andThen fun filter =>
        (ofTableList rest).map (filter :: ·)

end ManualFilter

namespace ManualState

/-- The stored form of a search text and table filters. -/
def ofTable (search filters : Json) : Reading ManualState :=
  (Reading.ofExcept filters.elements).andThen fun items =>
    (ManualFilter.ofTableList items).andThen fun filters =>
      (ManualFilter.plain search).map fun search => { search, filters }

end ManualState

/-- One filter of the query that lists persons. -/
structure QueryFilter where
  path : String
  operation : Option String
  value : Json
  deriving Repr, Inhabited

namespace QueryFilter

/-- A query filter as an object. -/
def toJson (filter : QueryFilter) : Json :=
  .obj
    [ ("path", .str filter.path),
      ("operation", Json.ofText? filter.operation),
      ("value", filter.value) ]

/-- The identifiers of custom columns by label, later columns last.  A label
that is an array or an object cannot be looked up; values that are no objects
are passed over. -/
def columnIds : List Json → Except Misuse (List (String × Json))
  | [] => .ok []
  | .obj fields :: rest =>
      match Fields.getD "label" fields with
      | .arr _ => .error .wrongType
      | .obj _ => .error .wrongType
      | .str label => do
          let others ← columnIds rest
          return (label, Fields.getD "id" fields) :: others
      | _ => columnIds rest
  | _ :: rest => columnIds rest

/-- The identifier of the last column with a label. -/
def columnId? (label : String) (columns : List (String × Json)) :
    Option Json :=
  Keyed.get? label columns.reverse

/-- The query path of a label: through the identifier of its custom column if
that is full, otherwise the label itself. -/
def pathOf (columns : List (String × Json)) (label : String) : String :=
  match columnId? label columns with
  | some identifier =>
      if identifier.isFull then "fields." ++ identifier.plainText else label
  | none => label

/-- The query filter of a stored filter. -/
def ofManual (columns : List (String × Json)) (filter : ManualFilter) :
    QueryFilter :=
  { path := pathOf columns filter.label
    operation := filter.operation
    value := filter.value }

/-- The custom columns of a value that lists them. -/
def columnsOf (columns : Json) : Except Misuse (List (String × Json)) := do
  columnIds (← columns.elements)

/-- The query filters of table filters, given the custom columns. -/
def ofTable (filters columns : Json) : Reading (List QueryFilter) :=
  (Reading.ofExcept (columnsOf columns)).andThen fun columns =>
    (Reading.ofExcept filters.elements).andThen fun items =>
      (ManualFilter.ofTableList items).map fun filters =>
        filters.map (ofManual columns)

end QueryFilter
end Audience
