import Audience.Filter.Wire
import Audience.Flaw

/-!
# Normalization of filter trees

Any JSON value becomes a filter tree.  What cannot be understood degrades: an
unknown node to the neutral filter, an unknown iteration to the current one, an
unknown choice to its default, an unusable part to an absent one.  The one
input that has no tree is a node whose `type` is an array or an object.

Where a part is found by its key, the search and the reading of the part are
one recursion over the fields.
-/

namespace Audience
namespace Filter

/-- The result of normalizing: a value, or a misuse. -/
abbrev Normal (α : Type) := Except Misuse α

/-- A nonempty text, or an integer by its digits. -/
def textOf : Json → Option String
  | .int value => some (toString value)
  | .str text => if text = "" then none else some text
  | _ => none

/-- An integer, or a whole double. -/
def integerOf : Json → Option Int
  | .int value => some value
  | .double value => if value.isIntegral then some value.truncate else none
  | _ => none

/-- An integer that is not negative. -/
def countOf (json : Json) : Option Int :=
  match integerOf json with
  | some value => if value < 0 then none else some value
  | none => none

/-- A finite number; a whole one is an integer. -/
def numberOf : Json → Option Number
  | .int value => some (.int value)
  | .double value =>
      if value.isFinite then
        if value.isIntegral then some (.int value.truncate)
        else some (.double value)
      else none
  | _ => none

/-- Conditions hold unless they are explicitly said not to. -/
def holdsOf : Json → Bool
  | .bool false => false
  | _ => true

/-- The iteration described by a value. -/
def Iteration.ofJson : Json → Iteration
  | .obj fields =>
      match Fields.getD "type" fields with
      | .str "previous" => .previous
      | .str "specific" => .specific (textOf (Fields.getD "instanceId" fields))
      | .str "year" => .year (integerOf (Fields.getD "year" fields))
      | .str "name" => .name (textOf (Fields.getD "name" fields))
      | _ => .current
  | _ => .current

/-- A participant is the default role. -/
def Role.ofJson : Json → Role
  | .str "volunteer" => .volunteer
  | _ => .participant

/-- Outbound is the default direction. -/
def Direction.ofJson : Json → Direction
  | .str "inbound" => .inbound
  | .str "either" => .either
  | _ => .outbound

/-- Groups combine with `and` by default. -/
def Combinator.ofJson : Json → Combinator
  | .str "or" => .any
  | _ => .all

/-- The registration constraints of a participant, if there are any. -/
def ParticipantFilter.ofJson (json : Json) : Option ParticipantFilter :=
  let filter : ParticipantFilter :=
    { tierId := textOf (json.get "tierId")
      tierName := textOf (json.get "tierName")
      periodId := textOf (json.get "periodId")
      periodName := textOf (json.get "periodName")
      createdFrom := textOf (json.get "createdAtGte")
      createdTo := textOf (json.get "createdAtLte") }
  if filter = ⟨none, none, none, none, none, none⟩ then none else some filter

/-- The registration constraints of a volunteer, if there are any. -/
def VolunteerFilter.ofJson (json : Json) : Option VolunteerFilter :=
  let filter : VolunteerFilter :=
    { minShifts := countOf (json.get "minShifts")
      createdFrom := textOf (json.get "createdAtGte")
      createdTo := textOf (json.get "createdAtLte") }
  if filter = ⟨none, none, none⟩ then none else some filter

/-- An involvement keeps the constraints of its own role. -/
def Involvement.ofFields (fields : Fields) : Involvement :=
  let role := Role.ofJson (Fields.getD "role" fields)
  { role
    iteration := Iteration.ofJson (Fields.getD "iteration" fields)
    holds := holdsOf (Fields.getD "exists" fields)
    participant :=
      match role with
      | .participant =>
          ParticipantFilter.ofJson (Fields.getD "participant" fields)
      | .volunteer => none
    volunteer :=
      match role with
      | .participant => none
      | .volunteer => VolunteerFilter.ofJson (Fields.getD "volunteer" fields) }

/-- An upsell condition. -/
def Upsell.ofFields (fields : Fields) : Upsell :=
  { iteration := Iteration.ofJson (Fields.getD "iteration" fields)
    holds := holdsOf (Fields.getD "exists" fields)
    itemId := textOf (Fields.getD "upsellItemId" fields)
    itemName := textOf (Fields.getD "upsellItemName" fields) }

/-- An email condition. -/
def Email.ofFields (fields : Fields) : Email :=
  { direction := Direction.ofJson (Fields.getD "direction" fields)
    withinDays :=
      (numberOf (Fields.getD "withinDays" fields)).getD defaultWithinDays
    holds := holdsOf (Fields.getD "exists" fields) }

/-- The kind that a value names.  Arrays and objects cannot be looked up. -/
def Kind.ofJson? : Json → Normal (Option Kind)
  | .str text => .ok (Kind.ofText? text)
  | .arr _ => .error .wrongType
  | .obj _ => .error .wrongType
  | _ => .ok none

mutual

/-- The filter tree described by a value. -/
def Node.ofJson : Json → Normal Node
  | .obj fields => do
      match ← Kind.ofJson? (Fields.getD "type" fields) with
      | some .group =>
          let conditions ← Node.conditionsOf fields
          return .group (Combinator.ofJson (Fields.getD "op" fields))
            (Fields.getD "not" fields).isFull conditions
      | some .involvement => return .involvement (Involvement.ofFields fields)
      | some .transition =>
          let source ← Node.endpointOf "from" fields
          let target ← Node.endpointOf "to" fields
          return .transition source target
      | some .upsell => return .upsell (Upsell.ofFields fields)
      | some .email => return .email (Email.ofFields fields)
      | none => return .empty
  | _ => return .empty

/-- The trees in the list under `conditions`; none when there is no list. -/
def Node.conditionsOf : Fields → Normal (List Node)
  | [] => return []
  | (name, value) :: rest =>
      if name = "conditions" then
        match value with
        | .arr items => Node.listOfJson items
        | _ => return []
      else Node.conditionsOf rest

/-- The transition endpoint under a key. -/
def Node.endpointOf (key : String) : Fields → Normal Involvement
  | [] => return .empty
  | (name, value) :: rest =>
      if name = key then do
        let node ← Node.ofJson value
        return node.endpoint
      else Node.endpointOf key rest

/-- The trees of a list of values, in order. -/
def Node.listOfJson : List Json → Normal (List Node)
  | [] => return []
  | item :: rest => do
      let node ← Node.ofJson item
      let nodes ← Node.listOfJson rest
      return node :: nodes

end

/-- An `and` group of the trees of a list of values. -/
def Node.allOf (items : List Json) : Normal Node := do
  return .group .all false (← Node.listOfJson items)

/-- The root described by a value: an object with a tree or a list of trees
under `filter`, a bare tree, or a list of trees. -/
def Root.ofJson (json : Json) : Normal Root := do
  match json with
  | .arr items => return { filter := ← Node.allOf items }
  | .obj fields =>
      match Fields.getD "filter" fields with
      | .arr items => return { filter := ← Node.allOf items }
      | .obj inner => return { filter := ← Node.ofJson (.obj inner) }
      | _ => return { filter := ← Node.ofJson json }
  | _ => return { filter := .empty }

/-- The normal form of a tree. -/
def Node.normalize (node : Node) : Normal Node :=
  Node.ofJson node.toJson

/-- The normal form of a root. -/
def Root.normalize (root : Root) : Normal Root := do
  return { filter := ← root.filter.normalize }

/-- The normal form of an iteration. -/
def Iteration.normalize (iteration : Iteration) : Iteration :=
  Iteration.ofJson iteration.toJson

/-- The plain node of the kind that a value names, the neutral filter when it
names none. -/
def Node.emptyOf (target : Json) : Normal Node := do
  match ← Kind.ofJson? target with
  | some kind => return Node.emptyOfKind kind
  | none => return .empty

/-- Switch a value to another kind of node: kept when it is of that kind
already, otherwise the plain node. -/
def Node.coerceJson (json target : Json) : Normal Node :=
  match json.get "type", target with
  | .str tag, .str wanted =>
      if tag = wanted ∧ (Kind.ofText? wanted).isSome then Node.ofJson json
      else Node.emptyOf target
  | _, _ => Node.emptyOf target

/-- Switch a node to another kind: kept as it is when it is of that kind
already, otherwise the plain node. -/
def Node.coerce (node : Node) (target : Json) : Normal Node :=
  match target with
  | .str wanted =>
      if Kind.ofText? wanted = some node.kind then .ok node
      else Node.emptyOf target
  | _ => Node.emptyOf target

end Filter
end Audience
