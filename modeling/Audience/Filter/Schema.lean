import Audience.Filter.Basic
import Audience.Reading

/-!
# Schema of filter trees

Reading a tree that was built elsewhere, without normalizing it: tags and
choices must be exact, and every part must have its type.
-/

namespace Audience
namespace Filter

open Reading

/-- One of several fixed texts. -/
def choice (choices : List (String × α)) : Reader α
  | .str text =>
      match choices.find? (·.1 == text) with
      | some (_, result) => .value result
      | none => fail .unexpected
  | _ => fail .unexpected

/-- An optional text field. -/
def optionalText (names : List String) (fields : Fields) :
    Reading (Option String) :=
  optional names none (nullable text) fields

/-- Read an iteration by its tag. -/
def Iteration.read : Reader Iteration := model "Iteration" fun fields =>
  match Fields.getD "type" fields with
  | .str "current" => .value .current
  | .str "previous" => .value .previous
  | .str "specific" =>
      specific <$> optionalText ["instanceId", "instance_id"] fields
  | .str "year" => year <$> optional ["year"] none (nullable integer) fields
  | .str "name" => name <$> optionalText ["name"] fields
  | _ => fail .unexpected

/-- Read the registration constraints of a participant. -/
def ParticipantFilter.read : Reader ParticipantFilter :=
  model "ParticipantFilter" fun fields =>
    ParticipantFilter.mk
      <$> optionalText ["tierId", "tier_id"] fields
      <*> optionalText ["tierName", "tier_name"] fields
      <*> optionalText ["periodId", "period_id"] fields
      <*> optionalText ["periodName", "period_name"] fields
      <*> optionalText ["createdAtGte", "created_at_gte"] fields
      <*> optionalText ["createdAtLte", "created_at_lte"] fields

/-- Read the registration constraints of a volunteer. -/
def VolunteerFilter.read : Reader VolunteerFilter :=
  model "VolunteerFilter" fun fields =>
    VolunteerFilter.mk
      <$> optional ["minShifts", "min_shifts"] none
        (nullable (integerFrom 0)) fields
      <*> optionalText ["createdAtGte", "created_at_gte"] fields
      <*> optionalText ["createdAtLte", "created_at_lte"] fields

/-- The role names. -/
def Role.choices : List (String × Role) :=
  [("participant", .participant), ("volunteer", .volunteer)]

/-- The direction names. -/
def Direction.choices : List (String × Direction) :=
  [("outbound", .outbound), ("inbound", .inbound), ("either", .either)]

/-- The combinator names. -/
def Combinator.choices : List (String × Combinator) :=
  [("and", .all), ("or", .any)]

/-- Read the fields of an involvement. -/
def Involvement.readFields (fields : Fields) : Reading Involvement :=
  Involvement.mk
    <$> optional ["role"] .participant (choice Role.choices) fields
    <*> optional ["iteration"] .current Iteration.read fields
    <*> optional ["exists"] true flag fields
    <*> optional ["participant"] none (nullable ParticipantFilter.read) fields
    <*> optional ["volunteer"] none (nullable VolunteerFilter.read) fields

/-- Read an involvement whose tag may be missing. -/
def Involvement.read : Reader Involvement := model "Involvement" fun fields =>
  (optional ["type"] () (choice [("involvement", ())]) fields).andThen
    fun _ => Involvement.readFields fields

/-- Read the fields of an upsell condition. -/
def Upsell.readFields (fields : Fields) : Reading Upsell :=
  Upsell.mk
    <$> optional ["iteration"] .current Iteration.read fields
    <*> optional ["exists"] true flag fields
    <*> optionalText ["upsellItemId", "upsell_item_id"] fields
    <*> optionalText ["upsellItemName", "upsell_item_name"] fields

/-- A number of days: a number of its own type, otherwise an integer if the
value can be read as one, otherwise a double. -/
def days : Reader Number
  | .int whole => .value (.int whole)
  | .double number => .value (.double number)
  | json =>
      match integer json with
      | .value whole => .value (.int whole)
      | _ => (double json).map .double

/-- Read the fields of an email condition. -/
def Email.readFields (fields : Fields) : Reading Email :=
  Email.mk
    <$> optional ["direction"] .outbound (choice Direction.choices) fields
    <*> optional ["withinDays", "within_days"] defaultWithinDays days fields
    <*> optional ["exists"] true flag fields

/-- The negation flag of a group: null, or a value that equals true. -/
def negation : Reader Bool
  | .null => .value false
  | json =>
      if json.sameValue (.bool true) then .value true else fail .unexpected

mutual

/-- Read a tree by its tag. -/
def Node.read : Json → Reading Node
  | .obj fields =>
      match Fields.getD "type" fields with
      | .str "group" =>
          Node.group
            <$> optional ["op"] .all (choice Combinator.choices) fields
            <*> optional ["not", "negate"] false negation fields
            <*> Node.readConditions fields
      | .str "involvement" =>
          Node.involvement <$> Involvement.readFields fields
      | .str "transition" =>
          Node.transition
            <$> required ["from", "from_"] Involvement.read fields
            <*> required ["to"] Involvement.read fields
      | .str "upsell" => Node.upsell <$> Upsell.readFields fields
      | .str "email" => Node.email <$> Email.readFields fields
      | _ => fail .unexpected
  | _ => fail (.notModel "Node")

/-- Read the list under `conditions`; none when the key is missing. -/
def Node.readConditions : Fields → Reading (List Node)
  | [] => .value []
  | (name, json) :: rest =>
      if name = "conditions" then
        match json with
        | .arr items => Node.readList items
        | _ => fail .notList
      else Node.readConditions rest

/-- Read trees one by one. -/
def Node.readList : List Json → Reading (List Node)
  | [] => .value []
  | item :: rest =>
      both ((Node.read item).map List.cons) (Node.readList rest)

end

end Filter
end Audience
