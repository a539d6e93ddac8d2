import Audience.Filter.Basic

/-!
# Wire form of filter trees

Each node is an object with its tag under `type`; parts that are absent are
left out.
-/

namespace Audience
namespace Filter

/-- An optional field: nothing when absent. -/
def textField (key : String) : Option String → Fields
  | some text => [(key, .str text)]
  | none => []

/-- An optional integer field: nothing when absent. -/
def integerField (key : String) : Option Int → Fields
  | some value => [(key, .int value)]
  | none => []

/-- The tag of an iteration. -/
def Iteration.tag : Iteration → String
  | current => "current"
  | previous => "previous"
  | specific _ => "specific"
  | year _ => "year"
  | name _ => "name"

/-- An iteration as an object. -/
def Iteration.toJson (iteration : Iteration) : Json :=
  .obj <| ("type", .str iteration.tag) ::
    match iteration with
    | current => []
    | previous => []
    | specific instanceId => textField "instanceId" instanceId
    | year number => integerField "year" number
    | name label => textField "name" label

/-- The name of a role. -/
def Role.text : Role → String
  | participant => "participant"
  | volunteer => "volunteer"

/-- The name of a direction. -/
def Direction.text : Direction → String
  | outbound => "outbound"
  | inbound => "inbound"
  | either => "either"

/-- The name of a combinator. -/
def Combinator.text : Combinator → String
  | all => "and"
  | any => "or"

/-- Registration constraints of a participant as an object. -/
def ParticipantFilter.toJson (filter : ParticipantFilter) : Json :=
  .obj <|
    textField "tierId" filter.tierId ++
    textField "tierName" filter.tierName ++
    textField "periodId" filter.periodId ++
    textField "periodName" filter.periodName ++
    textField "createdAtGte" filter.createdFrom ++
    textField "createdAtLte" filter.createdTo

/-- Registration constraints of a volunteer as an object. -/
def VolunteerFilter.toJson (filter : VolunteerFilter) : Json :=
  .obj <|
    integerField "minShifts" filter.minShifts ++
    textField "createdAtGte" filter.createdFrom ++
    textField "createdAtLte" filter.createdTo

/-- An involvement as an object. -/
def Involvement.toJson (involvement : Involvement) : Json :=
  .obj <|
    [ ("type", .str Kind.involvement.text),
      ("role", .str involvement.role.text),
      ("iteration", involvement.iteration.toJson),
      ("exists", .bool involvement.holds) ] ++
    (match involvement.participant with
      | some filter => [("participant", filter.toJson)]
      | none => []) ++
    (match involvement.volunteer with
      | some filter => [("volunteer", filter.toJson)]
      | none => [])

/-- An upsell condition as an object. -/
def Upsell.toJson (upsell : Upsell) : Json :=
  .obj <|
    [ ("type", .str Kind.upsell.text),
      ("iteration", upsell.iteration.toJson),
      ("exists", .bool upsell.holds) ] ++
    textField "upsellItemId" upsell.itemId ++
    textField "upsellItemName" upsell.itemName

/-- An email condition as an object. -/
def Email.toJson (email : Email) : Json :=
  .obj
    [ ("type", .str Kind.email.text),
      ("direction", .str email.direction.text),
      ("withinDays", email.withinDays.toJson),
      ("exists", .bool email.holds) ]

mutual

/-- A node as an object. -/
def Node.toJson : Node → Json
  | .group combinator negated conditions =>
      .obj <|
        [ ("type", .str Kind.group.text), ("op", .str combinator.text) ] ++
        (if negated then [("not", .bool true)] else []) ++
        [ ("conditions", .arr (Node.listToJson conditions)) ]
  | .involvement found => found.toJson
  | .transition source target =>
      .obj
        [ ("type", .str Kind.transition.text),
          ("from", source.toJson),
          ("to", target.toJson) ]
  | .upsell condition => condition.toJson
  | .email condition => condition.toJson

/-- Nodes as objects, in order. -/
def Node.listToJson : List Node → List Json
  | [] => []
  | node :: rest => node.toJson :: Node.listToJson rest

end

/-- A root as an object with its tree under `filter`. -/
def Root.toJson (root : Root) : Json :=
  .obj [("filter", root.filter.toJson)]

end Filter
end Audience
