import Audience.Json.Basic

/-!
# Filter trees

A segment of an audience is described by a tree of conditions.  Groups combine
conditions; the leaves ask for an involvement in an iteration of the event, a
transition between two involvements, an upsell, or email activity.

The types hold every tree that the schema admits; which of them are canonical
is a separate question.
-/

namespace Audience
namespace Filter

/-- The iteration of an event that a condition is about. -/
inductive Iteration where
  | current
  | previous
  | specific (instanceId : Option String)
  | year (year : Option Int)
  | name (name : Option String)
  deriving DecidableEq, Repr, Inhabited

/-- The part a person plays in an iteration. -/
inductive Role where
  | participant
  | volunteer
  deriving DecidableEq, Repr, Inhabited

/-- Constraints on the registration of a participant. -/
structure ParticipantFilter where
  tierId : Option String
  tierName : Option String
  periodId : Option String
  periodName : Option String
  createdFrom : Option String
  createdTo : Option String
  deriving DecidableEq, Repr, Inhabited

/-- Constraints on the registration of a volunteer. -/
structure VolunteerFilter where
  minShifts : Option Int
  createdFrom : Option String
  createdTo : Option String
  deriving DecidableEq, Repr, Inhabited

/-- Having been, or not having been, involved in an iteration. -/
structure Involvement where
  role : Role
  iteration : Iteration
  holds : Bool
  participant : Option ParticipantFilter
  volunteer : Option VolunteerFilter
  deriving DecidableEq, Repr, Inhabited

/-- Having bought, or not having bought, an upsell item in an iteration. -/
structure Upsell where
  iteration : Iteration
  holds : Bool
  itemId : Option String
  itemName : Option String
  deriving DecidableEq, Repr, Inhabited

/-- Which way an email went. -/
inductive Direction where
  | outbound
  | inbound
  | either
  deriving DecidableEq, Repr, Inhabited

/-- Having had, or not having had, email activity in a window of days. -/
structure Email where
  direction : Direction
  withinDays : Number
  holds : Bool
  deriving DecidableEq, Repr, Inhabited

/-- How a group combines its conditions. -/
inductive Combinator where
  | all
  | any
  deriving DecidableEq, Repr, Inhabited

/-- A filter tree. -/
inductive Node where
  | group (combinator : Combinator) (negated : Bool) (conditions : List Node)
  | involvement (involvement : Involvement)
  | transition (source target : Involvement)
  | upsell (upsell : Upsell)
  | email (email : Email)
  deriving BEq, Repr

/-- A whole segment: one filter tree. -/
structure Root where
  filter : Node
  deriving BEq, Repr

/-- The kinds of node. -/
inductive Kind where
  | group
  | involvement
  | transition
  | upsell
  | email
  deriving DecidableEq, Repr, Inhabited

namespace Kind

/-- The tag of a kind of node. -/
def text : Kind → String
  | group => "group"
  | involvement => "involvement"
  | transition => "transition"
  | upsell => "upsell"
  | email => "email"

/-- The kind with a given tag. -/
def ofText? : String → Option Kind
  | "group" => some group
  | "involvement" => some involvement
  | "transition" => some transition
  | "upsell" => some upsell
  | "email" => some email
  | _ => none

end Kind

/-- The days that an email condition looks back when it does not say. -/
def defaultWithinDays : Number := .int 21

namespace Involvement

/-- Any involvement in a role in the current iteration. -/
def ofRole (role : Role) : Involvement :=
  { role, iteration := .current, holds := true, participant := none,
    volunteer := none }

/-- Any participation in the current iteration. -/
def empty : Involvement := ofRole .participant

end Involvement

namespace Node

/-- The neutral filter: an `and` group without conditions. -/
def empty : Node := .group .all false []

instance : Inhabited Node := ⟨empty⟩

/-- The kind of a node. -/
def kind : Node → Kind
  | group _ _ _ => .group
  | involvement _ => .involvement
  | transition _ _ => .transition
  | upsell _ => .upsell
  | email _ => .email

/-- The plain node of each kind. -/
def emptyOfKind : Kind → Node
  | .group => empty
  | .involvement => .involvement .empty
  | .transition => .transition (.ofRole .participant) (.ofRole .volunteer)
  | .upsell =>
      .upsell
        { iteration := .current, holds := true, itemId := none,
          itemName := none }
  | .email =>
      .email
        { direction := .outbound, withinDays := defaultWithinDays,
          holds := true }

/-- A node as the endpoint of a transition: an involvement that holds.  Any
other kind of node becomes the plain participation. -/
def endpoint : Node → Involvement
  | involvement found => { found with holds := true }
  | _ => .empty

end Node

instance : Inhabited Root := ⟨{ filter := Node.empty }⟩

end Filter
end Audience
