import Audience.Proofs.Document.Wire
import Audience.Proofs.Filter.Canonical

/-!
# Filter trees on the wire

NaN and the infinities do not survive the wire.  The wire form of a canonical
tree has neither, so a canonical tree is sent as it is.
-/

namespace Audience
namespace Filter

open Json

theorem fieldsFinite_append (front back : Fields) :
    fieldsFinite (front ++ back) =
      (fieldsFinite front && fieldsFinite back) := by
  induction front with
  | nil => rfl
  | cons field rest ih =>
      obtain ⟨name, value⟩ := field
      simp [fieldsFinite, ih, Bool.and_assoc]

@[simp] theorem fieldsFinite_textField (key : String) (text : Option String) :
    fieldsFinite (textField key text) = true := by
  cases text <;> rfl

@[simp] theorem fieldsFinite_integerField (key : String)
    (value : Option Int) : fieldsFinite (integerField key value) = true := by
  cases value <;> rfl

@[simp] theorem Iteration.isFinite_toJson (iteration : Iteration) :
    iteration.toJson.isFinite = true := by
  cases iteration <;> simp [toJson, isFinite, fieldsFinite]

@[simp] theorem ParticipantFilter.isFinite_toJson (filter : ParticipantFilter) :
    filter.toJson.isFinite = true := by
  simp [toJson, isFinite, fieldsFinite_append]

@[simp] theorem VolunteerFilter.isFinite_toJson (filter : VolunteerFilter) :
    filter.toJson.isFinite = true := by
  simp [toJson, isFinite, fieldsFinite_append]

@[simp] theorem Involvement.isFinite_toJson (involvement : Involvement) :
    involvement.toJson.isFinite = true := by
  obtain ⟨role, iteration, holds, participant, volunteer⟩ := involvement
  cases participant <;> cases volunteer <;>
    simp [toJson, isFinite, fieldsFinite]

@[simp] theorem Upsell.isFinite_toJson (upsell : Upsell) :
    upsell.toJson.isFinite = true := by
  simp [toJson, isFinite, fieldsFinite, fieldsFinite_append]

theorem Email.isFinite_toJson {email : Email}
    (canonical : CanonicalNumber email.withinDays) :
    email.toJson.isFinite = true := by
  have days : email.withinDays.toJson.isFinite = true := by
    cases given : email.withinDays with
    | int value => rfl
    | double value =>
        rw [given] at canonical
        exact canonical.1
  simp [toJson, isFinite, fieldsFinite, days]

mutual

/-- The wire form of a canonical tree is finite. -/
theorem Node.isFinite_toJson : ∀ {node : Node}, node.Canonical →
    node.toJson.isFinite = true
  | .group combinator negated conditions, canonical => by
      have children := Node.itemsFinite_listToJson canonical
      cases negated <;> simp [toJson, isFinite, fieldsFinite, children]
  | .involvement found, _ => found.isFinite_toJson
  | .transition source target, _ => by
      simp [toJson, isFinite, fieldsFinite]
  | .upsell condition, _ => condition.isFinite_toJson
  | .email _, canonical => Email.isFinite_toJson canonical

theorem Node.itemsFinite_listToJson : ∀ {nodes : List Node},
    Node.ListCanonical nodes → itemsFinite (Node.listToJson nodes) = true
  | [], _ => rfl
  | node :: rest, ⟨first, others⟩ => by
      rw [Node.listToJson, itemsFinite, Node.isFinite_toJson first,
        Node.itemsFinite_listToJson others]
      rfl

end

/-- A canonical segment is sent as it is. -/
theorem Root.onWire_toJson {root : Root} (canonical : root.Canonical) :
    root.toJson.onWire = root.toJson := by
  apply onWire_of_isFinite
  simp [toJson, isFinite, fieldsFinite, Node.isFinite_toJson canonical]

end Filter

/-- A block with a canonical tree, or with none, is sent as it is. -/
theorem AiBlock.onWire_of_root {block : AiBlock} {root : Option Filter.Root}
    (canonical : ∀ tree, root = some tree → tree.Canonical)
    (given : block.ast = root.map Filter.Root.toJson) :
    block.onWire = block := by
  obtain ⟨enabled, savedId, ast, title⟩ := block
  subst given
  cases root with
  | none => rfl
  | some tree =>
      have same := Filter.Root.onWire_toJson (canonical tree rfl)
      simp only [onWire, Option.map_some, Option.getD_some, same]
      rfl

end Audience
