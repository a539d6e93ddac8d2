import Audience.Problem
import Audience.Reading
import Audience.Status

/-!
# Drafts of problems

A problem made of values that need not fit.  A draft takes any value for its
parts; the problem that it stands for is read from it as a whole, and all parts
that do not fit are reported together.
-/

namespace Audience

/-- A problem whose parts are any values; null is a part that is not given. -/
structure Problem.Draft where
  kind : ProblemKind
  code : ProblemCode
  status : Json
  detail : Json
  title : Json
  place : Json
  errors : Json
  headers : List (String × String)
  deriving Repr, Inhabited

namespace Problem.Draft

/-- The status that a value equals, where it is looked up; lists and objects
cannot be looked up. -/
def statusOf? : Json → Except Misuse (Option Int)
  | .int status => .ok (some status)
  | .bool flag => .ok (some (if flag then 1 else 0))
  | .double number =>
      .ok (if number.isFinite && number.isIntegral then some number.truncate
        else none)
  | .null => .ok none
  | .str _ => .ok none
  | _ => .error .wrongType

/-- The title that is given unless it is empty, else the one that goes with the
status. -/
def titleOf (draft : Draft) : Except Misuse Json :=
  if draft.title.isFull then .ok draft.title
  else (statusOf? draft.status).map fun status =>
    .str (defaultTitle (status.getD 0))

/-- The detail that is given, else what goes with the status. -/
def detailOf (draft : Draft) : Json :=
  match draft.detail, statusOf? draft.status with
  | .null, .ok (some status) => .str (Status.detail status)
  | .null, _ => .str ""
  | detail, _ => detail

/-- Read the problem that a draft stands for. -/
def read (draft : Draft) : Reading Problem :=
  (Reading.ofExcept draft.titleOf).andThen fun titleGiven =>
    (fun title status detail place errors =>
        { kind := draft.kind, status, code := draft.code, title, detail, place
          errors := errors.map (List.map Json.obj)
          headers := draft.headers })
      <$> (Reading.text titleGiven).inside "title"
      <*> (Reading.integer draft.status).inside "status"
      <*> (Reading.text draft.detailOf).inside "detail"
      <*> (Reading.nullable Reading.text draft.place).inside "instance"
      <*> (Reading.nullable (Reading.list Reading.object) draft.errors).inside
        "errors"

end Problem.Draft

end Audience
