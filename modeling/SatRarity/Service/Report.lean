import SatRarity.Json.WriteFault
import SatRarity.Validation.Issue

set_option autoImplicit false

/-! # Reports of issues

A report repeats what was found beside each issue, except for the fields of objects whose key marks
them as private. So whether a report can be sent depends on what was found.
-/

namespace SatRarity.Service

open Text

/-! ## What is repeated -/

/-- The key marks its field as private. -/
def isPrivate (key : LooseText) : Bool :=
  (LooseText.ofString "_sa").points.isPrefixOf key.points

mutual

/-- The value without private fields. -/
def shown : Json → Json
  | .list items => .list (shownItems items)
  | .object fields => .object (shownFields fields)
  | v => v

def shownItems : List Json → List Json
  | [] => []
  | item :: items => shown item :: shownItems items

/-- The fields that are not private, without private fields in them. -/
def shownFields : List (LooseText × Json) → List (LooseText × Json)
  | [] => []
  | (key, value) :: fields =>
    if isPrivate key then shownFields fields else (key, shown value) :: shownFields fields

end

/-! ## Reports -/

/-- The bound that was violated, if the issue is that one was. -/
def context : Issue.Kind → List (LooseText × Json)
  | .negative => [("ctx", .object [("ge", .int 0)])]
  | _ => []

/-- An issue with what was found. -/
def reported (i : Issue) : Json :=
  .object (("type", .text i.kind.code)
    :: ("loc", .list (i.location.map fun (part : String) => .text part))
    :: ("msg", .text i.kind.message) :: ("input", shown i.found) :: context i.kind)

/-- The report of some issues. -/
def report (found : List Issue) : Json := .object [("detail", .list (found.map reported))]

end SatRarity.Service
