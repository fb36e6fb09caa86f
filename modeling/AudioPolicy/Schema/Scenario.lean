-- SUMMARY: The written form of scenarios and of the steps of a replay.
import AudioPolicy.Scenario
import AudioPolicy.Schema.Policy
import AudioPolicy.Schema.Trigger

/-! # Scenario documents

A scenario is read and a replay is written. A step of a replay leaves out the origin and
the error that it does not have. -/

namespace AudioPolicy

instance : OfDocument Scenario where
  decode form d := do
    let fields ← Fields.ofDocument form ["state", "triggers", "apply_actions"] d
    return { state := ← fields.withDefault "state" {}
             triggers := ← fields.withDefault "triggers" []
             applyActions := ← fields.withDefault "apply_actions" false }

/-- A field that is left out if there is no value. -/
def optionalField {α : Type} [ToDocument α] (name : String) (value : Option α) :
    List (String × Document) :=
  match value with
  | some a => [(name, encode a)]
  | none => []

instance : ToDocument Scenario.Step where
  encode s :=
    .object
      ([("index", encode s.index), ("trigger", encode s.trigger)]
        ++ optionalField "origin" s.origin ++ [("actions", encode s.actions)]
        ++ optionalField "error" s.error)

instance : ToDocument Delivery where
  encode d := .object [("origin", encode d.origin), ("actions", encode d.actions)]

end AudioPolicy
