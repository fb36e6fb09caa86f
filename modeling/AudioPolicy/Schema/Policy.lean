-- SUMMARY: The written form of actions, templates, conditions and policies.
import AudioPolicy.Document.Decode
import AudioPolicy.Document.Encode
import AudioPolicy.Expression.Reader
import AudioPolicy.Policy

/-! # Policy documents

A condition is written as text. A template is one flat object: its field `type` is the kind
of the action, and every other field is a parameter. The value of a parameter may be any
scalar, and it becomes text. -/

namespace AudioPolicy

instance : ToDocument Action where
  encode a := .object [("type", encode a.kind), ("params", encode a.params)]

instance : OfDocument Action where
  decode form d := do
    let fields ← Fields.ofDocument form ["type", "params"] d
    return { kind := ← fields.required "type", params := ← fields.withDefault "params" .empty }

/-! ## Conditions and templates -/

instance : ToDocument Condition := ⟨fun c => .text c.written⟩

instance : OfDocument Condition where
  decode _ d := do
    match Condition.ofText (← d.decodeText) with
    | .ok c => return c
    | .error e => .error (.expected ("a condition (" ++ e.message ++ ")"))

instance : ToDocument Template where
  encode t := .object (("type", encode t.kind) :: t.params.entries.map fun (k, v) => (k, .text v))

/-- Reads a scalar as text. An integer that takes more than 63 bits counts as a
    floating-point number. -/
def Template.decodeParam (d : Document) : Except Mismatch String :=
  match d.resolve with
  | some (.text s) => .ok s
  | some (.bool b) => .ok (if b then "true" else "false")
  | some (.integer n) =>
    .ok (if Numeral.fits64 n then toString n
      else Decimal.positional n.toNat.toUInt64.toFloat)
  | some (.real x) => .ok (Decimal.positional x)
  | _ => .error (.expected "a scalar")

instance : OfDocument Template where
  decode form d := do
    let fields ← d.entries form
    let kind ← (← Fields.ofNamed form ["type"] fields).required "type"
    let params ← Document.decodeEntries Template.decodeParam
      (fields.filter fun (key, _) => key != "type")
    return { kind, params := Params.ofList params }

/-! ## Policies -/

instance : ToDocument Policy where
  encode p :=
    .object [("name", encode p.name), ("description", encode p.description),
      ("triggers", encode p.triggers), ("conditions", encode p.conditions),
      ("actions", encode p.actions), ("priority", encode p.priority), ("stop", encode p.stop),
      ("enabled", encode p.enabled)]

instance : OfDocument Policy where
  decode form d := do
    let fields ← Fields.ofDocument form
      ["name", "description", "triggers", "conditions", "actions", "priority", "stop",
        "enabled"] d
    return { name := ← fields.required "name"
             description := ← fields.withDefault "description" ""
             triggers := ← fields.required "triggers"
             conditions := ← fields.withDefault "conditions" []
             actions := ← fields.withDefault "actions" []
             priority := ← fields.withDefault "priority" 0
             stop := ← fields.withDefault "stop" false
             enabled := ← fields.withDefault "enabled" true }

end AudioPolicy
