-- SUMMARY: Resolving an action template for a trigger.
import AudioPolicy.Journal

/-! # Resolving templates

A written parameter is a literal, the word `REQUESTING` or an expression, and each
gets its value without regard to the other parameters. The defaults come last. -/

namespace AudioPolicy.Template

/-- The value of a written parameter. An expression gets its value from `expand`. -/
def resolveParam (kind : Action.Kind) (t : Trigger) (expand : String → Logged String)
    (key text : String) : Logged String :=
  match Written.ofText text with
  | .literal inner => return inner
  | .requesting =>
    match requesting? t key with
    | some value => return value
    | none => do
      Logged.warn (.nothingRequested kind key t.kind)
      return "REQUESTING"
  | .expression text => expand text

/-- The pairs of a key and its value. -/
def resolveEntries (kind : Action.Kind) (t : Trigger) (expand : String → Logged String) :
    List (String × String) → Logged (List (String × String))
  | [] => return []
  | (key, text) :: entries => do
    let value ← resolveParam kind t expand key text
    let others ← resolveEntries kind t expand entries
    return (key, value) :: others

/-- The action that a template stands for. -/
def resolve (t : Trigger) (expand : String → Logged String) (template : Template) :
    Logged Action := do
  let entries ← resolveEntries template.kind t expand template.params.entries
  return { kind := template.kind
           params := fillDefaults template.kind t (Params.ofList entries) }

end AudioPolicy.Template
