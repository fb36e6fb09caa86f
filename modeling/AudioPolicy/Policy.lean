-- SUMMARY: Policies: rules that answer triggers with actions.
import AudioPolicy.Expression
import AudioPolicy.Template

/-! # Policies

A policy reacts to the triggers of the kinds it declares. If all its conditions
hold, its actions are emitted. -/

namespace AudioPolicy

/-- A rule. -/
structure Policy where
  name : String
  description : String := ""
  /-- The kinds that the policy reacts to. They may be catch-alls. -/
  triggers : List Trigger.Kind
  /-- All of them have to hold. -/
  conditions : List Condition := []
  actions : List Template := []
  /-- Policies with lower values go first. -/
  priority : Int32 := 0
  /-- Whether a match of this policy ends the search. -/
  stop : Bool := false
  enabled : Bool := true
  deriving DecidableEq, Repr

namespace Policy

/-- Whether a policy reacts to triggers of a kind. -/
def covers (p : Policy) (kind : Trigger.Kind) : Bool :=
  p.triggers.any fun declared => declared.covers kind

/-- Whether a policy takes part in the answer to triggers of a kind. -/
def isCandidate (kind : Trigger.Kind) (p : Policy) : Bool := p.enabled && p.covers kind

end Policy
end AudioPolicy
