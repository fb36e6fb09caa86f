-- SUMMARY: The counters of a journal, named, totalled and written for a monitoring system.
import AudioPolicy.Journal

/-! # Metrics

A journal adds amounts to counters. Counters of one family share a name and differ in the
value of one label. A counter exists as soon as something is added to it, even if the
amount is zero. The exposition lists every family that has a counter, with a line for each
of its counters. -/

namespace AudioPolicy

namespace Counter

/-! ## Families -/

/-- The counters that share a name. -/
inductive Family
  | triggers | matched | actions | failures | steps
  deriving DecidableEq, Repr

namespace Family

/-- The name of a family. -/
def name : Family → String
  | triggers => "audiorule_triggers_total"
  | matched => "audiorule_policies_matched_total"
  | actions => "audiorule_actions_total"
  | failures => "audiorule_condition_failures_total"
  | steps => "audiorule_sim_steps_total"

/-- What a family counts. -/
def help : Family → String
  | triggers => "Triggers processed by kind"
  | matched => "Policies whose conditions held"
  | actions => "Actions delivered by origin"
  | failures => "Calls that could not be evaluated, by reason"
  | steps => "Replayed scenario triggers by outcome"

/-- Every family. -/
def all : List Family := [actions, failures, matched, steps, triggers]

end Family

/-- The family of a counter. -/
def family : Counter → Family
  | triggers _ => .triggers
  | matched => .matched
  | actions _ => .actions
  | failures _ => .failures
  | steps _ => .steps

/-- The label of a counter and its value. -/
def label? : Counter → Option (String × String)
  | triggers kind => some ("kind", kind.text)
  | matched => none
  | actions origin => some ("origin", Spelled.word origin)
  | failures reason => some ("reason", Spelled.word reason)
  | steps outcome => some ("outcome", Spelled.word outcome)

/-- The name of a counter with its label. -/
def title (c : Counter) : String :=
  match c.label? with
  | some (label, value) => c.family.name ++ "\x7b" ++ label ++ "=\"" ++ value ++ "\"\x7d"
  | none => c.family.name

end Counter

namespace Metrics

/-! ## Totals -/

/-- The counters that something was added to, each of them once. -/
def counters (events : List Event) : List Counter :=
  (events.filterMap fun
    | .count c _ => some c
    | .warning _ => none).eraseDups

/-- The line for a counter. -/
def line (events : List Event) (c : Counter) : String :=
  c.title ++ " " ++ toString (Event.total c events)

/-- The lines for some counters, in increasing order. -/
def lines (events : List Event) (cs : List Counter) : List String :=
  (cs.map (line events)).mergeSort fun a b => decide (a ≤ b)

/-! ## Exposition -/

/-- The lines for a family: what it counts, its type and its counters. A family without
    counters has none. -/
def familyLines (events : List Event) (family : Counter.Family) : List String :=
  let cs := (counters events).filter fun c => c.family == family
  if cs.isEmpty then []
  else
    ["# HELP " ++ family.name ++ " " ++ family.help, "# TYPE " ++ family.name ++ " counter"]
      ++ lines events cs ++ [""]

/-- The exposition of all counters. -/
def exposition (events : List Event) : String :=
  String.join ((Counter.Family.all.flatMap (familyLines events)).map (· ++ "\n"))

end Metrics
end AudioPolicy
