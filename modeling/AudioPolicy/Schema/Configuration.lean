-- SUMMARY: The written form of configurations, and loading one from a file.
import AudioPolicy.Schema.Graph
import AudioPolicy.Schema.Policy
import AudioPolicy.Store

/-! # Configuration documents

A configuration file is JSON if its name ends in `.json`. Every other file is YAML. -/

namespace AudioPolicy

/-! ## Declarations -/

instance : ToDocument Endpoint where
  encode e :=
    .object [("name", encode e.name), ("domain", encode e.domain), ("class", encode e.class_),
      ("priority", encode e.priority), ("registration", encode e.registration),
      ("template", encode e.template), ("main_sound_properties", encode e.mainSoundProperties),
      ("connection_formats", encode e.connectionFormats)]

instance : OfDocument Endpoint where
  decode form d := do
    let fields ← Fields.ofDocument form
      ["name", "domain", "class", "priority", "registration", "template",
        "main_sound_properties", "connection_formats"] d
    return { name := ← fields.required "name"
             domain := ← fields.withDefault "domain" ""
             class_ := ← fields.withDefault "class" ""
             priority := ← fields.withDefault "priority" 0
             registration := ← fields.withDefault "registration" .domain
             template := ← fields.withDefault "template" false
             mainSoundProperties := ← fields.withDefault "main_sound_properties" []
             connectionFormats := ← fields.withDefault "connection_formats" [] }

instance : ToDocument DeclaredDomain where
  encode d :=
    .object [("name", encode d.name), ("bus_name", encode d.busName),
      ("node_name", encode d.nodeName), ("early", encode d.early),
      ("template", encode d.template)]

instance : OfDocument DeclaredDomain where
  decode form d := do
    let fields ← Fields.ofDocument form ["name", "bus_name", "node_name", "early", "template"] d
    return { name := ← fields.required "name"
             busName := ← fields.withDefault "bus_name" ""
             nodeName := ← fields.withDefault "node_name" ""
             early := ← fields.withDefault "early" false
             template := ← fields.withDefault "template" false }

instance : ToDocument Gateway where
  encode g :=
    .object [("name", encode g.name), ("sink", encode g.sink), ("source", encode g.source),
      ("control_domain", encode g.controlDomain), ("registration", encode g.registration),
      ("template", encode g.template)]

instance : OfDocument Gateway where
  decode form d := do
    let fields ← Fields.ofDocument form
      ["name", "sink", "source", "control_domain", "registration", "template"] d
    return { name := ← fields.required "name"
             sink := ← fields.required "sink"
             source := ← fields.required "source"
             controlDomain := ← fields.required "control_domain"
             registration := ← fields.withDefault "registration" .domain
             template := ← fields.withDefault "template" false }

instance : ToDocument DeclaredClass where
  encode c :=
    .object [("name", encode c.name), ("priority", encode c.priority),
      ("template", encode c.template)]

instance : OfDocument DeclaredClass where
  decode form d := do
    let fields ← Fields.ofDocument form ["name", "priority", "template"] d
    return { name := ← fields.required "name"
             priority := ← fields.withDefault "priority" 0
             template := ← fields.withDefault "template" false }

/-! ## Options and configurations -/

instance : ToDocument Options where
  encode o :=
    .object [("strict_policy_lookup", encode o.strictLookup),
      ("restore_on_domain_complete", encode o.restoreOnComplete)]

instance : OfDocument Options where
  decode form d := do
    let fields ← Fields.ofDocument form ["strict_policy_lookup", "restore_on_domain_complete"] d
    return { strictLookup := ← fields.withDefault "strict_policy_lookup" false
             restoreOnComplete := ← fields.withDefault "restore_on_domain_complete" true }

instance : ToDocument Configuration where
  encode c :=
    .object [("sources", encode c.sources), ("sinks", encode c.sinks),
      ("domains", encode c.domains), ("gateways", encode c.gateways),
      ("classes", encode c.classes), ("policies", encode c.policies),
      ("system_properties", encode c.systemProperties), ("engine", encode c.options)]

instance : OfDocument Configuration where
  decode form d := do
    let fields ← Fields.ofDocument form
      ["sources", "sinks", "domains", "gateways", "classes", "policies", "system_properties",
        "engine"] d
    return { sources := ← fields.withDefault "sources" []
             sinks := ← fields.withDefault "sinks" []
             domains := ← fields.withDefault "domains" []
             gateways := ← fields.withDefault "gateways" []
             classes := ← fields.withDefault "classes" []
             policies := ← fields.withDefault "policies" []
             systemProperties := ← fields.withDefault "system_properties" []
             options := ← fields.withDefault "engine" {} }

end AudioPolicy
