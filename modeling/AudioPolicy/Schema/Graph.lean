-- SUMMARY: The written form of properties, connections and the audio graph.
import AudioPolicy.Document.Decode
import AudioPolicy.Document.Encode
import AudioPolicy.Graph

/-! # Graph documents

The fields of properties, notifications, elements, domains, connections and graphs. Most
of them have a default and may be left out. -/

namespace AudioPolicy

/-! ## Properties and notifications -/

instance : ToDocument Availability where
  encode a := .object [("state", encode a.state), ("reason", encode a.reason)]

instance : OfDocument Availability where
  decode form d := do
    let fields ← Fields.ofDocument form ["state", "reason"] d
    return { state := ← fields.withDefault "state" .unknown
             reason := ← fields.withDefault "reason" 0 }

instance : ToDocument Property where
  encode p := .object [("type", encode p.type), ("value", encode p.value)]

instance : OfDocument Property where
  decode form d := do
    let fields ← Fields.ofDocument form ["type", "value"] d
    return { type := ← fields.required "type", value := ← fields.required "value" }

instance : ToDocument NotificationPayload where
  encode p := .object [("type", encode p.type), ("value", encode p.value)]

instance : OfDocument NotificationPayload where
  decode form d := do
    let fields ← Fields.ofDocument form ["type", "value"] d
    return { type := ← fields.required "type", value := ← fields.required "value" }

instance : ToDocument NotificationConfiguration where
  encode c :=
    .object [("type", encode c.type), ("status", encode c.status),
      ("parameter", encode c.parameter)]

instance : OfDocument NotificationConfiguration where
  decode form d := do
    let fields ← Fields.ofDocument form ["type", "status", "parameter"] d
    return { type := ← fields.required "type"
             status := ← fields.withDefault "status" .unknown
             parameter := ← fields.withDefault "parameter" 0 }

/-! ## Connections -/

instance : ToDocument Connection where
  encode c :=
    .object [("name", encode c.name), ("source", encode c.source), ("sink", encode c.sink),
      ("class", encode c.class_), ("state", encode c.state), ("priority", encode c.priority),
      ("format", encode c.format), ("route", encode c.route)]

instance : OfDocument Connection where
  decode form d := do
    let fields ← Fields.ofDocument form
      ["name", "source", "sink", "class", "state", "priority", "format", "route"] d
    return { name := ← fields.required "name"
             source := ← fields.required "source"
             sink := ← fields.required "sink"
             class_ := ← fields.withDefault "class" ""
             state := ← fields.withDefault "state" .unknown
             priority := ← fields.withDefault "priority" 0
             format := ← fields.withDefault "format" 0
             route := ← fields.withDefault "route" [] }

/-! ## Elements and domains -/

instance : ToDocument Element where
  encode e :=
    .object [("name", encode e.name), ("domain", encode e.domain), ("class", encode e.class_),
      ("availability", encode e.availability), ("volume", encode e.volume),
      ("main_volume", encode e.mainVolume), ("volume_limit", encode e.volumeLimit),
      ("mute_state", encode e.muteState), ("interrupt_state", encode e.interruptState),
      ("state", encode e.state), ("main_sound_properties", encode e.mainSoundProperties),
      ("sound_properties", encode e.soundProperties),
      ("notification_configurations", encode e.notifications),
      ("main_notification_configurations", encode e.mainNotifications)]

instance : OfDocument Element where
  decode form d := do
    let fields ← Fields.ofDocument form
      ["name", "domain", "class", "availability", "volume", "main_volume", "volume_limit",
        "mute_state", "interrupt_state", "state", "main_sound_properties", "sound_properties",
        "notification_configurations", "main_notification_configurations"] d
    return { name := ← fields.required "name"
             domain := ← fields.withDefault "domain" ""
             class_ := ← fields.withDefault "class" ""
             availability := ← fields.withDefault "availability" {}
             volume := ← fields.withDefault "volume" 0
             mainVolume := ← fields.withDefault "main_volume" 0
             volumeLimit := ← fields.withDefault "volume_limit" none
             muteState := ← fields.withDefault "mute_state" .unknown
             interruptState := ← fields.withDefault "interrupt_state" .unknown
             state := ← fields.withDefault "state" 0
             mainSoundProperties := ← fields.withDefault "main_sound_properties" []
             soundProperties := ← fields.withDefault "sound_properties" []
             notifications := ← fields.withDefault "notification_configurations" []
             mainNotifications := ← fields.withDefault "main_notification_configurations" [] }

instance : ToDocument Domain where
  encode d :=
    .object [("name", encode d.name), ("state", encode d.state),
      ("registration_complete", encode d.registrationComplete)]

instance : OfDocument Domain where
  decode form d := do
    let fields ← Fields.ofDocument form ["name", "state", "registration_complete"] d
    return { name := ← fields.required "name"
             state := ← fields.withDefault "state" 0
             registrationComplete := ← fields.withDefault "registration_complete" false }

/-! ## Graphs -/

instance : ToDocument Graph where
  encode g :=
    .object [("domains", encode g.domains), ("sinks", encode g.sinks),
      ("sources", encode g.sources), ("gateways", encode g.gateways),
      ("classes", encode g.classes), ("connections", encode g.connections),
      ("system_properties", encode g.systemProperties)]

instance : OfDocument Graph where
  decode form d := do
    let fields ← Fields.ofDocument form
      ["domains", "sinks", "sources", "gateways", "classes", "connections",
        "system_properties"] d
    return { domains := ← fields.withDefault "domains" []
             sinks := ← fields.withDefault "sinks" []
             sources := ← fields.withDefault "sources" []
             gateways := ← fields.withDefault "gateways" []
             classes := ← fields.withDefault "classes" []
             connections := ← fields.withDefault "connections" []
             systemProperties := ← fields.withDefault "system_properties" [] }

end AudioPolicy
