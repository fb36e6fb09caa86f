-- SUMMARY: A gateway is registered with the last of its three parts, whichever that is.
import AudioPolicy.Implied
import AudioPolicy.Proofs.Lifecycle
import AudioPolicy.Proofs.Params

/-! # Registration of gateways

A gateway that the controller registers needs its control domain, its sink and its
source. They may be registered and reported in any order. The report of the last one
finds all three in the graph, so it is the one that registers the gateway, and it does
so whether it is about the domain or about an end. -/

namespace AudioPolicy

/-! ## Parts -/

namespace Gateway

/-- What a gateway needs to have registered. -/
inductive Part
  | domain | sink | source
  deriving DecidableEq, Repr

/-- The kind of element that a part is. -/
def Part.kind : Part → ElementKind
  | .domain => .domain
  | .sink => .sink
  | .source => .source

/-- The name of a part. -/
def part (g : Gateway) : Part → String
  | .domain => g.controlDomain
  | .sink => g.sink
  | .source => g.source

/-- The trigger that reports the registration of a part. -/
def arrival (g : Gateway) : Part → Trigger
  | .domain => .systemRegisterDomain g.controlDomain
  | .sink => .systemRegisterSink g.sink
  | .source => .systemRegisterSource g.source

/-- A part of the gateway is registered. -/
def HasPart (g : Gateway) (graph : Graph) (p : Part) : Prop :=
  graph.isRegistered p.kind (g.part p) = true

instance (g : Gateway) (graph : Graph) (p : Part) : Decidable (g.HasPart graph p) :=
  inferInstanceAs (Decidable (_ = _))

end Gateway

namespace Exchange

/-- If the exchange changes the graph, then no part of the gateway goes away. -/
def Keeps (e : Exchange) (g : Gateway) : Prop :=
  ∀ graph ∈ e.request.graph?, ∀ p, g.HasPart e.before.router.graph p → g.HasPart graph p

/-- The exchange reports a part of the gateway, and the part is registered. -/
def Reports (e : Exchange) (g : Gateway) (p : Gateway.Part) : Prop :=
  e.request = .process (g.arrival p) ∧ g.HasPart e.before.router.graph p

end Exchange

/-! ## The implied action -/

namespace Implied

/-- An action that registers a gateway, perhaps together with others. -/
structure Registers (action : Action) (g : Gateway) : Prop where
  kind : action.kind = .register
  domainName : action.param? Action.Key.domainName = some g.controlDomain
  listed : ∃ names : List String, g.name ∈ names ∧
    action.param? Action.Key.listGateways = some (Text.unwords names)

/-- The value of a parameter that lists names. An empty list is left out. -/
def listed? (names : List String) : Option String :=
  if names = [] then none else some (Text.unwords names)

section
variable {domain key : String} {names : List String} {lists : List (String × List String)}

/-- The pairs of a registration, the empty lists left out. -/
def registrationPairs (domain : String) (lists : List (String × List String)) :
    List (String × String) :=
  (Action.Key.domainName, domain) ::
    (lists.filter fun entry => !entry.2.isEmpty).map fun entry => (entry.1, Text.unwords entry.2)

theorem map_fst_registrationPairs :
    (registrationPairs domain lists).map Prod.fst =
      Action.Key.domainName :: (lists.filter fun entry => !entry.2.isEmpty).map Prod.fst := by
  simp [registrationPairs, Function.comp_def]

theorem nodup_registrationPairs (hkeys : (Action.Key.domainName :: lists.map Prod.fst).Nodup) :
    ((registrationPairs domain lists).map Prod.fst).Nodup := by
  rw [map_fst_registrationPairs]
  exact hkeys.sublist ((List.filter_sublist.map _).cons_cons _)

theorem param?_registration_domainName
    (hkeys : (Action.Key.domainName :: lists.map Prod.fst).Nodup) :
    (registration domain lists).param? Action.Key.domainName = some domain :=
  Action.param?_ofPairs_of_mem .register (nodup_registrationPairs hkeys) List.mem_cons_self

theorem param?_registration (hkeys : (Action.Key.domainName :: lists.map Prod.fst).Nodup)
    (hmem : (key, names) ∈ lists) : (registration domain lists).param? key = listed? names := by
  cases names with
  | nil =>
    -- The key has no other list, so nothing stands under it.
    refine Action.param?_ofPairs_eq_none .register ?_
    change key ∉ (registrationPairs domain lists).map Prod.fst
    rw [map_fst_registrationPairs, List.mem_cons, not_or]
    obtain ⟨hdomain, hlists⟩ := List.nodup_cons.1 hkeys
    refine ⟨fun heq => hdomain (heq ▸ List.mem_map_of_mem hmem), fun hkept => ?_⟩
    obtain ⟨entry, hentry, heq⟩ := List.mem_map.1 hkept
    obtain ⟨hlisted, hnonempty⟩ := List.mem_filter.1 hentry
    obtain rfl := List.inj_on_of_nodup_map hlists hlisted hmem heq
    simp at hnonempty
  | cons first names =>
    have hkept : (key, first :: names) ∈ lists.filter fun entry => !entry.2.isEmpty :=
      List.mem_filter.2 ⟨hmem, rfl⟩
    exact Action.param?_ofPairs_of_mem .register (nodup_registrationPairs hkeys)
      (List.mem_cons_of_mem _ (List.mem_map.2 ⟨_, hkept, rfl⟩))

theorem param?_registration_eq_none (h : key ∉ Action.Key.domainName :: lists.map Prod.fst) :
    (registration domain lists).param? key = none := by
  refine Action.param?_ofPairs_eq_none .register fun hmem => h ?_
  change key ∈ (registrationPairs domain lists).map Prod.fst at hmem
  rw [map_fst_registrationPairs] at hmem
  exact ((List.filter_sublist.map _).cons_cons _).mem hmem

end

theorem registration_registers {g : Gateway} {lists : List (String × List String)}
    {names : List String} (hkeys : (Action.Key.domainName :: lists.map Prod.fst).Nodup)
    (hmem : (Action.Key.listGateways, names) ∈ lists) (hname : g.name ∈ names) :
    Registers (registration g.controlDomain lists) g := by
  refine ⟨rfl, param?_registration_domainName hkeys, names, hname, ?_⟩
  rw [param?_registration hkeys hmem, listed?, if_neg (List.ne_nil_of_mem hname)]

theorem mem_pending_iff {graph : Graph} {kind : ElementKind} {names : List String}
    {name : String} :
    name ∈ pending graph kind names ↔ name ∈ names ∧ graph.isRegistered kind name = false := by
  rw [pending, mem_sorted, List.mem_filter, Bool.not_eq_true']

/-- A domain that arrives registers the gateways that have both ends. -/
theorem registerForDomain_registers {store : Store} {graph : Graph} {g : Gateway}
    (hg : g ∈ store.gateways) (hcontroller : g.registration = .controller)
    (hsink : graph.isRegistered .sink g.sink = true)
    (hsource : graph.isRegistered .source g.source = true)
    (hgateway : graph.isRegistered .gateway g.name = false) :
    ∃ action ∈ registerForDomain store graph g.controlDomain, Registers action g := by
  unfold registerForDomain
  extract_lets sinks sources complete gateways
  have hcomplete : complete g = true := by simp [complete, hcontroller, hsink, hsource]
  have hname : g.name ∈ gateways :=
    mem_pending_iff.2 ⟨List.mem_map_of_mem (List.mem_filter.2 ⟨hg, hcomplete⟩), hgateway⟩
  have hnonempty : ¬ (sinks.isEmpty && sources.isEmpty && gateways.isEmpty) = true := by
    simp [List.ne_nil_of_mem hname]
  have hkeys : [Action.Key.domainName, Action.Key.listSinks, Action.Key.listSources,
      Action.Key.listGateways].Nodup := by decide
  rw [if_neg hnonempty]
  exact ⟨_, List.mem_singleton_self _,
    registration_registers (by exact hkeys) (by simp) hname⟩

/-- An end that arrives registers the gateways that it completes. -/
theorem registerGateways_registers {store : Store} {graph : Graph} {kind : ElementKind}
    {name : String} {g : Gateway} (hg : g ∈ store.gateways)
    (hcompleted : isCompletedBy graph kind name g = true)
    (hgateway : graph.isRegistered .gateway g.name = false) :
    ∃ action ∈ registerGateways store graph kind name, Registers action g := by
  unfold registerGateways
  extract_lets completed
  have hmem : g ∈ completed :=
    List.mem_filter.2 ⟨List.mem_filter.2 ⟨hg, hcompleted⟩, by simp [hgateway]⟩
  have hdomain : g.controlDomain ∈ sorted (completed.map (·.controlDomain)).eraseDups :=
    mem_sorted.2 (List.mem_eraseDups.2 (List.mem_map_of_mem hmem))
  have hkeys : [Action.Key.domainName, Action.Key.listGateways].Nodup := by decide
  refine ⟨_, List.mem_map_of_mem hdomain, ?_⟩
  refine registration_registers (by exact hkeys) (List.mem_singleton_self _) (mem_sorted.2 ?_)
  exact List.mem_map_of_mem (List.mem_filter.2 ⟨hmem, beq_self_eq_true _⟩)

/-- Once all parts are registered, each of their reports registers the gateway. -/
theorem arrival_registers {store : Store} {graph : Graph} {g : Gateway}
    (hg : g ∈ store.gateways) (hcontroller : g.registration = .controller)
    (hparts : ∀ p, g.HasPart graph p) (hgateway : graph.isRegistered .gateway g.name = false)
    (p : Gateway.Part) : ∃ action ∈ actions store graph (g.arrival p), Registers action g := by
  have hdomain : graph.isRegistered .domain g.controlDomain = true := hparts .domain
  have hsink : graph.isRegistered .sink g.sink = true := hparts .sink
  have hsource : graph.isRegistered .source g.source = true := hparts .source
  cases p with
  | domain => exact registerForDomain_registers hg hcontroller hsink hsource hgateway
  | sink =>
    refine registerGateways_registers hg ?_ hgateway
    simp [isCompletedBy, hcontroller, hdomain, hsource]
  | source =>
    refine registerGateways_registers hg ?_ hgateway
    simp [isCompletedBy, hcontroller, hdomain, hsink]

end Implied

/-! ## Runs -/

namespace Session

variable {s : Session} {requests : List Request} {g : Gateway} {p : Gateway.Part}

theorem hasPart_serve {request : Request} {result : Except Error Unit}
    (hkeeps : Exchange.Keeps { request, before := s, result } g)
    (h : g.HasPart s.router.graph p) :
    g.HasPart (s.serve request).value.2.router.graph p := by
  rw [graph_serve]
  cases hgraph : request.graph? with
  | none => exact h
  | some graph => exact hkeeps graph hgraph p h

/-- A registered part stays registered. -/
theorem hasPart_after (hkeeps : ∀ e ∈ s.exchanges requests, e.Keeps g)
    (h : g.HasPart s.router.graph p) : g.HasPart (s.after requests).router.graph p := by
  induction requests generalizing s with
  | nil => exact h
  | cons request requests ih =>
    rw [exchanges_cons, List.forall_mem_cons] at hkeeps
    exact ih hkeeps.2 (hasPart_serve hkeeps.1 h)

/-- A part that an exchange found registered is still there at the end. -/
theorem hasPart_after_of_mem (hkeeps : ∀ e ∈ s.exchanges requests, e.Keeps g) {e : Exchange}
    (he : e ∈ s.exchanges requests) (h : g.HasPart e.before.router.graph p) :
    g.HasPart (s.after requests).router.graph p := by
  induction requests generalizing s with
  | nil => exact absurd he List.not_mem_nil
  | cons request requests ih =>
    rcases List.mem_cons.1 he with rfl | he
    · exact hasPart_after hkeeps h
    · rw [exchanges_cons, List.forall_mem_cons] at hkeeps
      exact ih hkeeps.2 he

/-- Where all parts of a gateway have been reported and stayed, the last report registers
    the gateway if it is not registered yet. -/
theorem last_arrival_registers {last : Gateway.Part} (hg : g ∈ s.engine.store.gateways)
    (hcontroller : g.registration = .controller)
    (hkeeps : ∀ e ∈ s.exchanges requests, e.Keeps g)
    (hreported : ∀ p, ∃ e ∈ s.exchanges (requests ++ [.process (g.arrival last)]),
      e.Reports g p) :
    let s' := s.after requests
    s'.router.graph.isRegistered .gateway g.name = true ∨
      ∃ action ∈ Implied.actions s'.engine.store s'.router.graph (g.arrival last),
        Implied.Registers action g := by
  intro s'
  have hparts : ∀ p, g.HasPart s'.router.graph p := by
    intro p
    obtain ⟨e, he, -, hpart⟩ := hreported p
    rw [exchanges_append, List.mem_append] at he
    rcases he with he | he
    · exact hasPart_after_of_mem hkeeps he hpart
    · -- The last report is about the session as it is now.
      rw [exchanges_cons, exchanges_nil, List.mem_singleton] at he
      rwa [he] at hpart
  rcases Bool.eq_false_or_eq_true (s'.router.graph.isRegistered .gateway g.name) with
    hgateway | hgateway
  · exact Or.inl hgateway
  · rw [← store_after s requests] at hg
    exact Or.inr (Implied.arrival_registers hg hcontroller hparts hgateway last)

/-- The sink is registered first and reported last. Other triggers come in between. -/
theorem last_arrival_registers_of_late_sink :
    let g : Gateway :=
      { name := "Bridge", sink := "In", source := "Out", controlDomain := "Cabin",
        registration := .controller }
    let s := fresh (.loaded { gateways := [g] } rfl) {}
    let first : Graph := { sinks := [{ name := "In" }] }
    let second : Graph := { first with domains := [{ name := "Cabin" }] }
    let third : Graph := { second with sources := [{ name := "Out" }] }
    let requests : List Request :=
      [.start, .change first, .process (.systemRegisterSource "Out"), .change second,
       .process (.systemRegisterDomain "Cabin"), .change third,
       .process (.systemRegisterSource "Out"), .process (.systemRegisterSink "Other")]
    let s' := s.after requests
    g ∈ s.engine.store.gateways ∧ g.registration = .controller ∧
      (∀ e ∈ s.exchanges requests, e.Keeps g) ∧
      (∀ p, ∃ e ∈ s.exchanges (requests ++ [.process (g.arrival .sink)]), e.Reports g p) ∧
      (s'.router.graph.isRegistered .gateway g.name = true ∨
        ∃ action ∈ Implied.actions s'.engine.store s'.router.graph (g.arrival .sink),
          Implied.Registers action g) := by
  intro g s first second third requests s'
  have hg : g ∈ s.engine.store.gateways := by decide
  have hkeeps : ∀ e ∈ s.exchanges requests, e.Keeps g := by
    have hgrows : (∀ p, g.HasPart s.router.graph p → g.HasPart first p) ∧
        (∀ p, g.HasPart first p → g.HasPart second p) ∧
        ∀ p, g.HasPart second p → g.HasPart third p := by
      refine ⟨?_, ?_, ?_⟩ <;> intro p <;> cases p <;> decide
    simpa [requests, Exchange.Keeps, graph_serve, Request.graph?] using hgrows
  have hreported : ∀ p, ∃ e ∈ s.exchanges (requests ++ [.process (g.arrival .sink)]),
      e.Reports g p := by
    intro p
    have hmet : (Trigger.systemRegisterSource "Out" = g.arrival p ∧ g.HasPart first p) ∨
        (Trigger.systemRegisterDomain "Cabin" = g.arrival p ∧ g.HasPart second p) ∨
        (Trigger.systemRegisterSource "Out" = g.arrival p ∧ g.HasPart third p) ∨
        (Trigger.systemRegisterSink "Other" = g.arrival p ∧ g.HasPart third p) ∨
        g.arrival .sink = g.arrival p ∧ g.HasPart third p := by
      cases p <;> decide
    simpa [requests, Exchange.Reports, graph_serve, Request.graph?] using hmet
  exact ⟨hg, rfl, hkeeps, hreported, last_arrival_registers hg rfl hkeeps hreported⟩

end Session
end AudioPolicy
