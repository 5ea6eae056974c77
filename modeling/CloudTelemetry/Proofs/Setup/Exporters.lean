import CloudTelemetry.Proofs.Config.Modes
import CloudTelemetry.Proofs.Config.Options
import CloudTelemetry.Setup.Exporters

/-!
# What setting up an exporter comes to

A setup is promised to end well: strictly with an exporter or an error of configuration, permissively
with an exporter or a stand-in. Until there is a connection it does so. The exporter is built on the
connection afterwards, and what goes wrong there is passed on as it is: the project may have no
written form, and for metrics the prefix may be no text or the strategy unknown
(`equipment_promised`). A configuration that has been read names a strategy that is known; its
project and its prefix may be anything.
-/

namespace CloudTelemetry

def Value.IsText : Value → Prop
  | .text _ | .broken _ => True
  | _ => False

structure MetricsConfig.Usable (metrics : MetricsConfig) : Prop where
  typePrefix : metrics.typePrefix.IsText
  strategy : ∃ strategy : Strategy, metrics.strategy = strategy.name

namespace Config

/-- How a setup may end. -/
inductive Promised (config : Config) {α : Type} : Except Failure (Equipped α) → Prop
  | exporter (e : α) : Promised config (.ok (.exporter e))
  | standin (s : Standin) (permissive : config.isStrict = false) :
    Promised config (.ok (.standin s))
  | refused (cause : Misconfiguration) (strict : config.isStrict = true) :
    Promised config (.error (.configuration cause))

/-- The project is the configured one, or if there is none that of the credentials. -/
def Targets (config : Config) (cloud : Cloud) (project : String) : Prop :=
  ∃ detected, cloud.credentials config.credentialSource = .ok detected ∧
    project = (if config.project.isPresent then config.project else detected).shown

/-- All that an exporter needs to reach the cloud is there. -/
structure Connects (config : Config) (cloud : Cloud) (project : Value) : Prop where
  deadline : deadlineProblem? config.deadline = .ok none
  found : ∃ detected, cloud.credentials config.credentialSource = .ok detected ∧
    project = config.project.orElse detected
  present : project.isPresent = true
  connection : cloud.connection = .ok ()

section
variable {config : Config} {cloud : Cloud} {signal : Signal}

/-! ### Connections -/

theorem outcome_detectProject_iff {project : Value} :
    (detectProject cloud config.credentialSource).outcome = .ok project ↔
      cloud.credentials config.credentialSource = .ok project := by
  unfold detectProject
  rw [Report.outcome_bind, Report.outcome_tell]
  constructor
  · intro h
    change Report.outcome _ = _ at h
    split at h
    · obtain rfl := Except.ok.inj h
      assumption
    · split at h <;> cases h
  · intro h
    rw [h]
    rfl

theorem outcome_resolveProject_iff {project : Value} :
    (config.resolveProject cloud).outcome = .ok project ↔
      (∃ detected, cloud.credentials config.credentialSource = .ok detected ∧
        project = config.project.orElse detected) ∧ project.isPresent = true := by
  unfold resolveProject
  rw [Report.outcome_bind, bind_eq_ok_iff]
  simp only [outcome_detectProject_iff]
  constructor
  · rintro ⟨detected, found, h⟩
    split at h
    · rename_i present
      cases h
      exact ⟨⟨detected, found, rfl⟩, present⟩
    · cases h
  · rintro ⟨⟨detected, found, rfl⟩, present⟩
    refine ⟨detected, found, ?_⟩
    rw [if_pos present]
    rfl

theorem checkDeadline_iff {deadline : Value} {u : Unit} :
    checkDeadline deadline = .ok u ↔ deadlineProblem? deadline = .ok none := by
  unfold checkDeadline
  rcases deadlineProblem? deadline with cause | (_ | problem)
  · exact ⟨nofun, nofun⟩
  · exact ⟨fun _ => rfl, fun _ => rfl⟩
  · exact ⟨nofun, nofun⟩

theorem outcome_connect_iff {project : Value} {client : Client} :
    (config.connect cloud signal).outcome = .ok (project, client) ↔
      config.Connects cloud project ∧ client = ⟨config.deadline, true⟩ := by
  unfold connect
  simp only [Report.outcome_bind, Report.outcome_ofExcept, Report.outcome_tell, bind_eq_ok_iff,
    checkDeadline_iff, outcome_resolveProject_iff]
  constructor
  · rintro ⟨⟨⟩, deadline, found, ⟨ways, present⟩, ⟨⟩, -, h⟩
    cases connection : cloud.connection with
    | error => rw [connection] at h; cases h
    | ok =>
      rw [connection] at h
      change Except.ok (_, Client.mk config.deadline true) = _ at h
      cases h
      exact ⟨⟨deadline, ways, present, connection⟩, rfl⟩
  · rintro ⟨connects, rfl⟩
    refine ⟨(), connects.deadline, project, ⟨connects.found, connects.present⟩, (), trivial, ?_⟩
    rw [connects.connection]
    rfl

theorem exists_setupFailure (signal : Signal) (cause : Failure) :
    ∃ wrong, setupFailure signal cause = .configuration wrong := by
  unfold setupFailure
  split
  · cases cause with
    | configuration wrong => exact ⟨wrong, rfl⟩
    | unsendable | registration | transport | incident | defect => contradiction
  · exact ⟨_, rfl⟩

theorem outcome_of_unconnected {α : Type} {use : Option (Value × Client) → Setup (Equipped α)}
    (replaced : (use none).outcome = .ok (.standin .initial)) {cause : Failure}
    (h : (config.connect cloud signal).outcome = .error cause) :
    (config.tryConnect cloud signal >>= use).outcome =
      if config.isStrict then .error (setupFailure signal cause) else .ok (.standin .initial) := by
  have failed : (some <$> config.connect cloud signal).outcome = .error cause := by
    rw [Report.outcome_map, h]
    rfl
  rw [Report.outcome_bind, tryConnect, Report.outcome_recover_of_error _ failed]
  split
  · rfl
  · exact replaced

theorem outcome_tryConnect_of_ok {connection : Value × Client}
    (h : (config.connect cloud signal).outcome = .ok connection) :
    (config.tryConnect cloud signal).outcome = .ok (some connection) := by
  refine Report.outcome_recover_of_ok _ ?_
  rw [Report.outcome_map, h]
  rfl

theorem promised_of_unconnected {α : Type} (config : Config) (signal : Signal) (cause : Failure) :
    config.Promised (if config.isStrict then .error (setupFailure signal cause)
      else .ok (.standin .initial) : Except Failure (Equipped α)) := by
  split
  · obtain ⟨wrong, same⟩ := exists_setupFailure signal cause
    rw [same]
    exact .refused wrong ‹_›
  · exact .standin _ (Bool.eq_false_iff.2 ‹_›)

theorem Connects.targets {project : Value} (h : config.Connects cloud project) :
    config.Targets cloud project.shown := by
  obtain ⟨detected, found, rfl⟩ := h.found
  exact ⟨detected, found, rfl⟩

/-! ### What is built on a connection -/

/-- An exporter is set up in two steps: what fails up to the connection is dealt with, and on the
connection the exporter is built, which may fail as well. -/
structure Equips {α : Type} (config : Config) (cloud : Cloud) (signal : Signal)
    (buildable : Value → Prop) (target : α → String) (equipped : Except Failure (Equipped α)) :
    Prop where
  unconnected : ∀ cause, (config.connect cloud signal).outcome = .error cause →
    equipped = if config.isStrict then .error (setupFailure signal cause)
      else .ok (.standin .initial)
  connected : ∀ project client, (config.connect cloud signal).outcome = .ok (project, client) →
    Reads (buildable project) (fun e => ∃ exporter, e = .exporter exporter ∧
      target exporter = project.shown) equipped

section
variable {α : Type} {buildable : Value → Prop} {target : α → String}
  {equipped : Except Failure (Equipped α)}

theorem Equips.promised_iff (h : config.Equips cloud signal buildable target equipped) :
    config.Promised equipped ↔ ∀ project, config.Connects cloud project → buildable project := by
  cases connected : (config.connect cloud signal).outcome with
  | error cause =>
    rw [h.unconnected cause connected]
    refine iff_of_true (promised_of_unconnected config signal cause) fun project connects => ?_
    rw [outcome_connect_iff.2 ⟨connects, rfl⟩] at connected
    cases connected
  | ok connection =>
    obtain ⟨project, client⟩ := connection
    cases h.connected project client connected with
    | holds yes built =>
      obtain ⟨exporter, rfl, -⟩ := built
      refine iff_of_true (.exporter exporter) fun other connects => ?_
      rw [outcome_connect_iff.2 ⟨connects, rfl⟩] at connected
      cases connected
      exact yes
    | fails no defect =>
      obtain ⟨d, rfl⟩ := defect
      exact iff_of_false nofun fun all => no (all project (outcome_connect_iff.1 connected).1)

theorem Equips.targets (h : config.Equips cloud signal buildable target equipped) {e : α}
    (made : equipped = .ok (.exporter e)) : config.Targets cloud (target e) := by
  cases connected : (config.connect cloud signal).outcome with
  | error cause =>
    rw [h.unconnected cause connected] at made
    split at made <;> cases made
  | ok connection =>
    obtain ⟨project, client⟩ := connection
    obtain ⟨exporter, same, own⟩ := (h.connected project client connected).kind_of_ok made
    cases same
    rw [own]
    exact (outcome_connect_iff.1 connected).1.targets

end

theorem reads_inText (v : Value) : Reads (v.isWritable = true) (· = v.shown) v.inText :=
  (v.ends_inText).weaken fun _ _ failed => ⟨_, failed⟩

theorem reads_newTarget (project : String) (typePrefix : Value) :
    Reads typePrefix.IsText (fun target => target.project = project)
      (MetricTarget.new project typePrefix) := by
  cases typePrefix with
  | text | broken => exact .holds trivial rfl
  | null | bool | int | float | bytes | moment | list | tuple | set | map | enclosing =>
    exact .fails id ⟨_, rfl⟩

theorem reads_ofStrategy (name : String) (registered : List Identity) :
    Reads (∃ strategy : Strategy, name = strategy.name) (fun _ => True)
      (DescriptorCache.ofStrategy (.text name) registered) := by
  unfold DescriptorCache.ofStrategy
  dsimp only
  cases known : Strategy.ofName? name with
  | some strategy => exact .holds ⟨strategy, Strategy.ofName?_eq_some_iff.1 known⟩ trivial
  | none =>
    refine .fails ?_ ⟨_, rfl⟩
    rintro ⟨strategy, named⟩
    rw [Strategy.ofName?_eq_some_iff.2 named] at known
    cases known

theorem reads_newSpanExporter (project : Value) (agent : Agent) (client : Client) :
    Reads (project.isWritable = true) (fun e => e.target.project = project.shown)
      (SpanExporter.new project agent client) :=
  (reads_inText project).bind_pure fun _ own => own

theorem reads_newMetricExporter (project typePrefix : Value) (client : Client) :
    Reads (project.isWritable = true ∧ typePrefix.IsText)
      (fun e => e.target.project = project.shown)
      (MetricExporter.new project typePrefix client) := by
  refine (reads_inText project).bind fun shown own => ?_
  subst own
  exact (reads_newTarget _ _).bind_pure fun _ own => own

theorem outcome_spanEquipment_of_ok {project : Value} {client : Client}
    (h : (config.connect cloud .trace).outcome = .ok (project, client)) :
    (config.spanEquipment cloud).outcome =
      (do return .exporter (← SpanExporter.new project cloud.sdk.agent client)) := by
  unfold spanEquipment
  rw [Report.outcome_bind, outcome_tryConnect_of_ok h]
  show Report.outcome (_ >>= _) = _
  simp only [Report.outcome_bind, Setup.outcome_log, Report.outcome_ofExcept, Report.outcome_pure]
  rfl

theorem outcome_metricEquipment_of_ok {project : Value} {client : Client}
    (h : (config.connect cloud .metrics).outcome = .ok (project, client)) :
    (config.metricEquipment cloud).outcome = (do
      let exporter ← MetricExporter.new project config.metrics.typePrefix client
      let cache ← DescriptorCache.ofStrategy (.text config.metrics.strategy) []
      return .exporter ⟨exporter, cache⟩) := by
  unfold metricEquipment
  rw [Report.outcome_bind, outcome_tryConnect_of_ok h]
  show Report.outcome (_ >>= _) = _
  simp only [Report.outcome_bind, Setup.outcome_log, Report.outcome_ofExcept, Report.outcome_pure]
  rfl

theorem equips_spanEquipment (config : Config) (cloud : Cloud) :
    config.Equips cloud .trace (fun project => project.isWritable = true)
      (fun exporter : SpanExporter => exporter.target.project)
      (config.spanEquipment cloud).outcome where
  unconnected _ h := outcome_of_unconnected rfl h
  connected project client h := by
    rw [outcome_spanEquipment_of_ok h]
    exact (reads_newSpanExporter project _ client).bind_pure fun e own => ⟨e, rfl, own⟩

theorem equips_metricEquipment (config : Config) (cloud : Cloud) :
    config.Equips cloud .metrics
      (fun project => project.isWritable = true ∧ config.metrics.Usable)
      (fun equipment : MetricEquipment => equipment.exporter.target.project)
      (config.metricEquipment cloud).outcome where
  unconnected _ h := outcome_of_unconnected rfl h
  connected project client h := by
    have same : project.isWritable = true ∧ config.metrics.Usable ↔
        (project.isWritable = true ∧ config.metrics.typePrefix.IsText) ∧
          ∃ strategy : Strategy, config.metrics.strategy = strategy.name :=
      ⟨fun h => ⟨⟨h.1, h.2.typePrefix⟩, h.2.strategy⟩, fun h => ⟨h.1.1, h.1.2, h.2⟩⟩
    rw [outcome_metricEquipment_of_ok h, same]
    refine (reads_newMetricExporter project _ client).bind fun e own => ?_
    exact (reads_ofStrategy _ []).bind_pure fun cache _ => ⟨⟨e, cache⟩, rfl, own⟩

/-! ### Strategies of configurations that have been read -/

theorem exists_strategy_of_readStrategy {v : Value} {name : String}
    (h : v.readStrategy.outcome = .ok name) : ∃ strategy : Strategy, name = strategy.name := by
  unfold Value.readStrategy at h
  split at h
  · exact ⟨_, (Except.ok.inj h).symm⟩
  · rw [Report.outcome_bind] at h
    obtain ⟨⟨⟩, -, h⟩ := bind_eq_ok h
    exact ⟨_, (Except.ok.inj h).symm⟩

theorem exists_strategy_of_readMetrics {options : Options} {metrics : MetricsConfig}
    (h : (readMetrics options).outcome = .ok metrics) :
    ∃ strategy : Strategy, metrics.strategy = strategy.name := by
  unfold readMetrics at h
  simp only [Report.outcome_bind] at h
  obtain ⟨enabled, -, h⟩ := bind_eq_ok h
  obtain ⟨name, known, h⟩ := bind_eq_ok h
  obtain ⟨interval, -, h⟩ := bind_eq_ok h
  cases h
  exact exists_strategy_of_readStrategy known

theorem exists_strategy_of_read {s : Surroundings} {directory : Option Path} {mode : Mode}
    {options : Options} (h : (read s directory mode options).outcome = .ok config) :
    ∃ strategy : Strategy, config.metrics.strategy = strategy.name := by
  unfold read at h
  simp only [Report.outcome_bind] at h
  obtain ⟨service, -, h⟩ := bind_eq_ok h
  obtain ⟨trace, -, h⟩ := bind_eq_ok h
  obtain ⟨credentialsFile, -, h⟩ := bind_eq_ok h
  obtain ⟨deadline, -, h⟩ := bind_eq_ok h
  obtain ⟨below, -, h⟩ := bind_eq_ok h
  obtain ⟨metrics, known, h⟩ := bind_eq_ok h
  obtain ⟨trace, -, h⟩ := bind_eq_ok h
  cases h
  exact exists_strategy_of_readMetrics known

theorem exists_strategy_of_ofEntries {s : Surroundings} {directory : Option Path}
    {forced : Option Mode} {options : Options}
    (h : (ofEntries s directory forced options).outcome = .ok config) :
    ∃ strategy : Strategy, config.metrics.strategy = strategy.name := by
  rw [outcome_ofEntries] at h
  obtain ⟨mode, -, h⟩ := bind_eq_ok h
  rw [outcome_resume] at h
  obtain ⟨⟨⟩, -, h⟩ := bind_eq_ok h
  obtain ⟨read, known, h⟩ := bind_eq_ok h
  rw [(eq_of_checked h).1]
  exact exists_strategy_of_read known

end

namespace Sample

def sdk : Sdk := .documented ⟨"1.40.0", by decide⟩

def openCloud : Cloud := ⟨.ok (.text "found"), .ok (.text "filed"), .ok (), sdk⟩

def withoutPrefix : Options :=
  [(.text "service", .map [(.text "name", .text "checkout")]),
    (.text "metrics", .map [(.text "prefix", .null)])]

end Sample

end Config

end CloudTelemetry
