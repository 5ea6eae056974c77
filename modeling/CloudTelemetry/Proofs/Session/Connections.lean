import CloudTelemetry.Proofs.Session.Takings

/-!
# Connections of an `init`

The setup of a signal connects exactly where everything is there that it needs (`CanConnect`), and
what comes before and after tells of no connection. Whether a provider can be built on a connection
depends on the project, and for the meters on the rest of their configuration (`Builds`).
-/

namespace CloudTelemetry

/-! ### Events -/

/-- No connection comes about. -/
abbrev Setup.Quiet {α : Type} (r : Setup α) : Prop :=
  r.Tells fun event => ∀ signal, event ≠ .connected signal

namespace Setup

variable {α β : Type} {signal : Signal}

theorem quiet_ofLogging (r : Report LogEntry α) : (ofLogging r).Quiet := by
  refine Report.tells_mapEvents ?_ r
  exact fun _ _ => nofun

theorem quiet_log (entry : LogEntry) : (log entry).Quiet := Report.tells_tell nofun

theorem quiet_log_pure (entry : LogEntry) (a : α) : Quiet (do log entry; return a) :=
  (quiet_log entry).bind fun _ => Report.tells_pure _

theorem Quiet.not_mem {r : Setup α} (h : r.Quiet) : .connected signal ∉ r.events :=
  fun told => h _ told signal rfl

/-- What comes after all connections does not count. -/
theorem connected_mem_bind_iff {r : Setup α} {f : α → Setup β} (quiet : ∀ a, (f a).Quiet) :
    .connected signal ∈ (r >>= f).events ↔ .connected signal ∈ r.events := by
  refine Report.mem_events_bind.trans (or_iff_left ?_)
  rintro ⟨a, -, told⟩
  exact (quiet a).not_mem told

theorem Quiet.connected_mem_bind_iff {r : Setup α} {f : α → Setup β} (quiet : r.Quiet) :
    .connected signal ∈ (r >>= f).events ↔
      ∃ a, r.outcome = .ok a ∧ .connected signal ∈ (f a).events :=
  Report.mem_events_bind.trans (or_iff_right quiet.not_mem)

/-- A connection of the signal comes about exactly if the setup succeeds. -/
def Connecting (signal : Signal) (r : Setup α) : Prop :=
  ∀ other, .connected other ∈ r.events ↔ other = signal ∧ ∃ a, r.outcome = .ok a

theorem Connecting.after {r : Setup α} {f : α → Setup β} (quiet : r.Quiet)
    (h : ∀ a, (f a).Connecting signal) : (r >>= f).Connecting signal := by
  intro other
  rw [quiet.connected_mem_bind_iff, Report.outcome_bind]
  simp only [bind_eq_ok_iff, h _ other]
  constructor
  · rintro ⟨a, ha, rfl, b, hb⟩
    exact ⟨rfl, b, a, ha, hb⟩
  · rintro ⟨rfl, b, a, ha, hb⟩
    exact ⟨a, ha, rfl, b, hb⟩

end Setup

theorem ConfigSource.quiet_resolve (s : Surroundings) (source : ConfigSource) :
    (source.resolve s).Quiet := by
  cases source with
  | given => exact Report.tells_pure _
  | file => exact Setup.quiet_ofLogging _
  | environment =>
    unfold resolve
    dsimp only
    split
    · exact Report.tells_fail _
    · exact Report.tells_fail _
    · exact Setup.quiet_ofLogging _

/-! ### Connections -/

namespace Config

section
variable {config : Config} {cloud : Cloud} {signal other : Signal}

def CanConnect (config : Config) (cloud : Cloud) : Prop :=
  ∃ project, config.Connects cloud project

theorem canConnect_iff : config.CanConnect cloud ↔
    ∃ connection, (config.connect cloud signal).outcome = .ok connection := by
  constructor
  · rintro ⟨project, connects⟩
    exact ⟨(project, ⟨config.deadline, true⟩), outcome_connect_iff.2 ⟨connects, rfl⟩⟩
  · rintro ⟨⟨project, client⟩, connected⟩
    exact ⟨project, (outcome_connect_iff.1 connected).1⟩

theorem quiet_resolveProject : (config.resolveProject cloud).Quiet := by
  refine Report.Tells.bind ?_ fun detected => ?_
  · refine (Report.tells_tell nofun).bind fun _ => ?_
    split
    · exact Report.tells_pure _
    · split <;> exact Report.tells_fail _
  · dsimp only
    split
    · exact (Setup.quiet_log _).bind fun _ => Report.tells_pure _
    · exact Report.tells_fail _

theorem connecting_connect (config : Config) (cloud : Cloud) (signal : Signal) :
    (config.connect cloud signal).Connecting signal := by
  refine .after (Report.tells_ofExcept _) fun _ => .after quiet_resolveProject fun project => ?_
  refine .after (Report.tells_tell nofun) fun _ => ?_
  intro other
  cases cloud.connection with
  | error => exact iff_of_false nofun fun h => nomatch h.2
  | ok =>
    constructor
    · intro told
      cases List.mem_singleton.1 told
      exact ⟨rfl, _, rfl⟩
    · rintro ⟨rfl, -⟩
      exact List.mem_singleton.2 rfl

theorem connected_mem_connect_iff : .connected other ∈ (config.connect cloud signal).events ↔
    other = signal ∧ config.CanConnect cloud := by
  rw [connecting_connect config cloud signal other, canConnect_iff]

theorem connected_mem_tryConnect_iff :
    .connected other ∈ (config.tryConnect cloud signal).events ↔
      other = signal ∧ config.CanConnect cloud := by
  unfold tryConnect
  rw [Report.mem_events_recover, Report.mem_events_map, connected_mem_connect_iff]
  refine or_iff_left ?_
  rintro ⟨cause, -, told⟩
  split at told
  · cases told
  · exact Setup.Quiet.not_mem (Setup.quiet_log_pure _ _) told

theorem connected_mem_metricEquipment_iff :
    .connected other ∈ (config.metricEquipment cloud).events ↔
      other = .metrics ∧ config.CanConnect cloud := by
  rw [← connected_mem_tryConnect_iff]
  refine Setup.connected_mem_bind_iff fun connection => ?_
  split
  · exact Report.tells_pure _
  · refine (Setup.quiet_log _).bind fun _ => (Report.tells_ofExcept _).bind fun exporter => ?_
    exact (Report.tells_ofExcept _).bind fun cache => Report.tells_pure _

theorem connected_mem_spanEquipment_iff :
    .connected other ∈ (config.spanEquipment cloud).events ↔
      other = .trace ∧ config.CanConnect cloud := by
  rw [← connected_mem_tryConnect_iff]
  refine Setup.connected_mem_bind_iff fun connection => ?_
  split
  · exact Report.tells_pure _
  · exact (Setup.quiet_log _).bind fun _ => (Report.tells_ofExcept _).bind fun _ =>
      Report.tells_pure _

theorem connected_mem_meterProvider_iff :
    .connected other ∈ (config.meterProvider cloud).events ↔
      other = .metrics ∧ config.metrics.enabled = true ∧ config.CanConnect cloud := by
  unfold meterProvider
  split
  · rename_i enabled
    rw [Setup.connected_mem_bind_iff fun equipment => ?_, connected_mem_metricEquipment_iff]
    · simp only [enabled, true_and]
    · refine (Report.tells_ofExcept _).bind fun interval =>
        (Report.tells_ofExcept _).bind fun _ => ?_
      exact (Report.tells_ofExcept _).bind fun _ => Report.tells_pure _
  · rename_i disabled
    refine iff_of_false ?_ fun h => disabled h.2.1
    exact Setup.Quiet.not_mem (Setup.quiet_log_pure _ _)

theorem connected_mem_tracerProvider_iff :
    .connected other ∈ (config.tracerProvider cloud).events ↔
      other = .trace ∧ config.trace.enabled = true ∧ config.CanConnect cloud := by
  unfold tracerProvider
  split
  · rename_i enabled
    rw [Setup.connected_mem_bind_iff fun equipment => Report.tells_pure _,
      connected_mem_spanEquipment_iff]
    simp only [enabled, true_and]
  · rename_i disabled
    refine iff_of_false ?_ fun h => disabled h.2.1
    exact Setup.Quiet.not_mem (Setup.quiet_log_pure _ _)

end

end Config

/-! ### What is built on a connection -/

theorem meetsDefects_times (count : Nat) (v : Value) : MeetsDefects (v.times count) := by
  cases v with
  | bool | int | float | text | bytes | list | tuple => exact .ok _
  | null | broken | moment | set | map | enclosing =>
    rintro cause ⟨⟩
    exact ⟨_, rfl⟩

namespace Config

/-- The SDK accepts the times of the reader of metrics. -/
def Timed (config : Config) (sdk : Sdk) : Prop :=
  ∃ interval, config.metrics.interval.times millisPerSecond = .ok interval ∧
    ∃ timeout, config.deadline.times millisPerSecond = .ok timeout ∧
      sdk.checkReader interval timeout = .ok ()

/-- The provider of a signal can be built on a connection to the project. -/
def Builds (config : Config) (sdk : Sdk) (project : Value) : Signal → Prop
  | .metrics => project.isWritable = true ∧ config.metrics.Usable ∧ config.Timed sdk
  | .trace => project.isWritable = true

section
variable {config : Config} {cloud : Cloud} {project : Value}

theorem reads_reader (config : Config) (sdk : Sdk) (provider : Value → Value → MeterProvider) :
    Reads (config.Timed sdk)
      (fun meter => ∃ interval timeout, meter = some (provider interval timeout))
      (do
        let interval ← config.metrics.interval.times millisPerSecond
        let timeout ← config.deadline.times millisPerSecond
        raise (sdk.checkReader interval timeout)
        return some (provider interval timeout)) := by
  refine (MeetsDefects.reads ?_).imp ⟨?_, ?_⟩ fun meter made => ?_
  · exact (meetsDefects_times _ _).bind fun interval => (meetsDefects_times _ _).bind fun timeout =>
      (meetsDefects_raise _).bind fun _ => .ok _
  · rintro ⟨meter, made⟩
    obtain ⟨interval, hi, made⟩ := bind_eq_ok made
    obtain ⟨timeout, ht, made⟩ := bind_eq_ok made
    obtain ⟨⟨⟩, passed, -⟩ := bind_eq_ok made
    exact ⟨interval, hi, timeout, ht, raise_eq_ok_iff.1 passed⟩
  · rintro ⟨interval, hi, timeout, ht, passed⟩
    rw [hi, ht]
    refine ⟨some (provider interval timeout), ?_⟩
    show raise _ >>= _ = _
    rw [raise_eq_ok_iff.2 passed]
    rfl
  · obtain ⟨interval, -, made⟩ := bind_eq_ok made
    obtain ⟨timeout, -, made⟩ := bind_eq_ok made
    obtain ⟨⟨⟩, -, made⟩ := bind_eq_ok made
    exact ⟨interval, timeout, (Except.ok.inj made).symm⟩

theorem reads_meterProvider (enabled : config.metrics.enabled = true)
    (connects : config.Connects cloud project) :
    Reads (config.Builds cloud.sdk project .metrics)
      (fun meter => ∃ provider, meter = some provider ∧ provider.equipment.isConnected = true)
      (config.meterProvider cloud).outcome := by
  have same : config.Builds cloud.sdk project .metrics ↔
      (project.isWritable = true ∧ config.metrics.Usable) ∧ config.Timed cloud.sdk :=
    and_assoc.symm
  have connected : (config.connect cloud .metrics).outcome = .ok (project, _) :=
    outcome_connect_iff.2 ⟨connects, rfl⟩
  unfold meterProvider
  rw [if_pos enabled, same]
  simp only [Report.outcome_bind, Report.outcome_ofExcept, Report.outcome_pure]
  refine ((config.equips_metricEquipment cloud).connected _ _ connected).bind fun equipped made => ?_
  obtain ⟨equipment, rfl, -⟩ := made
  refine (config.reads_reader cloud.sdk _).imp Iff.rfl ?_
  rintro _ ⟨interval, timeout, rfl⟩
  exact ⟨_, rfl, rfl⟩

theorem reads_tracerProvider (enabled : config.trace.enabled = true)
    (connects : config.Connects cloud project) :
    Reads (config.Builds cloud.sdk project .trace)
      (fun tracer => ∃ provider, tracer = some provider ∧ provider.equipment.isConnected = true)
      (config.tracerProvider cloud).outcome := by
  have connected : (config.connect cloud .trace).outcome = .ok (project, _) :=
    outcome_connect_iff.2 ⟨connects, rfl⟩
  unfold tracerProvider
  rw [if_pos enabled, Report.outcome_bind]
  refine ((config.equips_spanEquipment cloud).connected _ _ connected).bind_pure fun _ made => ?_
  obtain ⟨exporter, rfl, -⟩ := made
  exact ⟨_, rfl, rfl⟩

end

end Config

end CloudTelemetry
