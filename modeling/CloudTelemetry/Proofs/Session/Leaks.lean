import CloudTelemetry.Proofs.Session.Connections

/-!
# What an `init` leaves open

An `init` makes the provider of the meters before that of the tracers, and it releases nothing. So
where making them fails, each connection that has come about by then stays open, and no provider of
the session has it (`leaks_iff`); a provider of meters that has been made stays as well. The two
signals may meet the cloud on different terms (`Terms`), and what goes around an exporter may be
impossible to build; where neither is so, a connection is left open exactly if it comes about and
what is built on it cannot be (`Strands`).
-/

namespace CloudTelemetry

/-! ### Signals on terms of their own -/

/-- What the setup of a signal meets. -/
structure Terms where
  cloud : Cloud
  /-- whether what goes around an exporter can be built -/
  parts : Except Failure Unit

namespace Terms

/-- Only the cloud can refuse anything. -/
def plain (cloud : Cloud) : Terms := ⟨cloud, .ok ()⟩

def assemble {α : Type} (terms : Terms) : Option α → Setup (Option α)
  | none => return none
  | some provider => do
    .ofExcept terms.parts
    return some provider

theorem bind_assemble_plain {α : Type} (cloud : Cloud) (r : Setup (Option α)) :
    r >>= (plain cloud).assemble = r := by
  obtain ⟨events, outcome⟩ := r
  change Report.bind _ _ = _
  unfold Report.bind
  rcases outcome with cause | (_ | provider)
  · rfl
  · exact congrArg (Report.mk · _) (List.append_nil events)
  · exact congrArg (Report.mk · _) (List.append_nil events)

theorem tells_assemble {α : Type} {P : SetupEvent → Prop} (terms : Terms) (provider : Option α) :
    (terms.assemble provider).Tells P := by
  cases provider with
  | none => exact Report.tells_pure _
  | some => exact (Report.tells_ofExcept _).bind fun _ => Report.tells_pure _

theorem eq_of_assemble {α : Type} {terms : Terms} {provider assembled : Option α}
    (h : (terms.assemble provider).outcome = .ok assembled) : assembled = provider := by
  cases provider with
  | none => exact (Except.ok.inj h).symm
  | some =>
    obtain ⟨⟨⟩, -, h⟩ := bind_eq_ok (Report.outcome_bind _ _ ▸ h)
    exact (Except.ok.inj h).symm

theorem outcome_of_assembled {α : Type} {terms : Terms} {r : Setup (Option α)} {provider : Option α}
    (h : (r >>= terms.assemble).outcome = .ok provider) : r.outcome = .ok provider := by
  rw [Report.outcome_bind] at h
  obtain ⟨made, found, h⟩ := bind_eq_ok h
  rw [eq_of_assemble h]
  exact found

end Terms

namespace Config

def meterProviderOn (config : Config) (terms : Terms) : Setup (Option MeterProvider) :=
  config.meterProvider terms.cloud >>= terms.assemble

def tracerProviderOn (config : Config) (terms : Terms) : Setup (Option TracerProvider) :=
  config.tracerProvider terms.cloud >>= terms.assemble

def providersOn (config : Config) (terms : Signal → Terms) :
    Setup (Option MeterProvider × Option TracerProvider) := do
  let meter ← config.meterProviderOn (terms .metrics)
  return (meter, ← config.tracerProviderOn (terms .trace))

def tryProvidersOn (config : Config) (terms : Signal → Terms) :
    Setup (Option (Option MeterProvider × Option TracerProvider)) :=
  (some <$> config.providersOn terms).recover fun cause =>
    if cause.isConfiguration then .fail cause
    else if config.isStrict then .fail (.configuration (.initialization cause))
    else do
      Setup.log (.initializationFailed cause)
      return none

/-- The setup of a signal gets as far as a connection. -/
def Reaches (config : Config) (terms : Signal → Terms) : Signal → Prop
  | .metrics => config.metrics.enabled = true ∧ config.CanConnect (terms .metrics).cloud
  | .trace => (∃ meter, (config.meterProviderOn (terms .metrics)).outcome = .ok meter) ∧
    config.trace.enabled = true ∧ config.CanConnect (terms .trace).cloud

theorem meterProviderOn_plain (config : Config) (cloud : Cloud) :
    config.meterProviderOn (.plain cloud) = config.meterProvider cloud :=
  Terms.bind_assemble_plain cloud _

theorem tracerProviderOn_plain (config : Config) (cloud : Cloud) :
    config.tracerProviderOn (.plain cloud) = config.tracerProvider cloud :=
  Terms.bind_assemble_plain cloud _

theorem tryProvidersOn_plain (config : Config) (cloud : Cloud) :
    (config.tryProvidersOn fun _ => .plain cloud) = config.tryProviders cloud := by
  unfold tryProvidersOn providersOn
  simp only [meterProviderOn_plain, tracerProviderOn_plain]
  rfl

section
variable {config : Config} {terms : Signal → Terms} {signal : Signal}

theorem connected_mem_providersOn_iff :
    .connected signal ∈ (config.providersOn terms).events ↔ config.Reaches terms signal := by
  have meter : .connected signal ∈ (config.meterProviderOn (terms .metrics)).events ↔ _ :=
    (Setup.connected_mem_bind_iff (terms .metrics).tells_assemble).trans
      connected_mem_meterProvider_iff
  have tracer : .connected signal ∈ (config.tracerProviderOn (terms .trace)).events ↔ _ :=
    (Setup.connected_mem_bind_iff (terms .trace).tells_assemble).trans
      connected_mem_tracerProvider_iff
  unfold providersOn
  rw [Report.mem_events_bind, meter]
  simp only [Setup.connected_mem_bind_iff fun _ => Report.tells_pure _, tracer]
  cases signal <;> simp [Reaches]

theorem connected_mem_tryProvidersOn_iff :
    .connected signal ∈ (config.tryProvidersOn terms).events ↔ config.Reaches terms signal := by
  unfold tryProvidersOn
  rw [Report.mem_events_recover, Report.mem_events_map, connected_mem_providersOn_iff]
  refine or_iff_left ?_
  rintro ⟨cause, -, told⟩
  split at told
  · cases told
  · split at told
    · cases told
    · exact Setup.Quiet.not_mem (Setup.quiet_log_pure _ _) told

theorem tryProvidersOn_cases (config : Config) (terms : Signal → Terms) :
    (∃ made, (config.providersOn terms).outcome = .ok made ∧
      (config.tryProvidersOn terms).outcome = .ok (some made)) ∨
    ∃ cause, (config.providersOn terms).outcome = .error cause ∧
      ((config.tryProvidersOn terms).outcome = .ok none ∨
        ∃ wrong, (config.tryProvidersOn terms).outcome = .error wrong) := by
  cases made : (config.providersOn terms).outcome with
  | ok providers =>
    refine .inl ⟨providers, rfl, Report.outcome_recover_of_ok _ ?_⟩
    rw [Report.outcome_map, made]
    rfl
  | error cause =>
    refine .inr ⟨cause, rfl, ?_⟩
    have failed : (some <$> config.providersOn terms).outcome = .error cause := by
      rw [Report.outcome_map, made]
      rfl
    unfold tryProvidersOn
    rw [Report.outcome_recover_of_error _ failed]
    split
    · exact .inr ⟨_, rfl⟩
    · split
      · exact .inr ⟨_, rfl⟩
      · exact .inl rfl

theorem connected_of_meterProviderOn {terms : Terms} {meter : Option MeterProvider}
    (made : (config.meterProviderOn terms).outcome = .ok meter)
    (enabled : config.metrics.enabled = true) (connects : config.CanConnect terms.cloud) :
    ∃ provider, meter = some provider ∧ provider.equipment.isConnected = true := by
  obtain ⟨project, connects⟩ := connects
  exact (reads_meterProvider enabled connects).kind_of_ok (Terms.outcome_of_assembled made)

theorem connected_of_tracerProviderOn {terms : Terms} {tracer : Option TracerProvider}
    (made : (config.tracerProviderOn terms).outcome = .ok tracer)
    (enabled : config.trace.enabled = true) (connects : config.CanConnect terms.cloud) :
    ∃ provider, tracer = some provider ∧ provider.equipment.isConnected = true := by
  obtain ⟨project, connects⟩ := connects
  exact (reads_tracerProvider enabled connects).kind_of_ok (Terms.outcome_of_assembled made)

theorem outcome_providersOn (config : Config) (terms : Signal → Terms)
    {meter : Option MeterProvider}
    (first : (config.meterProviderOn (terms .metrics)).outcome = .ok meter)
    {tracer : Except Failure (Option TracerProvider)}
    (second : (config.tracerProviderOn (terms .trace)).outcome = tracer) :
    (config.providersOn terms).outcome = tracer.map (meter, ·) := by
  unfold providersOn
  rw [Report.outcome_bind, first]
  change (config.tracerProviderOn (terms .trace) >>= _).outcome = _
  rw [Report.outcome_bind, second]
  cases tracer <;> rfl

theorem outcomes_of_providersOn {meter : Option MeterProvider} {tracer : Option TracerProvider}
    (made : (config.providersOn terms).outcome = .ok (meter, tracer)) :
    (config.meterProviderOn (terms .metrics)).outcome = .ok meter ∧
      (config.tracerProviderOn (terms .trace)).outcome = .ok tracer := by
  unfold providersOn at made
  simp only [Report.outcome_bind, Report.outcome_pure] at made
  obtain ⟨_, first, made⟩ := bind_eq_ok made
  obtain ⟨_, second, made⟩ := bind_eq_ok made
  cases made
  exact ⟨first, second⟩

theorem outcome_providersOn_of_error {cause : Failure}
    (failed : (config.meterProviderOn (terms .metrics)).outcome = .error cause) :
    (config.providersOn terms).outcome = .error cause := by
  unfold providersOn
  rw [Report.outcome_bind, failed]
  rfl

theorem exists_tracerProvider {cloud : Cloud} {project : Value}
    (connects : config.Connects cloud project) (writable : project.isWritable = true) :
    ∃ tracer, (config.tracerProvider cloud).outcome = .ok tracer := by
  by_cases enabled : config.trace.enabled = true
  · obtain ⟨tracer, built⟩ := (reads_tracerProvider enabled connects).exists_ok_iff.2 writable
    exact ⟨tracer, built⟩
  · unfold tracerProvider
    rw [if_neg enabled]
    exact ⟨none, rfl⟩

/-- The signal is connected to the project, and the provider cannot be built. Spans come to that only
without metrics, since what stops their provider would have stopped that of the metrics. -/
def Strands (config : Config) (sdk : Sdk) (project : Value) : Signal → Prop
  | .metrics => config.metrics.enabled = true ∧ ¬ config.Builds sdk project .metrics
  | .trace => config.metrics.enabled = false ∧ config.trace.enabled = true ∧
    ¬ config.Builds sdk project .trace

/-- After the meters, nothing but a project without a written form stops the tracers. -/
theorem not_isWritable_of_tracers {cloud : Cloud} {project : Value} {meter : Option MeterProvider}
    {cause : Failure} (made : (config.meterProviderOn (.plain cloud)).outcome = .ok meter)
    (failed : (config.providersOn fun _ => .plain cloud).outcome = .error cause)
    (connects : config.Connects cloud project) : ¬ project.isWritable = true := by
  intro writable
  obtain ⟨tracer, second⟩ := exists_tracerProvider connects writable
  rw [← tracerProviderOn_plain] at second
  rw [config.outcome_providersOn (fun _ => .plain cloud) made second] at failed
  cases failed

theorem strands_of_reaches {cloud : Cloud} {cause : Failure}
    (failed : (config.providersOn fun _ => .plain cloud).outcome = .error cause)
    (reached : config.Reaches (fun _ => .plain cloud) signal) :
    ∃ project, config.Connects cloud project ∧ config.Strands cloud.sdk project signal := by
  cases signal with
  | metrics =>
    obtain ⟨enabled, project, connects⟩ := reached
    refine ⟨project, connects, enabled, fun builds => ?_⟩
    obtain ⟨meter, made⟩ := (reads_meterProvider enabled connects).exists_ok_iff.2 builds
    rw [← meterProviderOn_plain] at made
    exact not_isWritable_of_tracers made failed connects builds.1
  | trace =>
    obtain ⟨⟨meter, made⟩, enabled, project, connects⟩ := reached
    have stopped := not_isWritable_of_tracers made failed connects
    refine ⟨project, connects, ?_, enabled, stopped⟩
    by_contra metrics
    have reads := reads_meterProvider (Bool.of_not_eq_false metrics) connects
    rw [meterProviderOn_plain] at made
    exact stopped (reads.exists_ok_iff.1 ⟨meter, made⟩).1

theorem reaches_of_strands {cloud : Cloud} {project : Value}
    (connects : config.Connects cloud project) (strands : config.Strands cloud.sdk project signal) :
    ∃ cause, (config.providersOn fun _ => .plain cloud).outcome = .error cause ∧
      config.Reaches (fun _ => .plain cloud) signal := by
  cases signal with
  | metrics =>
    obtain ⟨enabled, broken⟩ := strands
    obtain ⟨cause, failed, -⟩ := (reads_meterProvider enabled connects).exists_error broken
    rw [← meterProviderOn_plain] at failed
    exact ⟨cause, outcome_providersOn_of_error failed, enabled, project, connects⟩
  | trace =>
    obtain ⟨disabled, enabled, broken⟩ := strands
    obtain ⟨cause, failed, -⟩ := (reads_tracerProvider enabled connects).exists_error broken
    have made : (config.meterProvider cloud).outcome = .ok none := by
      unfold meterProvider
      rw [if_neg (Bool.eq_false_iff.1 disabled)]
      rfl
    rw [← meterProviderOn_plain] at made
    rw [← tracerProviderOn_plain] at failed
    refine ⟨cause, ?_, ⟨none, made⟩, enabled, project, connects⟩
    rw [config.outcome_providersOn (fun _ => .plain cloud) made failed]
    rfl

end

theorem spares_tryProvidersOn (config : Config) (terms : Signal → Terms) :
    (config.tryProvidersOn terms).Spares := by
  refine (Report.Tells.map ?_).recover fun cause => ?_
  · refine Report.Tells.bind ?_ fun meter => Report.Tells.bind ?_ fun tracer => Report.tells_pure _
    · exact (config.spares_meterProvider _).bind (terms .metrics).tells_assemble
    · exact (config.spares_tracerProvider _).bind (terms .trace).tells_assemble
  · split
    · exact Report.tells_fail _
    · split
      · exact Report.tells_fail _
      · exact (Setup.spares_log _).bind fun _ => Report.tells_pure _

end Config

/-! ### Calls of `init` -/

namespace Session

def prepareOn (s : Surroundings) (terms : Signal → Terms) (source : ConfigSource) :
    Setup (Config × Option (Option MeterProvider × Option TracerProvider)) := do
  let config ← source.resolve s
  return (config, ← config.tryProvidersOn terms)

def settle (session : Session)
    (made : Setup (Config × Option (Option MeterProvider × Option TracerProvider))) :
    Setup Unit × Session :=
  match made.outcome with
  | .error cause => (⟨made.events, .error cause⟩, session)
  | .ok (_, none) => (⟨made.events, .ok ()⟩, session.install none none)
  | .ok (config, some (meter, tracer)) =>
    let told := Setup.log (.initialized config.serviceName meter.isSome tracer.isSome)
    (⟨made.events ++ told.events, told.outcome⟩, session.install meter tracer)

/-- An `init` whose signals are set up on terms of their own. -/
def initOn (session : Session) (s : Surroundings) (terms : Signal → Terms)
    (source : ConfigSource) : Setup Unit × Session :=
  if session.configured then (Setup.log .alreadyInitialized, session)
  else session.settle (prepareOn s terms source)

theorem initOn_plain (session : Session) (s : Surroundings) (cloud : Cloud)
    (source : ConfigSource) :
    session.initOn s (fun _ => .plain cloud) source = session.init s cloud source := by
  unfold initOn prepareOn
  simp only [Config.tryProvidersOn_plain]
  rfl

def holds (session : Session) : Signal → Bool
  | .metrics => session.meter.any fun installed => installed.provider.equipment.isConnected
  | .trace => session.tracer.any fun installed => installed.provider.equipment.isConnected

/-- A connection that a call has made is still open after it, and no provider has it. -/
structure Leaks (call : Setup Unit × Session) (signal : Signal) : Prop where
  made : .connected signal ∈ call.1.events
  still : .closed signal ∉ call.1.events
  unheld : call.2.holds signal = false

section
variable {session : Session} {s : Surroundings} {terms : Signal → Terms} {source : ConfigSource}
  {config : Config} {signal : Signal}

theorem spares_initOn (session : Session) (s : Surroundings) (terms : Signal → Terms)
    (source : ConfigSource) : (session.initOn s terms source).1.Spares := by
  have prepared : (prepareOn s terms source).Spares := (source.spares_resolve s).bind fun config =>
    (config.spares_tryProvidersOn terms).bind fun _ => Report.tells_pure _
  unfold initOn settle
  split
  · exact Setup.spares_log _
  · split
    · exact prepared
    · exact prepared
    · intro event told
      exact (List.mem_append.1 told).elim (prepared event) (Setup.spares_log _ event)

theorem connected_mem_prepareOn_iff :
    .connected signal ∈ (prepareOn s terms source).events ↔
      ∃ config, (source.resolve s).outcome = .ok config ∧ config.Reaches terms signal := by
  unfold prepareOn
  simp only [(source.quiet_resolve s).connected_mem_bind_iff,
    Setup.connected_mem_bind_iff fun _ => Report.tells_pure _,
    Config.connected_mem_tryProvidersOn_iff]

theorem outcome_prepareOn (resolved : (source.resolve s).outcome = .ok config)
    {made : Except Failure (Option (Option MeterProvider × Option TracerProvider))}
    (tried : (config.tryProvidersOn terms).outcome = made) :
    (prepareOn s terms source).outcome = made.map (config, ·) := by
  unfold prepareOn
  rw [Report.outcome_bind, resolved]
  change (config.tryProvidersOn terms >>= _).outcome = _
  rw [Report.outcome_bind, tried]
  cases made <;> rfl

theorem initOn_of_free (free : session.configured = false) :
    session.initOn s terms source = session.settle (prepareOn s terms source) :=
  if_neg (Bool.eq_false_iff.1 free)

theorem connected_mem_initOn_iff (free : session.configured = false) :
    .connected signal ∈ (session.initOn s terms source).1.events ↔
      ∃ config, (source.resolve s).outcome = .ok config ∧ config.Reaches terms signal := by
  rw [← connected_mem_prepareOn_iff, initOn_of_free free]
  unfold settle
  split
  · rfl
  · rfl
  · exact List.mem_append.trans (or_iff_left (Setup.quiet_log _).not_mem)

theorem initOn_of_error (free : session.configured = false)
    (resolved : (source.resolve s).outcome = .ok config) {cause : Failure}
    (failed : (config.providersOn terms).outcome = .error cause) :
    (session.initOn s terms source).2 = session.install none none ∨
      (session.initOn s terms source).2 = session := by
  rw [initOn_of_free free]
  unfold settle
  rcases config.tryProvidersOn_cases terms with
    ⟨made, other, -⟩ | ⟨-, -, disabled | ⟨wrong, refused⟩⟩
  · rw [failed] at other
    cases other
  · rw [outcome_prepareOn resolved disabled]
    exact .inl rfl
  · rw [outcome_prepareOn resolved refused]
    exact .inr rfl

theorem initOn_of_ok (free : session.configured = false)
    (resolved : (source.resolve s).outcome = .ok config) {meter : Option MeterProvider}
    {tracer : Option TracerProvider}
    (made : (config.providersOn terms).outcome = .ok (meter, tracer)) :
    (session.initOn s terms source).2 = session.install meter tracer := by
  rw [initOn_of_free free]
  unfold settle
  rcases config.tryProvidersOn_cases terms with ⟨made', other, tried⟩ | ⟨cause, failed, -⟩
  · rw [made] at other
    cases other
    rw [outcome_prepareOn resolved tried]
    rfl
  · rw [made] at failed
    cases failed

theorem holds_of_reaches {meter : Option MeterProvider} {tracer : Option TracerProvider}
    (made : (config.providersOn terms).outcome = .ok (meter, tracer))
    (reached : config.Reaches terms signal) :
    (session.install meter tracer).holds signal = true := by
  obtain ⟨first, second⟩ := Config.outcomes_of_providersOn made
  cases signal with
  | metrics =>
    obtain ⟨provider, rfl, connected⟩ :=
      Config.connected_of_meterProviderOn first reached.1 reached.2
    exact connected
  | trace =>
    obtain ⟨provider, rfl, connected⟩ :=
      Config.connected_of_tracerProviderOn second reached.2.1 reached.2.2
    exact connected

/-- A call leaks what it reaches before it fails to make the providers. -/
theorem Tidy.leaks_initOn_iff (tidy : session.Tidy) :
    Leaks (session.initOn s terms source) signal ↔
      session.configured = false ∧ ∃ config cause, (source.resolve s).outcome = .ok config ∧
        (config.providersOn terms).outcome = .error cause ∧ config.Reaches terms signal := by
  constructor
  · rintro ⟨connected, -, unheld⟩
    have free : session.configured = false := by
      by_contra configured
      unfold initOn at connected
      rw [if_pos (Bool.of_not_eq_false configured)] at connected
      exact (Setup.quiet_log _).not_mem connected
    obtain ⟨config, resolved, reached⟩ := (connected_mem_initOn_iff free).1 connected
    refine ⟨free, config, ?_⟩
    cases made : (config.providersOn terms).outcome with
    | error cause => exact ⟨cause, resolved, rfl, reached⟩
    | ok providers =>
      rw [initOn_of_ok free resolved made, holds_of_reaches made reached] at unheld
      cases unheld
  · rintro ⟨free, config, cause, resolved, failed, reached⟩
    refine ⟨(connected_mem_initOn_iff free).2 ⟨config, resolved, reached⟩, fun closed => ?_, ?_⟩
    · cases spares_initOn session s terms source _ closed
    · rcases initOn_of_error free resolved failed with next | next
      · rw [next]
        cases signal <;> rfl
      · obtain ⟨meter, tracer⟩ := providers_eq_nil_iff.1 (tidy free)
        rw [next]
        cases signal <;> simp [holds, meter, tracer]

end

/-- However a session has been used: an `init` leaves a connection open and without a provider
exactly if it reaches the signal and then fails to make the providers. A provider of meters that has
been made by then is not installed and not taken down. Where the cloud answers both signals alike
and all else can be built, this is so for a signal that is connected and whose exporter or reader
cannot be built on the connection. -/
theorem leaks_iff (moves : List SessionMove) (s : Surroundings) (source : ConfigSource) :
    (∀ terms signal, Leaks ((initial.after moves).initOn s terms source) signal ↔
      (initial.after moves).configured = false ∧ ∃ config cause,
        (source.resolve s).outcome = .ok config ∧
        (config.providersOn terms).outcome = .error cause ∧ config.Reaches terms signal) ∧
    (∀ terms config provider cause, (initial.after moves).configured = false →
      (source.resolve s).outcome = .ok config →
      (config.meterProviderOn (terms .metrics)).outcome = .ok (some provider) →
      (config.tracerProviderOn (terms .trace)).outcome = .error cause →
      ((initial.after moves).initOn s terms source).2.meter = none ∧
        ∀ serial, .takenDown .metrics serial ∉
          ((initial.after moves).initOn s terms source).1.events) ∧
    ∀ cloud, (initial.after moves).init s cloud source =
        (initial.after moves).initOn s (fun _ => .plain cloud) source ∧
      ∀ signal, Leaks ((initial.after moves).init s cloud source) signal ↔
        (initial.after moves).configured = false ∧ ∃ config project,
          (source.resolve s).outcome = .ok config ∧ config.Connects cloud project ∧
          config.Strands cloud.sdk project signal := by
  have tidy := tidy_after moves
  generalize initial.after moves = session at tidy
  refine ⟨fun terms signal => tidy.leaks_initOn_iff, ?_, fun cloud => ⟨?_, fun signal => ?_⟩⟩
  · intro terms config provider cause free resolved first second
    refine ⟨?_, fun serial told => ?_⟩
    · rcases initOn_of_error free resolved (config.outcome_providersOn terms first second) with
        next | next
      · rw [next]
        rfl
      · rw [next]
        exact (providers_eq_nil_iff.1 (tidy free)).1
    · cases spares_initOn session s terms source _ told
  · exact (session.initOn_plain s cloud source).symm
  · rw [← initOn_plain, tidy.leaks_initOn_iff]
    constructor
    · rintro ⟨free, config, cause, resolved, failed, reached⟩
      obtain ⟨project, connects, strands⟩ := Config.strands_of_reaches failed reached
      exact ⟨free, config, project, resolved, connects, strands⟩
    · rintro ⟨free, config, project, resolved, connects, strands⟩
      obtain ⟨cause, failed, reached⟩ := Config.reaches_of_strands connects strands
      exact ⟨free, config, cause, resolved, failed, reached⟩

namespace Sample

def checkout : Config := config (.text "checkout")

def apart : Signal → Terms
  | .metrics => .plain Config.Sample.openCloud
  | .trace => ⟨Config.Sample.openCloud, .error (.defect .badValue)⟩

def restless : Config :=
  { serviceName := .text "checkout", metrics := { interval := .int 0 } }

end Sample

/-- Both connections are left open, and a provider of meters is lost with them. -/
theorem leaks_iff_apart :
    (∀ signal, Leaks (initial.initOn Config.Sample.surroundings Sample.apart
      (.given Sample.checkout)) signal) ∧
    (initial.initOn Config.Sample.surroundings Sample.apart
      (.given Sample.checkout)).2.meter = none := by
  obtain ⟨leaks, stranded, -⟩ := leaks_iff [] Config.Sample.surroundings (.given Sample.checkout)
  have connected : ∃ connection, (Sample.checkout.connect Config.Sample.openCloud
      .metrics).outcome = .ok connection := ⟨_, by with_unfolding_all rfl⟩
  have connects := Config.canConnect_iff.2 connected
  obtain ⟨provider, made⟩ : ∃ provider, (Sample.checkout.meterProviderOn
      (Sample.apart .metrics)).outcome = .ok (some provider) := ⟨_, by with_unfolding_all rfl⟩
  have broken : (Sample.checkout.tracerProviderOn (Sample.apart .trace)).outcome =
      .error (.defect .badValue) := by with_unfolding_all rfl
  refine ⟨fun signal => (leaks Sample.apart signal).2 ⟨rfl, _, .defect .badValue, rfl, ?_, ?_⟩,
    (stranded Sample.apart _ provider _ rfl rfl made broken).1⟩
  · with_unfolding_all rfl
  · cases signal with
    | metrics => exact ⟨rfl, connects⟩
    | trace => exact ⟨⟨_, made⟩, rfl, connects⟩

/-- An `init` that ends with telemetry disabled, after metrics have been connected. -/
theorem leaks_restless :
    (initial.init Config.Sample.surroundings Config.Sample.openCloud
      (.given Sample.restless)).1.outcome = .ok () ∧
    (initial.init Config.Sample.surroundings Config.Sample.openCloud
      (.given Sample.restless)).2.providers = [] ∧
    Leaks (initial.init Config.Sample.surroundings Config.Sample.openCloud
      (.given Sample.restless)) .metrics := by
  have events : (initial.init Config.Sample.surroundings Config.Sample.openCloud
      (.given Sample.restless)).1.events =
        [.credentialsSought .ambient [cloudScope], .log (.projectResolved (.text "found")),
          .connecting .metrics .ambient, .connected .metrics,
          .log (.exporterConfigured .metrics (.text "found")),
          .log (.initializationFailed (.defect .badValue))] := by
    with_unfolding_all rfl
  refine ⟨by with_unfolding_all rfl, by with_unfolding_all rfl, ?_, ?_, by with_unfolding_all rfl⟩
  · rw [events]
    simp
  · rw [events]
    simp

end Session

end CloudTelemetry
