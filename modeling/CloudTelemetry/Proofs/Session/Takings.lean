import CloudTelemetry.Proofs.Session.Moves
import CloudTelemetry.Proofs.Setup.Exporters
import Mathlib.Data.List.Nodup

/-!
# Providers are taken down once

A provider is known by its signal and its serial. Over a run, what has been installed is what has
been taken down, in the same order, and after it what is still there (`installed_eq`). As serials only
grow, no provider is taken down twice, and one is taken down as soon as a shutdown comes after it
(`orderly_after`).
-/

namespace CloudTelemetry

def SetupEvent.taking? : SetupEvent → Option (Signal × Nat)
  | .takenDown signal serial => some (signal, serial)
  | _ => none

/-- The providers that are told to shut down, in the order in which they are told. -/
def takings (events : List SetupEvent) : List (Signal × Nat) := events.filterMap SetupEvent.taking?

theorem takings_append (first rest : List SetupEvent) :
    takings (first ++ rest) = takings first ++ takings rest := List.filterMap_append

/-! ### Setups take nothing down -/

/-- Whether something is given up that was in use. -/
def SetupEvent.isRelease : SetupEvent → Bool
  | .closed _ | .takenDown _ _ => true
  | _ => false

/-- No provider is told to shut down, and no connection is closed. -/
abbrev Setup.Spares {α : Type} (r : Setup α) : Prop := r.Tells fun event => event.isRelease = false

theorem SetupEvent.taking?_eq_none {event : SetupEvent} (h : event.isRelease = false) :
    event.taking? = none := by
  cases event with
  | takenDown => cases h
  | log | credentialsSought | connecting | connected | closed => rfl

theorem Setup.Spares.takings_eq_nil {α : Type} {r : Setup α} (h : r.Spares) :
    takings r.events = [] :=
  List.filterMap_eq_nil_iff.2 fun event told => SetupEvent.taking?_eq_none (h event told)

theorem Setup.spares_tell {event : SetupEvent} (h : event.isRelease = false) :
    Setup.Spares (.tell event) := Report.tells_tell h

theorem Setup.spares_ofLogging {α : Type} (r : Report LogEntry α) : (Setup.ofLogging r).Spares := by
  refine Report.tells_mapEvents ?_ r
  exact fun _ => rfl

theorem Setup.spares_log (entry : LogEntry) : (Setup.log entry).Spares := spares_tell rfl

theorem ConfigSource.spares_resolve (s : Surroundings) (source : ConfigSource) :
    (source.resolve s).Spares := by
  cases source with
  | given => exact Report.tells_pure _
  | file => exact Setup.spares_ofLogging _
  | environment =>
    unfold resolve
    dsimp only
    split
    · exact Report.tells_fail _
    · exact Report.tells_fail _
    · exact Setup.spares_ofLogging _

namespace Config

section
variable (config : Config) (cloud : Cloud) (signal : Signal)

theorem spares_detectProject (source : CredentialSource) :
    (detectProject cloud source).Spares := by
  refine (Setup.spares_tell rfl).bind fun _ => ?_
  split
  · exact Report.tells_pure _
  · split <;> exact Report.tells_fail _

theorem spares_resolveProject : (config.resolveProject cloud).Spares := by
  refine (spares_detectProject cloud _).bind fun detected => ?_
  dsimp only
  split
  · exact (Setup.spares_log _).bind fun _ => Report.tells_pure _
  · exact Report.tells_fail _

theorem spares_connect : (config.connect cloud signal).Spares := by
  refine (Report.tells_ofExcept _).bind fun _ => ?_
  refine (config.spares_resolveProject cloud).bind fun project => ?_
  refine (Setup.spares_tell rfl).bind fun _ => ?_
  split
  · exact (Setup.spares_tell rfl).bind fun _ => Report.tells_pure _
  · exact Report.tells_fail _

theorem spares_tryConnect : (config.tryConnect cloud signal).Spares := by
  refine (config.spares_connect cloud signal).map.recover fun cause => ?_
  split
  · exact Report.tells_fail _
  · exact (Setup.spares_log _).bind fun _ => Report.tells_pure _

theorem spares_metricEquipment : (config.metricEquipment cloud).Spares := by
  refine (config.spares_tryConnect cloud .metrics).bind fun connection => ?_
  split
  · exact Report.tells_pure _
  · refine (Setup.spares_log _).bind fun _ => (Report.tells_ofExcept _).bind fun exporter => ?_
    exact (Report.tells_ofExcept _).bind fun cache => Report.tells_pure _

theorem spares_spanEquipment : (config.spanEquipment cloud).Spares := by
  refine (config.spares_tryConnect cloud .trace).bind fun connection => ?_
  split
  · exact Report.tells_pure _
  · exact (Setup.spares_log _).bind fun _ => (Report.tells_ofExcept _).bind fun _ =>
      Report.tells_pure _

theorem spares_meterProvider : (config.meterProvider cloud).Spares := by
  unfold meterProvider
  split
  · refine (config.spares_metricEquipment cloud).bind fun equipment => ?_
    refine (Report.tells_ofExcept _).bind fun interval => (Report.tells_ofExcept _).bind fun _ => ?_
    exact (Report.tells_ofExcept _).bind fun _ => Report.tells_pure _
  · exact (Setup.spares_log _).bind fun _ => Report.tells_pure _

theorem spares_tracerProvider : (config.tracerProvider cloud).Spares := by
  unfold tracerProvider
  split
  · exact (config.spares_spanEquipment cloud).bind fun _ => Report.tells_pure _
  · exact (Setup.spares_log _).bind fun _ => Report.tells_pure _

theorem spares_tryProviders : (config.tryProviders cloud).Spares := by
  refine (Report.Tells.map ?_).recover fun cause => ?_
  · refine (config.spares_meterProvider cloud).bind fun meter => ?_
    exact (config.spares_tracerProvider cloud).bind fun tracer => Report.tells_pure _
  · split
    · exact Report.tells_fail _
    · split
      · exact Report.tells_fail _
      · exact (Setup.spares_log _).bind fun _ => Report.tells_pure _

end

end Config

namespace Session

theorem spares_prepare (s : Surroundings) (cloud : Cloud) (source : ConfigSource) :
    (prepare s cloud source).Spares :=
  (source.spares_resolve s).bind fun config =>
    (config.spares_tryProviders cloud).bind fun _ => Report.tells_pure _

theorem Initialized.spares {session : Session} {s : Surroundings} {cloud : Cloud}
    {source : ConfigSource} {result : Setup Unit × Session}
    (h : Initialized session s cloud source result) : result.1.Spares := by
  have prepared := spares_prepare s cloud source
  cases h with
  | ignored => exact Setup.spares_log _
  | failed | disabled => exact prepared
  | installed =>
    exact fun event told =>
      (List.mem_append.1 told).elim (prepared event) (Setup.spares_log _ event)

/-! ### Providers -/

def providers (session : Session) : List (Signal × Nat) :=
  (session.meter.map fun installed => (Signal.metrics, installed.serial)).toList ++
    (session.tracer.map fun installed => (Signal.trace, installed.serial)).toList

theorem providers_eq_nil_iff {session : Session} :
    session.providers = [] ↔ session.meter = none ∧ session.tracer = none := by
  unfold providers
  rw [List.append_eq_nil_iff, Option.toList_eq_nil_iff, Option.toList_eq_nil_iff,
    Option.map_eq_none_iff, Option.map_eq_none_iff]

theorem takings_shutDownProvider {α : Type} (signal : Signal) (isConnected : α → Bool)
    (installed : Option (Installed α)) :
    takings (shutDownProvider signal isConnected installed) =
      (installed.map fun installed => (signal, installed.serial)).toList := by
  cases installed with
  | none => rfl
  | some installed =>
    obtain ⟨serial, provider, fault⟩ := installed
    cases fault with
    | some => rfl
    | none =>
      unfold shutDownProvider
      dsimp only
      split <;> rfl

theorem takings_shutdown (session : Session) : takings session.shutdown.1 = session.providers := by
  unfold shutdown providers
  rw [takings_append, takings_shutDownProvider, takings_shutDownProvider]

theorem providers_install (session : Session) (meter : Option MeterProvider)
    (tracer : Option TracerProvider) :
    (session.install meter tracer).providers.Sublist
      [(.metrics, session.serials), (.trace, session.serials + 1)] := by
  change List.Sublist (_ ++ _) ([_] ++ [_])
  refine List.Sublist.append ?_ ?_
  · cases meter with
    | none => exact List.nil_sublist _
    | some => exact List.Sublist.refl _
  · cases tracer with
    | none => exact List.nil_sublist _
    | some => exact List.Sublist.refl _

/-! ### Moves -/

/-- All that a move can do with the providers of a session. -/
inductive Effect (session : Session) (events : List SetupEvent) (next : Session) : Prop
  | keeps (configured : next.configured = session.configured)
    (serials : next.serials = session.serials) (providers : next.providers = session.providers)
    (spares : takings events = [])
  | empties (serials : next.serials = session.serials) (providers : next.providers = [])
    (takes : takings events = session.providers)
  | installs (free : session.configured = false) (configured : next.configured = true)
    (serials : next.serials = session.serials + 2)
    (providers : next.providers.Sublist
      [(.metrics, session.serials), (.trace, session.serials + 1)])
    (spares : takings events = [])

theorem Initialized.effect {session : Session} {s : Surroundings} {cloud : Cloud}
    {source : ConfigSource} {result : Setup Unit × Session}
    (h : Initialized session s cloud source result) :
    Effect session result.1.events result.2 := by
  have spares := h.spares.takings_eq_nil
  cases h with
  | ignored | failed => exact .keeps rfl rfl rfl spares
  | disabled free => exact .installs free rfl rfl (session.providers_install none none) spares
  | installed free config meter tracer =>
    exact .installs free rfl rfl (session.providers_install meter tracer) spares

/-- A provider whose shutdown is going to fail is still the same provider. -/
theorem effect_breakdown (session : Session) (signal : Signal) (message : String) :
    Effect session (session.move (.breakdown signal message)).1.events
      (session.move (.breakdown signal message)).2 := by
  obtain ⟨configured, meter, tracer, globalMeter, globalTracer, serials, exitHooks⟩ := session
  cases signal with
  | metrics => cases meter <;> exact .keeps rfl rfl rfl rfl
  | trace => cases tracer <;> exact .keeps rfl rfl rfl rfl

theorem effect_move (session : Session) (move : SessionMove) :
    Effect session (session.move move).1.events (session.move move).2 := by
  cases move with
  | init s cloud source => exact (session.initialized_init s cloud source).effect
  | shutdown => exact .empties rfl rfl session.takings_shutdown
  | breakdown signal message => exact session.effect_breakdown signal message

/-! ### Sessions that are not configured -/

/-- A session that is not configured has no providers. -/
def Tidy (session : Session) : Prop := session.configured = false → session.providers = []

theorem tidy_initial : initial.Tidy := fun _ => rfl

/-- The providers that a move installs. A session that is configured only keeps what it has. -/
def installs (session : Session) (move : SessionMove) : List (Signal × Nat) :=
  if session.configured then [] else (session.move move).2.providers

section
variable {session : Session}

theorem installs_of_configured (h : session.configured = true) (move : SessionMove) :
    session.installs move = [] := if_pos h

theorem installs_of_free (h : session.configured = false) (move : SessionMove) :
    session.installs move = (session.move move).2.providers := if_neg (Bool.eq_false_iff.1 h)

theorem Tidy.move (h : session.Tidy) (move : SessionMove) : (session.move move).2.Tidy := by
  intro free
  cases session.effect_move move with
  | keeps configured _ providers => exact providers.trans (h (configured.symm.trans free))
  | empties _ providers => exact providers
  | installs _ configured => cases configured.symm.trans free

/-- What is there before a move or is installed by it is taken down by it or is there after it. -/
theorem Tidy.providers_move (h : session.Tidy) (move : SessionMove) :
    session.providers ++ session.installs move =
      takings (session.move move).1.events ++ (session.move move).2.providers := by
  cases configured : session.configured with
  | true =>
    rw [installs_of_configured configured, List.append_nil]
    cases session.effect_move move with
    | keeps _ _ providers spares => rw [spares, providers, List.nil_append]
    | empties _ providers takes => rw [takes, providers, List.append_nil]
    | installs free => cases configured.symm.trans free
  | false =>
    rw [installs_of_free configured, h configured]
    cases session.effect_move move with
    | keeps _ _ _ spares => rw [spares]
    | empties _ _ takes => rw [takes, h configured]
    | installs _ _ _ _ spares => rw [spares]

theorem Tidy.installs_cases (h : session.Tidy) (move : SessionMove) :
    (session.installs move = [] ∧ (session.move move).2.serials = session.serials) ∨
    ((session.installs move).Sublist
        [(.metrics, session.serials), (.trace, session.serials + 1)] ∧
      (session.move move).2.serials = session.serials + 2) := by
  cases session.effect_move move with
  | keeps _ serials providers =>
    refine .inl ⟨?_, serials⟩
    unfold installs
    split
    · rfl
    · exact providers.trans (h (Bool.eq_false_iff.2 ‹_›))
  | empties serials providers =>
    refine .inl ⟨?_, serials⟩
    unfold installs
    split
    · rfl
    · exact providers
  | installs free _ serials providers =>
    refine .inr ⟨?_, serials⟩
    rw [installs_of_free free]
    exact providers

end

/-! ### Runs -/

theorem tidy_after (moves : List SessionMove) : (initial.after moves).Tidy :=
  after_induction (P := Tidy) (fun _ move h => h.move move) tidy_initial moves

def installed : Session → List SessionMove → List (Signal × Nat)
  | _, [] => []
  | session, move :: rest => session.installs move ++ (session.move move).2.installed rest

theorem installed_append (session : Session) (first rest : List SessionMove) :
    session.installed (first ++ rest) =
      session.installed first ++ (session.after first).installed rest := by
  induction first generalizing session with
  | nil => rfl
  | cons move first ih =>
    change _ ++ installed _ (first ++ rest) = (_ ++ installed _ first) ++ _
    rw [ih, List.append_assoc]
    rfl

theorem Tidy.providers_run {session : Session} (h : session.Tidy) (moves : List SessionMove) :
    session.providers ++ session.installed moves =
      takings (session.told moves) ++ (session.after moves).providers := by
  induction moves generalizing session with
  | nil => exact List.append_nil _
  | cons move moves ih =>
    change _ ++ (_ ++ _) = takings (_ ++ _) ++ _
    rw [← List.append_assoc, h.providers_move, List.append_assoc, ih (h.move move), takings_append,
      List.append_assoc]
    rfl

theorem installed_eq (moves : List SessionMove) :
    initial.installed moves = takings (initial.told moves) ++ (initial.after moves).providers :=
  tidy_initial.providers_run moves

theorem Tidy.installed_serials {session : Session} (h : session.Tidy) (moves : List SessionMove) :
    (∀ p ∈ session.installed moves, session.serials ≤ p.2) ∧
    (session.installed moves).Pairwise fun p q => p.2 < q.2 := by
  induction moves generalizing session with
  | nil => exact ⟨nofun, .nil⟩
  | cons move moves ih =>
    obtain ⟨least, later⟩ := ih (h.move move)
    change (∀ p ∈ _ ++ _, _) ∧ List.Pairwise _ (_ ++ _)
    rcases h.installs_cases move with ⟨nothing, same⟩ | ⟨fresh, next⟩
    · rw [nothing, List.nil_append, ← same]
      exact ⟨least, later⟩
    · rw [next] at least
      have bounds : ∀ p ∈ session.installs move,
          session.serials ≤ p.2 ∧ p.2 < session.serials + 2 := by
        intro p hp
        have hp := fresh.subset hp
        simp only [List.mem_cons, List.not_mem_nil, or_false] at hp
        rcases hp with rfl | rfl <;> dsimp only <;> omega
      constructor
      · intro p hp
        rcases List.mem_append.1 hp with hp | hp
        · exact (bounds p hp).1
        · exact Nat.le_trans (Nat.le_add_right _ 2) (least p hp)
      · refine List.pairwise_append.2 ⟨?_, later, fun p hp q hq => ?_⟩
        · exact List.Pairwise.sublist fresh (by simp)
        · exact Nat.lt_of_lt_of_le (bounds p hp).2 (least q hq)

/-! ### Calls -/

/-- What calls do to a session, whatever their arguments. -/
structure Orderly (session : Session) : Prop where
  free : session.configured = false → session.meter = none ∧ session.tracer = none
  failed : ∀ s cloud source cause, (session.init s cloud source).1.outcome = .error cause →
    (session.init s cloud source).2 = session
  returned : ∀ s cloud source, (session.init s cloud source).1.outcome = .ok () →
    (session.init s cloud source).2.configured = true
  /-- An `init` in between looks at none of its arguments. -/
  ignored : session.configured = true → ∀ s cloud source,
    session.init s cloud source = (Setup.log .alreadyInitialized, session)
  shutDown : ∃ events, takings events = session.providers ∧
    session.move .shutdown =
      (⟨events, .ok ()⟩, { session with configured := false, meter := none, tracer := none })

section
variable {session : Session} {s : Surroundings} {cloud : Cloud} {source : ConfigSource}

theorem Initialized.eq_of_error {result : Setup Unit × Session}
    (h : Initialized session s cloud source result) {cause : Failure}
    (failed : result.1.outcome = .error cause) : result.2 = session := by
  cases h with
  | ignored | failed => rfl
  | disabled | installed => cases failed

theorem Initialized.configured_of_ok {result : Setup Unit × Session}
    (h : Initialized session s cloud source result) (returned : result.1.outcome = .ok ()) :
    result.2.configured = true := by
  cases h with
  | ignored configured => exact configured
  | failed => cases returned
  | disabled | installed => rfl

theorem Initialized.eq_of_configured {result : Setup Unit × Session}
    (h : Initialized session s cloud source result) (configured : session.configured = true) :
    result = (Setup.log .alreadyInitialized, session) := by
  cases h with
  | ignored => rfl
  | failed free | disabled free | installed free =>
    cases configured.symm.trans free

theorem Tidy.orderly (h : session.Tidy) : session.Orderly where
  free free := providers_eq_nil_iff.1 (h free)
  failed s cloud source _ failed :=
    (session.initialized_init s cloud source).eq_of_error failed
  returned s cloud source := (session.initialized_init s cloud source).configured_of_ok
  ignored configured s cloud source :=
    (session.initialized_init s cloud source).eq_of_configured configured
  shutDown := ⟨session.shutdown.1, session.takings_shutdown, rfl⟩

end

theorem nodup_takings (moves : List SessionMove) : (takings (initial.told moves)).Nodup := by
  have serials := (tidy_initial.installed_serials moves).2
  rw [installed_eq] at serials
  refine (List.pairwise_append.1 serials).1.imp ?_
  rintro p q h rfl
  exact Nat.lt_irrefl _ h

theorem mem_takings_of_shutdown {moves : List SessionMove} {p : Signal × Nat}
    (h : p ∈ initial.installed moves) (later rest : List SessionMove) :
    p ∈ takings (initial.told (moves ++ later ++ .shutdown :: rest)) := by
  have all := installed_eq (moves ++ later ++ [.shutdown])
  rw [after_append, show ((initial.after (moves ++ later)).after [.shutdown]).providers = [] from rfl,
    List.append_nil, installed_append, installed_append] at all
  rw [show moves ++ later ++ .shutdown :: rest = (moves ++ later ++ [.shutdown]) ++ rest by simp,
    told_append, takings_append, ← all]
  simp [h]

namespace Sample

def config (name : Value) : Config := { serviceName := name }

def start (name : Value) : SessionMove :=
  .init Config.Sample.surroundings Config.Sample.openCloud (.given (config name))

def moves : List SessionMove := [start (.text "checkout"), .breakdown .metrics "lost"]

end Sample

end Session

end CloudTelemetry
