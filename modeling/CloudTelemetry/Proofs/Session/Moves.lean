import CloudTelemetry.Session

/-!
# Runs of a session

A process calls `init` and `shutdown` in any order and with any arguments, and meanwhile the
shutdown of a provider may come to fail. What an `init` does to a session that is not configured is
settled by what it prepares; `Initialized` lists all that it can come to.
-/

namespace CloudTelemetry

inductive SessionMove where
  | init (s : Surroundings) (cloud : Cloud) (source : ConfigSource)
  | shutdown
  /-- the shutdown of the provider of a signal is going to fail, if there is one -/
  | breakdown (signal : Signal) (message : String)

namespace Session

/-- What a move comes to. A shutdown has no way to fail. -/
def move (session : Session) : SessionMove → Setup Unit × Session
  | .init s cloud source => session.init s cloud source
  | .shutdown => (⟨session.shutdown.1, .ok ()⟩, session.shutdown.2)
  | .breakdown signal message =>
    match session.sabotage message signal with
    | .ok broken => (pure (), broken)
    | .error cause => (.fail cause, session)

/-! ### Runs -/

def after : Session → List SessionMove → Session
  | session, [] => session
  | session, move :: rest => (session.move move).2.after rest

def told : Session → List SessionMove → List SetupEvent
  | _, [] => []
  | session, move :: rest => (session.move move).1.events ++ (session.move move).2.told rest

theorem after_append (session : Session) (first rest : List SessionMove) :
    session.after (first ++ rest) = (session.after first).after rest := by
  induction first generalizing session with
  | nil => rfl
  | cons move first ih => exact ih (session.move move).2

theorem told_append (session : Session) (first rest : List SessionMove) :
    session.told (first ++ rest) = session.told first ++ (session.after first).told rest := by
  induction first generalizing session with
  | nil => rfl
  | cons move first ih =>
    change _ ++ told _ (first ++ rest) = (_ ++ told _ first) ++ _
    rw [ih, List.append_assoc]
    rfl

theorem after_induction {P : Session → Prop} (h : ∀ session move, P session → P (session.move move).2)
    {session : Session} (start : P session) (moves : List SessionMove) : P (session.after moves) := by
  induction moves generalizing session with
  | nil => exact start
  | cons move moves ih => exact ih (h session move start)

/-! ### Initialization -/

/-- The configuration of an `init` and the providers that are made for it, before any is
installed. -/
def prepare (s : Surroundings) (cloud : Cloud) (source : ConfigSource) :
    Setup (Config × Option (Option MeterProvider × Option TracerProvider)) := do
  let config ← source.resolve s
  return (config, ← config.tryProviders cloud)

/-- All that an `init` can come to. -/
inductive Initialized (session : Session) (s : Surroundings) (cloud : Cloud)
    (source : ConfigSource) : Setup Unit × Session → Prop
  | ignored (configured : session.configured = true) :
    Initialized session s cloud source (Setup.log .alreadyInitialized, session)
  | failed (free : session.configured = false) (cause : Failure)
    (prepared : (prepare s cloud source).outcome = .error cause) :
    Initialized session s cloud source
      (⟨(prepare s cloud source).events, .error cause⟩, session)
  | disabled (free : session.configured = false) (config : Config)
    (prepared : (prepare s cloud source).outcome = .ok (config, none)) :
    Initialized session s cloud source
      (⟨(prepare s cloud source).events, .ok ()⟩, session.install none none)
  | installed (free : session.configured = false) (config : Config)
    (meter : Option MeterProvider) (tracer : Option TracerProvider)
    (prepared : (prepare s cloud source).outcome = .ok (config, some (meter, tracer))) :
    Initialized session s cloud source
      (⟨(prepare s cloud source).events ++
          [.log (.initialized config.serviceName meter.isSome tracer.isSome)], .ok ()⟩,
        session.install meter tracer)

theorem initialized_init (session : Session) (s : Surroundings) (cloud : Cloud)
    (source : ConfigSource) :
    Initialized session s cloud source (session.init s cloud source) := by
  unfold init
  split
  · exact .ignored ‹_›
  · have free := Bool.eq_false_iff.2 ‹¬ session.configured = true›
    dsimp only
    split
    · rename_i cause prepared
      exact .failed free cause prepared
    · rename_i config prepared
      exact .disabled free config prepared
    · rename_i config meter tracer prepared
      exact .installed free config meter tracer prepared

end Session

end CloudTelemetry
