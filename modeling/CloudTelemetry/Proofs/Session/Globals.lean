import CloudTelemetry.Proofs.Session.Leaks

/-!
# Global providers

A process keeps the first provider of a signal that it is given as the global one, whatever becomes
of that provider (`Tidy.globalOf_after`), while a session stores the providers of its last `init`.
So an `init` that comes after a shutdown puts a new provider into effect only for a signal that
never had one; for any other, the global provider is one that has been taken down (`reconfigures`).
-/

namespace CloudTelemetry

/-! ### Places that keep what they are given first -/

/-- A place for one provider: the first that it is given stays there. -/
structure FirstKept (σ : Type) where
  held : σ → Option Nat
  give : σ → Nat → σ
  takes : ∀ state serial, held state = none → held (give state serial) = some serial
  keeps : ∀ state first serial, held state = some first → held (give state serial) = some first

theorem FirstKept.held_foldl {σ : Type} (place : FirstKept σ) (state : σ) (serials : List Nat) :
    place.held (serials.foldl place.give state) = (place.held state).or serials.head? := by
  induction serials generalizing state with
  | nil => exact (Option.or_none).symm
  | cons serial serials ih =>
    rw [List.foldl_cons, ih, List.head?_cons]
    cases held : place.held state with
    | none => rw [place.takes state serial held, Option.some_or, Option.none_or]
    | some first => rw [place.keeps state first serial held, Option.some_or, Option.some_or]

def serialsOf (signal : Signal) (providers : List (Signal × Nat)) : List Nat :=
  (providers.filter fun p => p.1 = signal).map Prod.snd

theorem serialsOf_append (signal : Signal) (first rest : List (Signal × Nat)) :
    serialsOf signal (first ++ rest) = serialsOf signal first ++ serialsOf signal rest := by
  unfold serialsOf
  rw [List.filter_append, List.map_append]

theorem mem_serialsOf {signal : Signal} {providers : List (Signal × Nat)} {serial : Nat} :
    serial ∈ serialsOf signal providers ↔ (signal, serial) ∈ providers := by
  unfold serialsOf
  simp

/-! ### Signals of a configuration -/

namespace Config

def enables (config : Config) : Signal → Bool
  | .metrics => config.metrics.enabled
  | .trace => config.trace.enabled

section
variable {config : Config} {cloud : Cloud}

theorem exists_of_meterProvider {meter : Option MeterProvider}
    (made : (config.meterProvider cloud).outcome = .ok meter)
    (enabled : config.metrics.enabled = true) : ∃ provider, meter = some provider := by
  unfold meterProvider at made
  rw [if_pos enabled] at made
  simp only [Report.outcome_bind, Report.outcome_ofExcept, Report.outcome_pure] at made
  obtain ⟨equipment, -, made⟩ := bind_eq_ok made
  obtain ⟨interval, -, made⟩ := bind_eq_ok made
  obtain ⟨timeout, -, made⟩ := bind_eq_ok made
  obtain ⟨_, -, made⟩ := bind_eq_ok made
  exact ⟨_, (Except.ok.inj made).symm⟩

theorem exists_of_tracerProvider {tracer : Option TracerProvider}
    (made : (config.tracerProvider cloud).outcome = .ok tracer)
    (enabled : config.trace.enabled = true) : ∃ provider, tracer = some provider := by
  unfold tracerProvider at made
  rw [if_pos enabled] at made
  simp only [Report.outcome_bind, Report.outcome_pure] at made
  obtain ⟨equipment, -, made⟩ := bind_eq_ok made
  exact ⟨_, (Except.ok.inj made).symm⟩

end

end Config

namespace Session

/-! ### Providers by signal -/

def globalOf (session : Session) : Signal → Option Nat
  | .metrics => session.globalMeter
  | .trace => session.globalTracer

def serialOf (session : Session) : Signal → Option Nat
  | .metrics => session.meter.map Installed.serial
  | .trace => session.tracer.map Installed.serial

/-- The session stores a provider of the signal, and that is the global one. -/
def InEffect (session : Session) (signal : Signal) : Prop :=
  ∃ serial, session.serialOf signal = some serial ∧ session.globalOf signal = some serial

section
variable {session : Session} {signal : Signal}

theorem serialsOf_providers (session : Session) (signal : Signal) :
    serialsOf signal session.providers = (session.serialOf signal).toList := by
  obtain ⟨configured, meter, tracer, globalMeter, globalTracer, serials, exitHooks⟩ := session
  cases signal <;> cases meter <;> cases tracer <;> rfl

theorem globalOf_install (session : Session) (meter : Option MeterProvider)
    (tracer : Option TracerProvider) (signal : Signal) :
    (session.install meter tracer).globalOf signal =
      (session.globalOf signal).or ((session.install meter tracer).serialOf signal) := by
  cases signal with
  | metrics => cases meter <;> rfl
  | trace => cases tracer <;> rfl

theorem serial_bounds {providers : List (Signal × Nat)} {least : Nat}
    (fresh : providers.Sublist [(.metrics, least), (.trace, least + 1)]) {p : Signal × Nat}
    (h : p ∈ providers) : least ≤ p.2 ∧ p.2 < least + 2 := by
  have h := fresh.subset h
  simp only [List.mem_cons, List.not_mem_nil, or_false] at h
  rcases h with rfl | rfl <;> dsimp only <;> omega

theorem serials_le_of_install {meter : Option MeterProvider} {tracer : Option TracerProvider}
    {serial : Nat} (h : (session.install meter tracer).serialOf signal = some serial) :
    session.serials ≤ serial := by
  have stored : (signal, serial) ∈ (session.install meter tracer).providers := by
    rw [← mem_serialsOf, serialsOf_providers, h]
    exact List.mem_singleton_self serial
  exact (serial_bounds (session.providers_install meter tracer) stored).1

theorem Tidy.serialOf_eq_none (h : session.Tidy) (free : session.configured = false) :
    session.serialOf signal = none := by
  obtain ⟨meter, tracer⟩ := providers_eq_nil_iff.1 (h free)
  cases signal with
  | metrics => exact Option.map_eq_none_iff.2 meter
  | trace => exact Option.map_eq_none_iff.2 tracer

end

/-! ### Moves -/

theorem initOn_eq (session : Session) (s : Surroundings) (terms : Signal → Terms)
    (source : ConfigSource) :
    (session.initOn s terms source).2 = session ∨
      ∃ meter tracer, (session.initOn s terms source).2 = session.install meter tracer := by
  unfold initOn settle
  split
  · exact .inl rfl
  · split
    · exact .inl rfl
    · exact .inr ⟨none, none, rfl⟩
    · exact .inr ⟨_, _, rfl⟩

section
variable {session : Session}

theorem Tidy.globalOf_initOn (h : session.Tidy) (free : session.configured = false)
    (s : Surroundings) (terms : Signal → Terms) (source : ConfigSource) (signal : Signal) :
    (session.initOn s terms source).2.globalOf signal =
      (session.globalOf signal).or ((session.initOn s terms source).2.serialOf signal) := by
  rcases session.initOn_eq s terms source with same | ⟨meter, tracer, installed⟩
  · rw [same, h.serialOf_eq_none free, Option.or_none]
  · rw [installed, globalOf_install]

theorem breakdown_keeps (session : Session) (signal : Signal) (message : String) :
    (session.move (.breakdown signal message)).2.providers = session.providers ∧
    (session.move (.breakdown signal message)).2.globalOf = session.globalOf := by
  obtain ⟨configured, meter, tracer, globalMeter, globalTracer, serials, exitHooks⟩ := session
  cases signal with
  | metrics => cases meter <;> exact ⟨rfl, rfl⟩
  | trace => cases tracer <;> exact ⟨rfl, rfl⟩

/-- A move makes the first provider of a signal that it installs the global one, unless there is one
already. -/
theorem Tidy.globalOf_move (h : session.Tidy) (move : SessionMove) (signal : Signal) :
    (session.move move).2.globalOf signal =
      (session.globalOf signal).or (serialsOf signal (session.installs move)).head? := by
  -- all moves but an `init` that is not ignored leave the global providers as they are
  have idle (nothing : session.installs move = [])
      (same : (session.move move).2.globalOf = session.globalOf) :
      (session.move move).2.globalOf signal =
        (session.globalOf signal).or (serialsOf signal (session.installs move)).head? := by
    rw [nothing, same]
    exact Option.or_none.symm
  cases configured : session.configured with
  | true =>
    refine idle (installs_of_configured configured move) ?_
    cases move with
    | init s cloud source =>
      change (session.init s cloud source).2.globalOf = _
      rw [(session.initialized_init s cloud source).eq_of_configured configured]
    | shutdown => rfl
    | breakdown signal message => exact (session.breakdown_keeps signal message).2
  | false =>
    cases move with
    | init s cloud source =>
      rw [installs_of_free configured, serialsOf_providers, Option.head?_toList]
      have made := h.globalOf_initOn configured s (fun _ => .plain cloud) source signal
      rw [initOn_plain] at made
      exact made
    | shutdown => exact idle (installs_of_free configured _) rfl
    | breakdown other message =>
      obtain ⟨providers, globals⟩ := session.breakdown_keeps other message
      refine idle ?_ globals
      rw [installs_of_free configured, providers, h configured]

/-- Only the first provider of a signal is ever made global. -/
theorem Tidy.globalOf_after (h : session.Tidy) (moves : List SessionMove) (signal : Signal) :
    (session.after moves).globalOf signal =
      (session.globalOf signal).or (serialsOf signal (session.installed moves)).head? := by
  induction moves generalizing session with
  | nil => exact Option.or_none.symm
  | cons move moves ih =>
    change ((session.move move).2.after moves).globalOf signal =
      (session.globalOf signal).or (serialsOf signal (session.installs move ++ _)).head?
    rw [ih (h.move move), h.globalOf_move move, serialsOf_append, List.head?_append,
      Option.or_assoc]

theorem Tidy.serials_after (h : session.Tidy) (moves : List SessionMove) :
    session.serials ≤ (session.after moves).serials ∧
      ∀ p ∈ session.installed moves, p.2 < (session.after moves).serials := by
  induction moves generalizing session with
  | nil => exact ⟨Nat.le_refl _, nofun⟩
  | cons move moves ih =>
    obtain ⟨grown, used⟩ := ih (h.move move)
    change _ ≤ ((session.move move).2.after moves).serials ∧
      ∀ p ∈ session.installs move ++ _, p.2 < ((session.move move).2.after moves).serials
    rcases h.installs_cases move with ⟨nothing, same⟩ | ⟨fresh, next⟩
    · rw [nothing, List.nil_append, ← same]
      exact ⟨grown, used⟩
    · rw [next] at grown
      refine ⟨by omega, fun p hp => ?_⟩
      rcases List.mem_append.1 hp with hp | hp
      · exact Nat.lt_of_lt_of_le (serial_bounds fresh hp).2 grown
      · exact used p hp

/-! ### Calls of `init` that are not ignored -/

variable {s : Surroundings} {terms : Signal → Terms} {source : ConfigSource} {config : Config}
  {signal : Signal}

theorem exists_serialOf_install {meter : Option MeterProvider} {tracer : Option TracerProvider}
    (made : (config.providersOn terms).outcome = .ok (meter, tracer))
    (enabled : config.enables signal = true) :
    ∃ serial, (session.install meter tracer).serialOf signal = some serial := by
  obtain ⟨first, second⟩ := Config.outcomes_of_providersOn made
  cases signal with
  | metrics =>
    have found := Terms.outcome_of_assembled first
    obtain ⟨provider, rfl⟩ := Config.exists_of_meterProvider found enabled
    exact ⟨_, rfl⟩
  | trace =>
    have found := Terms.outcome_of_assembled second
    obtain ⟨provider, rfl⟩ := Config.exists_of_tracerProvider found enabled
    exact ⟨_, rfl⟩

theorem Tidy.inEffect_initOn_iff (h : session.Tidy) (free : session.configured = false)
    (older : ∀ serial, session.globalOf signal = some serial → serial < session.serials)
    (resolved : (source.resolve s).outcome = .ok config) (enabled : config.enables signal = true) :
    (session.initOn s terms source).2.InEffect signal ↔
      (∃ made, (config.providersOn terms).outcome = .ok made) ∧
        session.globalOf signal = none := by
  cases made : (config.providersOn terms).outcome with
  | error cause =>
    refine iff_of_false ?_ fun both => nomatch both.1
    rintro ⟨serial, stored, -⟩
    rcases initOn_of_error free resolved made with next | next
    · rw [next] at stored
      cases signal <;> cases stored
    · rw [next, h.serialOf_eq_none free] at stored
      cases stored
  | ok providers =>
    obtain ⟨meter, tracer⟩ := providers
    obtain ⟨serial, stored⟩ : ∃ serial,
        (session.install meter tracer).serialOf signal = some serial :=
      exists_serialOf_install made enabled
    rw [initOn_of_ok free resolved made]
    unfold InEffect
    rw [globalOf_install, stored]
    cases global : session.globalOf signal with
    | none => exact iff_of_true ⟨serial, rfl, rfl⟩ ⟨⟨_, rfl⟩, rfl⟩
    | some first =>
      -- serials only grow, so what has been made now is not the one that is global
      refine iff_of_false ?_ fun both => nomatch both.2
      rintro ⟨_, same, kept⟩
      obtain rfl := Option.some.inj same
      obtain rfl := Option.some.inj kept
      have used := older first global
      have fresh := serials_le_of_install stored
      omega

end

/-- What an `init` that is not ignored comes to for a signal that is enabled, after these moves. -/
structure Reconfigures (moves : List SessionMove) (config : Config) (terms : Signal → Terms)
    (signal : Signal) (next : Session) : Prop where
  /-- The providers that are made are stored. -/
  stored : ∀ meter tracer, (config.providersOn terms).outcome = .ok (meter, tracer) →
    next = (initial.after moves).install meter tracer
  inEffect : next.InEffect signal ↔ (∃ made, (config.providersOn terms).outcome = .ok made) ∧
    ∀ serial, (signal, serial) ∉ initial.installed moves
  /-- A global provider that is there already stays, and it has been taken down. -/
  stale : ∀ serial, (initial.after moves).globalOf signal = some serial →
    next.globalOf signal = some serial ∧ (signal, serial) ∈ takings (initial.told moves)
  /-- Any place that keeps the first provider that it is given holds the global one. -/
  kept : ∀ (σ : Type) (place : FirstKept σ) (state : σ), place.held state = none →
    place.held ((serialsOf signal (initial.installed moves) ++
      (next.serialOf signal).toList).foldl place.give state) = next.globalOf signal

section
variable {moves : List SessionMove} {signal : Signal}

theorem globalOf_after (moves : List SessionMove) (signal : Signal) :
    (initial.after moves).globalOf signal =
      (serialsOf signal (initial.installed moves)).head? := by
  rw [tidy_initial.globalOf_after]
  cases signal <;> exact Option.none_or

theorem globalOf_after_eq_none_iff : (initial.after moves).globalOf signal = none ↔
    ∀ serial, (signal, serial) ∉ initial.installed moves := by
  rw [globalOf_after, List.head?_eq_none_iff, List.eq_nil_iff_forall_not_mem]
  simp only [mem_serialsOf]

theorem mem_installed_of_globalOf {serial : Nat}
    (h : (initial.after moves).globalOf signal = some serial) :
    (signal, serial) ∈ initial.installed moves := by
  rw [globalOf_after] at h
  exact mem_serialsOf.1 (List.mem_of_head? h)

theorem mem_takings_of_free (free : (initial.after moves).configured = false) {p : Signal × Nat}
    (h : p ∈ initial.installed moves) : p ∈ takings (initial.told moves) := by
  rw [installed_eq, tidy_after moves free, List.append_nil] at h
  exact h

end

/-- However a session has been used: an `init` that is not ignored puts the provider of a signal
that is enabled into effect exactly if the providers can be made and there has never been one of
that signal. Otherwise the first one stays the global one, although it has been taken down. -/
theorem reconfigures (moves : List SessionMove) (free : (initial.after moves).configured = false)
    {s : Surroundings} {source : ConfigSource} {config : Config}
    (resolved : (source.resolve s).outcome = .ok config) {signal : Signal}
    (enabled : config.enables signal = true) :
    (∀ terms, Reconfigures moves config terms signal
      ((initial.after moves).initOn s terms source).2) ∧
    ∀ cloud, Reconfigures moves config (fun _ => .plain cloud) signal
      ((initial.after moves).init s cloud source).2 := by
  have tidy := tidy_after moves
  have each (terms : Signal → Terms) : Reconfigures moves config terms signal
      ((initial.after moves).initOn s terms source).2 := by
    have global := tidy.globalOf_initOn free s terms source signal
    refine ⟨fun meter tracer made => initOn_of_ok free resolved made, ?inEffect, ?stale, ?kept⟩
    case inEffect =>
      rw [← globalOf_after_eq_none_iff]
      refine tidy.inEffect_initOn_iff free (fun serial there => ?_) resolved enabled
      exact (tidy_initial.serials_after moves).2 _ (mem_installed_of_globalOf there)
    case stale =>
      intro serial there
      rw [global, there]
      exact ⟨rfl, mem_takings_of_free free (mem_installed_of_globalOf there)⟩
    case kept =>
      intro σ place state empty
      rw [place.held_foldl, empty, Option.none_or, List.head?_append, Option.head?_toList,
        ← globalOf_after, global]
  refine ⟨each, fun cloud => ?_⟩
  rw [← initOn_plain]
  exact each fun _ => .plain cloud

namespace Sample

def metricsOnly : List SessionMove :=
  [.init Config.Sample.surroundings Config.Sample.openCloud
    (.given { checkout with trace := { enabled := false } }), .shutdown]

def twice : List SessionMove := [start (.text "checkout"), .shutdown]

end Sample

/-- After a session with metrics alone, traces take effect and metrics do not. -/
theorem reconfigures_metricsOnly :
    let next := ((initial.after Sample.metricsOnly).init Config.Sample.surroundings
      Config.Sample.openCloud (.given Sample.checkout)).2
    next.InEffect .trace ∧ ¬ next.InEffect .metrics := by
  have installed : initial.installed Sample.metricsOnly = [(.metrics, 0)] := by
    with_unfolding_all rfl
  obtain ⟨made, providers⟩ : ∃ made, (Sample.checkout.providersOn
      fun _ => .plain Config.Sample.openCloud).outcome = .ok made :=
    ⟨_, by with_unfolding_all rfl⟩
  have resolved : ((ConfigSource.given Sample.checkout).resolve
      Config.Sample.surroundings).outcome = .ok Sample.checkout := rfl
  have enabled (signal : Signal) : Sample.checkout.enables signal = true := by cases signal <;> rfl
  have trace := (reconfigures Sample.metricsOnly rfl resolved (enabled .trace)).2
    Config.Sample.openCloud
  have metrics := (reconfigures Sample.metricsOnly rfl resolved (enabled .metrics)).2
    Config.Sample.openCloud
  refine ⟨trace.inEffect.2 ⟨⟨made, providers⟩, ?_⟩, fun inEffect => ?_⟩
  · rw [installed]
    simp
  · refine (metrics.inEffect.1 inEffect).2 0 ?_
    rw [installed]
    exact List.mem_singleton_self _

/-- A second `init` after a shutdown stores its providers, and those of the first stay the global
ones. -/
theorem not_reconfigured :
    (initial.after Sample.twice).configured = false ∧
    ((initial.after Sample.twice).move (Sample.start (.text "checkout"))).1.outcome = .ok () ∧
    ∀ signal, (Sample.config (.text "checkout")).enables signal = true ∧
      ∃ first second, first ≠ second ∧
        ((initial.after Sample.twice).move (Sample.start (.text "checkout"))).2.globalOf signal =
          some first ∧
        ((initial.after Sample.twice).move (Sample.start (.text "checkout"))).2.serialOf signal =
          some second := by
  refine ⟨rfl, by with_unfolding_all rfl, fun signal => ?_⟩
  cases signal with
  | metrics =>
    refine ⟨rfl, 0, 2, by decide, ?_, ?_⟩ <;> with_unfolding_all rfl
  | trace =>
    refine ⟨rfl, 1, 3, by decide, ?_, ?_⟩ <;> with_unfolding_all rfl

end Session

end CloudTelemetry
