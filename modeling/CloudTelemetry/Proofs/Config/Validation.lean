import CloudTelemetry.Proofs.Config.Readings
import CloudTelemetry.Proofs.Config.Substitution

/-!
# What strict reading guarantees

A configuration that is read strictly has a service, a deadline within its bounds and a file of
credentials that is there, if it names one. Its interval between exports is positive or no number at
all: the check refuses what is at most zero, and what is no number is not. So the configuration is
sound exactly if the interval is not given as one (`sound_of_strict`).
-/

namespace CloudTelemetry

theorem Value.secondsOr_eq_nan_iff (v : Value) {default : Binary64} (number : default ≠ .nan) :
    v.secondsOr default = .nan ↔ v.toBinary64 = .ok .nan := by
  unfold secondsOr
  cases v.toBinary64 with
  | ok x => exact ⟨congrArg _, Except.ok.inj⟩
  | error cause => exact iff_of_false number nofun

namespace Config

/-- What a configuration has to be like for its exports to work. -/
structure IsSound (s : Surroundings) (config : Config) : Prop where
  service : config.serviceName.isPresent = true
  deadline : ∃ x, config.deadline = .float x ∧ IsDeadline x
  interval : ∃ x, config.metrics.interval = .float x ∧ x.IsPositive
  credentials : s.Finds config.credentialsFile

theorem Passes.isSound_iff {s : Surroundings} {config : Config} (h : config.Passes s) :
    config.IsSound s ↔ config.metrics.interval ≠ .float .nan := by
  obtain ⟨service, deadline, ⟨x, hx, interval⟩, credentials⟩ := h
  constructor
  · rintro ⟨-, -, ⟨y, hy, positive⟩, -⟩ none
    cases hy.symm.trans none
    cases positive
  · intro some
    refine ⟨service, deadline, ⟨x, hx, interval.resolve_left ?_⟩, credentials⟩
    rintro rfl
    exact some hx

variable {s : Surroundings} {directory : Option Path} {options : Options} {config : Config}

theorem passes_of_resume (h : (resume s directory .strict options).outcome = .ok config) :
    Options.Gives directory .strict (Value.expandEntries s.lookUp options) config ∧
      config.Passes s := by
  rw [outcome_resume] at h
  obtain ⟨⟨⟩, -, h⟩ := bind_eq_ok h
  obtain ⟨read, hr, h⟩ := bind_eq_ok h
  have gives := (reads_read s directory .strict _).kind_of_ok hr
  obtain ⟨rfl, -⟩ := eq_of_checked h
  rw [outcome_checked_strict] at h
  obtain ⟨problems, found, h⟩ := bind_eq_ok h
  split at h
  · rename_i none
    exact ⟨gives, ((reads_problems gives.deadline gives.interval).kind_of_ok found).1 none⟩
  · cases h

/-- A configuration is strict if strictness is forced, and passes the checks if it is strict. Then
it is sound, unless the interval between exports is given as what is no number. -/
theorem sound_of_strict {forced : Option Mode}
    (h : (ofEntries s directory forced options).outcome = .ok config) :
    (forced = some .strict → config.isStrict = true) ∧
    (config.isStrict = true → config.Passes s ∧
      (config.IsSound s ↔
        (Options.interval (Value.expandEntries s.lookUp options)).toBinary64 ≠ .ok .nan)) := by
  rw [outcome_ofEntries] at h
  obtain ⟨configured, -, h⟩ := bind_eq_ok h
  have mode := mode_of_resume h
  constructor
  · rintro rfl
    rw [isStrict, mode]
    rfl
  · intro strict
    have forced : forced.getD configured = .strict := by
      rw [isStrict, mode, beq_iff_eq] at strict
      revert strict
      cases forced.getD configured <;> decide
    rw [forced] at h
    obtain ⟨gives, passes⟩ := passes_of_resume h
    refine ⟨passes, ?_⟩
    have number : Binary64.ofInt 60 ≠ .nan := by decide
    rw [passes.isSound_iff, gives.interval, ne_eq, Value.float.injEq,
      Value.secondsOr_eq_nan_iff _ number]

namespace Sample

def timed (interval : String) : Options :=
  [(.text "service", .map [(.text "name", .text "checkout")]),
    (.text "metrics", .map [(.text "export_interval_seconds", .text interval)])]

end Sample

theorem sound_of_strict_inf :
    ∃ config, (ofEntries Sample.surroundings none (some .strict) (Sample.timed "inf")).outcome =
      .ok config ∧ config.IsSound Sample.surroundings := by
  let config : Config :=
    { serviceName := .text "checkout"
      metrics := { interval := .float (.infinite false) }
      mode := Mode.strict.name }
  have read : (ofEntries Sample.surroundings none (some .strict) (Sample.timed "inf")).outcome =
      .ok config := by
    with_unfolding_all rfl
  have given : (Options.interval (Value.expandEntries Sample.surroundings.lookUp
      (Sample.timed "inf"))).toBinary64 = .ok (.infinite false) := by
    with_unfolding_all rfl
  refine ⟨config, read, ((sound_of_strict read).2 rfl).2.2 ?_⟩
  rw [given]
  nofun

theorem not_sound_of_strict :
    ∃ config, (ofEntries Sample.surroundings none (some .strict) (Sample.timed "nan")).outcome =
      .ok config ∧ config.isStrict = true ∧ ¬ config.IsSound Sample.surroundings := by
  refine ⟨{ serviceName := .text "checkout"
            metrics := { interval := .float .nan }
            mode := Mode.strict.name }, ?_, rfl, ?_⟩
  · with_unfolding_all rfl
  · rintro ⟨-, -, ⟨x, hx, positive⟩, -⟩
    cases hx
    cases positive

end Config

end CloudTelemetry
