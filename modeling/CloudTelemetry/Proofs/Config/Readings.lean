import CloudTelemetry.Proofs.Config.Modes
import CloudTelemetry.Proofs.Config.Options

/-!
# What a configuration is read to

A configuration that was read has numbers of seconds where its checks expect them. So the checks
come to an end wherever the file of credentials can be looked for, and say exactly whether the
configuration passes (`Config.reads_problems`).
-/

namespace CloudTelemetry

/-! ### The checks -/

def Binary64.IsPositive (x : Binary64) : Prop := (Place.ratio 0 1).lt x.place = true

/-- All but the positive numbers are at most zero, save what is no number. -/
theorem Binary64.le_zero_iff (x : Binary64) :
    x.place.le (.ratio 0 1) = true ↔ x ≠ .nan ∧ ¬ x.IsPositive := by
  unfold IsPositive
  cases x with
  | nan => simp [place, Place.le, Place.lt, Place.same]
  | infinite negative => cases negative <;> simp [place, Place.le, Place.lt, Place.same]
  | finite negative m e =>
    simp [place, Place.le, Place.lt, Place.same]
    omega

def IsDeadline (x : Binary64) : Prop :=
  x.IsPositive ∧ x.place.le (.ratio longestDeadline 1) = true

theorem reads_deadlineProblem (x : Binary64) :
    Reads True (fun problem => problem = none ↔ IsDeadline x) (deadlineProblem? (.float x)) := by
  have within : IsDeadline x ↔
      ((Place.ratio 0 1).lt x.place && x.place.le (.ratio longestDeadline 1)) = true := by
    rw [Bool.and_eq_true]
    rfl
  rw [within]
  change Reads _ _ (if _ then _ else _)
  split
  · rename_i yes
    exact .holds trivial (iff_of_true rfl yes)
  · rename_i no
    exact .holds trivial (iff_of_false nofun no)

theorem reads_intervalProblem (x : Binary64) :
    Reads True (fun problem => problem = none ↔ (x = .nan ∨ x.IsPositive))
      (intervalProblem? (.float x)) := by
  refine .holds trivial ?_
  split
  · rename_i low
    obtain ⟨number, least⟩ := x.le_zero_iff.1 low
    exact iff_of_false nofun fun h => h.elim number least
  · rename_i high
    rw [x.le_zero_iff, not_and_not_right] at high
    exact iff_of_true rfl (Classical.or_iff_not_imp_left.2 high)

variable (s : Surroundings)

theorem reads_credentialsProblem (file : Value) :
    Reads (s.CanFollow file) (fun problem => problem = none ↔ s.Finds file)
      (credentialsProblem? s file) := by
  unfold credentialsProblem? Surroundings.CanFollow Surroundings.Finds
  cases file.isPresent with
  | false => exact .holds nofun (iff_of_true rfl nofun)
  | true =>
    cases named : file.asPath with
    | error cause =>
      obtain ⟨d, rfl⟩ := file.meetsDefects_asPath cause named
      exact .fails (fun can => nomatch can rfl) ⟨_, rfl⟩
    | ok path =>
      show Reads _ _ (s.leads path >>= fun found => pure (if found then none else _))
      cases followed : s.leads path with
      | error cause =>
        obtain ⟨d, rfl⟩ := s.meetsDefects_leads path cause followed
        refine .fails (fun can => ?_) ⟨_, rfl⟩
        obtain ⟨_, found, ⟨⟩, leads⟩ := can rfl
        rw [followed] at leads
        cases leads
      | ok found =>
        refine .holds (fun _ => ⟨path, found, rfl, followed⟩) ?_
        cases found with
        | true => exact iff_of_true rfl fun _ => ⟨path, rfl, followed⟩
        | false =>
          refine iff_of_false nofun fun finds => ?_
          obtain ⟨_, ⟨⟩, leads⟩ := finds rfl
          rw [followed] at leads
          cases leads

namespace Config

/-- What the checks ask of a configuration. -/
structure Passes (s : Surroundings) (config : Config) : Prop where
  service : config.serviceName.isPresent = true
  deadline : ∃ x, config.deadline = .float x ∧ IsDeadline x
  interval : ∃ x, config.metrics.interval = .float x ∧ (x = .nan ∨ x.IsPositive)
  credentials : s.Finds config.credentialsFile

theorem serviceProblem?_eq_none_iff {config : Config} :
    config.serviceProblem? = none ↔ config.serviceName.isPresent = true := by
  unfold serviceProblem?
  split <;> simp [*]

theorem reads_problems {s : Surroundings} {config : Config} {deadline interval : Binary64}
    (hd : config.deadline = .float deadline) (hi : config.metrics.interval = .float interval) :
    Reads (s.CanFollow config.credentialsFile)
      (fun problems => problems = [] ↔ config.Passes s) (config.problems s) := by
  have passes : config.Passes s ↔ config.serviceProblem? = none ∧ IsDeadline deadline ∧
      (interval = .nan ∨ interval.IsPositive) ∧ s.Finds config.credentialsFile := by
    rw [serviceProblem?_eq_none_iff]
    constructor
    · rintro ⟨service, ⟨d, hd', deadline⟩, ⟨i, hi', interval⟩, credentials⟩
      cases hd.symm.trans hd'
      cases hi.symm.trans hi'
      exact ⟨service, deadline, interval, credentials⟩
    · rintro ⟨service, deadline, interval, credentials⟩
      exact ⟨service, ⟨_, hd, deadline⟩, ⟨_, hi, interval⟩, credentials⟩
  unfold problems
  rw [hd, hi, passes]
  refine ((reads_deadlineProblem deadline).bind fun d hd => (reads_intervalProblem interval).bind
    fun i hi => (reads_credentialsProblem s config.credentialsFile).bind fun c hc =>
      .holds trivial ?_).imp (by simp only [true_and, and_true]) fun _ => id
  rw [← hd, ← hi, ← hc]
  cases config.serviceProblem? <;> cases d <;> cases i <;> cases c <;> simp

end Config

/-! ### The whole -/

namespace Options

def interval (options : Options) : Value :=
  (options.under "metrics").value "export_interval_seconds" defaultInterval

/-- Options that can be read, of which no text refers to a variable. -/
structure Legible (directory : Option Path) (options : Options) : Prop where
  credentials : directory ≠ none → (options.value "credentials_file" .null).NamesPath
  deadline : (options.value "deadline_seconds" defaultDeadline).IsSeconds
  interval : options.interval.IsSeconds

/-- What a configuration takes from options that can be read. -/
structure Gives (directory : Option Path) (mode : Mode) (options : Options) (config : Config) :
    Prop where
  service : config.serviceName = (options.under "service").value "name" (.text "")
  credentials : config.credentialsFile =
    (options.value "credentials_file" .null).anchoredAt directory
  deadline : config.deadline =
    .float ((options.value "deadline_seconds" defaultDeadline).secondsOr (.ofInt 10))
  interval : config.metrics.interval = .float (options.interval.secondsOr (.ofInt 60))
  mode : config.mode = mode.name

end Options

namespace Config

theorem reads_metrics (options : Options) :
    Reads (options.value "export_interval_seconds" defaultInterval).IsSeconds
      (fun metrics => metrics.interval =
        .float ((options.value "export_interval_seconds" defaultInterval).secondsOr (.ofInt 60)))
      (readMetrics options).outcome := by
  obtain ⟨enabled, flag⟩ := Value.exists_flag (options.value "enabled" (.bool true))
    "metrics.enabled"
  obtain ⟨strategy, named⟩ := Value.exists_strategy
    (options.value "descriptor_strategy" (.text Strategy.sendOnce.name))
  unfold readMetrics
  simp only [Report.outcome_bind, Report.outcome_pure, flag, named]
  exact (Value.reads_seconds _ _ (.ofInt 60)).bind_pure fun interval h => h

theorem reads_trace (options : Options) :
    Reads True (fun _ => True) (readTrace options).outcome := by
  obtain ⟨enabled, flag⟩ := Value.exists_flag (options.value "enabled" (.bool true))
    "trace.enabled"
  obtain ⟨batch, flag'⟩ := Value.exists_flag (options.value "batch" (.bool true)) "trace.batch"
  unfold readTrace
  simp only [Report.outcome_bind, Report.outcome_pure, flag, flag']
  exact .holds trivial trivial

theorem reads_read (s : Surroundings) (directory : Option Path) (mode : Mode)
    (options : Options) :
    Reads (options.Legible directory) (options.Gives directory mode)
      (read s directory mode options).outcome := by
  unfold read
  simp only [Report.outcome_bind, Report.outcome_pure, Options.outcome_below]
  refine ((Value.reads_credentialsFile _ directory).bind fun file hf =>
    (Value.reads_seconds _ _ (.ofInt 10)).bind fun deadline hd => (reads_metrics _).bind
      fun metrics hm => (reads_trace _).bind_pure fun trace _ => ?_).imp ?_ fun _ => id
  · exact ⟨rfl, hf, hd, hm, rfl⟩
  · constructor
    · rintro ⟨credentials, deadline, interval, -⟩
      exact ⟨credentials, deadline, interval⟩
    · rintro ⟨credentials, deadline, interval⟩
      exact ⟨credentials, deadline, interval, trivial⟩

end Config

end CloudTelemetry
