import CloudTelemetry.Proofs.Config.Readings
import CloudTelemetry.Proofs.Config.Substitution

/-!
# Reading permissively

Permissively, what is wrong with an option is reported, and the option is replaced or kept. This
does not cover all that can go wrong: a number of seconds may be an integer beyond the range of
binary64, a variable may have a name that cannot be looked up, and a file of credentials may be
named by what is no path, or by a path at which nothing may be looked for. `read_permissively` tells
exactly which options come to a configuration; all others meet a defect, which is no error of
configuration.
-/

namespace CloudTelemetry

/-! ### References -/

theorem Surroundings.meetsDefects_lookUp (s : Surroundings) (name : Glyphs) :
    MeetsDefects (s.lookUp name) := by
  unfold lookUp
  split
  · exact .ok _
  · exact .ok _
  · rintro cause ⟨⟩
    exact ⟨_, rfl⟩

theorem reads_forM {α ε : Type} {legible : α → Prop} {f : α → Report ε Unit} {as : List α}
    (h : ∀ a ∈ as, Reads (legible a) (fun _ => True) (f a).outcome) :
    Reads (∀ a ∈ as, legible a) (fun _ => True) (as.forM f).outcome := by
  induction as with
  | nil => exact .holds nofun trivial
  | cons a as ih =>
    obtain ⟨ha, has⟩ := List.forall_mem_cons.1 h
    rw [Report.outcome_forM_cons, List.forall_mem_cons]
    exact ha.bind fun _ _ => ih has

namespace Options

/-- The mode is permissive, as it is forced or asked for. -/
def IsPermissive (forced : Option Mode) (options : Options) : Prop :=
  forced = some .permissive ∨ forced = none ∧
    (options.under "validation").value "mode" (.text Mode.permissive.name) ≠
      .text Mode.strict.name

/-- Every variable that is referred to can be looked up, and the search comes to an end. -/
structure Searchable (s : Surroundings) (options : Options) : Prop where
  known : ∀ name ∈ Value.referencesInEntries options, ∃ value, s.lookUp name = .ok value
  finite : .endless ∉ Value.obstaclesInEntries s.lookUp options

/-- What permissive reading asks of options. -/
structure Readable (s : Surroundings) (directory : Option Path) (options : Options) : Prop where
  references : options.Searchable s
  legible : Legible directory (Value.expandEntries s.lookUp options)
  credentials : s.CanFollow ((value (Value.expandEntries s.lookUp options) "credentials_file"
    .null).anchoredAt directory)

theorem mem_obstacles_unreadable {s : Surroundings} {options : Options} {cause : Failure} :
    .unreadable cause ∈ Value.obstaclesInEntries s.lookUp options ↔
      ∃ name ∈ Value.referencesInEntries options, s.lookUp name = .error cause := by
  have obstacles : .unreadable cause ∈ Value.obstacles s.lookUp (.map options) ↔ _ :=
    Value.mem_obstacles nofun
  simp only [Value.obstacles, Value.references] at obstacles
  rw [obstacles]
  refine exists_congr fun name => and_congr_right fun _ => ?_
  unfold Piece.obstacle?
  dsimp only
  split <;> simp [*]

theorem searchable_iff {s : Surroundings} {options : Options} :
    options.Searchable s ↔
      ∀ o ∈ Value.obstaclesInEntries s.lookUp options, ∃ name, o = .unknown name := by
  constructor
  · rintro ⟨known, finite⟩ o ho
    cases o with
    | unknown name => exact ⟨name, rfl⟩
    | endless => exact (finite ho).elim
    | unreadable cause =>
      obtain ⟨name, hn, failed⟩ := mem_obstacles_unreadable.1 ho
      obtain ⟨value, found⟩ := known name hn
      rw [failed] at found
      cases found
  · intro unknown
    refine ⟨fun name hn => ?_, fun endless => ?_⟩
    · cases found : s.lookUp name with
      | ok value => exact ⟨value, rfl⟩
      | error cause =>
        obtain ⟨other, ho⟩ := unknown _ (mem_obstacles_unreadable.2 ⟨name, hn, found⟩)
        cases ho
    · obtain ⟨name, ho⟩ := unknown _ endless
      cases ho

theorem exists_mode (validation : Options) : ∃ configured,
    (mode validation).outcome = .ok configured ∧ (configured = .strict ↔
      validation.value "mode" (.text Mode.permissive.name) = .text Mode.strict.name) := by
  by_cases strict : validation.value "mode" (.text Mode.permissive.name) = .text Mode.strict.name
  · exact ⟨.strict, outcome_mode_of_strict strict, iff_of_true rfl strict⟩
  · exact ⟨.permissive, outcome_mode_of_ne_strict strict, iff_of_false nofun strict⟩

end Options

namespace Config

variable {s : Surroundings} {directory : Option Path} {options : Options}

theorem reads_pass {o : Obstacle} (ho : o ∈ Value.obstaclesInEntries s.lookUp options) :
    Reads (∃ name, o = .unknown name) (fun _ => True) (pass .permissive o).outcome := by
  cases o with
  | unknown name => exact .holds ⟨name, rfl⟩ trivial
  | endless => exact .fails nofun ⟨_, rfl⟩
  | unreadable cause =>
    obtain ⟨name, -, failed⟩ := Options.mem_obstacles_unreadable.1 ho
    obtain ⟨d, rfl⟩ := s.meetsDefects_lookUp name cause failed
    exact .fails nofun ⟨_, rfl⟩

theorem reads_resume (s : Surroundings) (directory : Option Path) (options : Options) :
    Reads (options.Readable s directory) (fun config => config.mode = Mode.permissive.name)
      (resume s directory .permissive options).outcome := by
  have parts : options.Readable s directory ↔ _ ∧ _ ∧ _ :=
    ⟨fun h => ⟨h.references, h.legible, h.credentials⟩, fun h => ⟨h.1, h.2.1, h.2.2⟩⟩
  rw [parts, outcome_resume, Options.searchable_iff]
  refine (reads_forM fun o ho => reads_pass ho).bind fun _ _ =>
    (reads_read s directory .permissive _).bind fun config gives => ?_
  rw [outcome_checked_permissive, ← gives.credentials]
  have problems := reads_problems (s := s) gives.deadline gives.interval
  cases checked : config.problems s with
  | ok found => exact .holds (problems.exists_ok_iff.1 ⟨found, checked⟩) gives.mode
  | error cause =>
    rw [checked] at problems
    cases problems with
    | fails no failed => exact .fails no failed

theorem reads_permissively {forced : Option Mode} (permissive : options.IsPermissive forced) :
    Reads (options.Readable s directory) (fun config => config.mode = Mode.permissive.name)
      (ofEntries s directory forced options).outcome := by
  obtain ⟨configured, asked, strict⟩ := Options.exists_mode (options.under "validation")
  have mode : forced.getD configured = .permissive := by
    rcases permissive with rfl | ⟨rfl, other⟩
    · rfl
    · cases configured with
      | permissive => rfl
      | strict => exact (other (strict.1 rfl)).elim
  rw [outcome_ofEntries, asked]
  show Reads _ _ (resume s directory (forced.getD configured) options).outcome
  rw [mode]
  exact reads_resume s directory options

/-- Options that are read permissively come to a permissive configuration exactly if they are
readable. All others meet a defect. -/
theorem read_permissively {s : Surroundings} {options : Options} {forced : Option Mode}
    (permissive : options.IsPermissive forced) (directory : Option Path) :
    ((∃ config, (ofEntries s directory forced options).outcome = .ok config) ↔
      options.Readable s directory) ∧
    (∀ config, (ofEntries s directory forced options).outcome = .ok config →
      config.isStrict = false) ∧
    (¬ options.Readable s directory →
      ∃ d, (ofEntries s directory forced options).outcome = .error (.defect d)) := by
  have reads : Reads (options.Readable s directory) _ _ := reads_permissively permissive
  refine ⟨reads.exists_ok_iff, fun config read => ?_, fun unreadable => ?_⟩
  · rw [isStrict, reads.kind_of_ok read]
    rfl
  · obtain ⟨_, failed, d, rfl⟩ := reads.exists_error unreadable
    exact ⟨d, failed⟩

namespace Sample

def careless : Options :=
  [(.text "service", .map [(.text "name", .text "${SERVICE}")]),
    (.text "deadline_seconds", .text "soon"),
    (.text "metrics",
      .map [(.text "enabled", .text "perhaps"), (.text "export_interval_seconds", .null)]),
    (.text "trace", .text "all")]

theorem readable_careless : careless.Readable surroundings none where
  references := by
    refine ⟨fun name hn => ?_, fun endless => ?_⟩
    · obtain rfl := List.mem_singleton.1 (show name ∈ [Glyphs.ofString "SERVICE"] from hn)
      exact ⟨none, rfl⟩
    · cases List.mem_singleton.1
        (show Obstacle.endless ∈ [.unknown (Glyphs.ofString "SERVICE")] from endless)
  legible := ⟨nofun, trivial, trivial⟩
  credentials := nofun

/-- A service with a deadline beyond the range of binary64. -/
def patient : Options :=
  [(.text "service", .map [(.text "name", .text "checkout")]),
    (.text "deadline_seconds", .int Binary64.leastBeyond)]

end Sample

theorem read_permissively_careless :
    Sample.careless.IsPermissive none ∧
      ∃ config, (ofEntries Sample.surroundings none none Sample.careless).outcome = .ok config :=
  have permissive : Sample.careless.IsPermissive none :=
    .inr ⟨rfl, fun strict => absurd (Value.text.inj strict) (by decide)⟩
  ⟨permissive, (read_permissively permissive none).1.2 Sample.readable_careless⟩

theorem not_read_patient :
    Sample.patient.IsPermissive none ∧ ¬ ∃ config,
      (ofEntries Sample.surroundings none none Sample.patient).outcome = .ok config := by
  have permissive : Sample.patient.IsPermissive none :=
    .inr ⟨rfl, fun strict => absurd (Value.text.inj strict) (by decide)⟩
  refine ⟨permissive, fun read => ?_⟩
  have readable := (reads_permissively permissive).exists_ok_iff.1 read
  have deadline : (Value.int Binary64.leastBeyond).IsSeconds := readable.legible.deadline
  rw [Value.IsSeconds, Int.natAbs_natCast] at deadline
  exact Nat.lt_irrefl _ deadline

end Config

end CloudTelemetry
