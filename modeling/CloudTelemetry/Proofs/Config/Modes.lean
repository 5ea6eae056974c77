import CloudTelemetry.Config.Reading
import CloudTelemetry.Proofs.Config.References

/-!
# The two modes of reading a configuration

In both modes a configuration is read from its options in the same way. Only what they make of a
reference to an unknown variable, and of what the checks find, tells them apart: strictly it is an
error, permissively it is passed over. So what can be read permissively is read to the same
configuration strictly, or it is an error of configuration (`strict_of_permissive`).
-/

namespace CloudTelemetry

/-! ### Sections -/

def Value.entries : Value → List (Value × Value)
  | .map entries => entries
  | _ => []

def Options.under (options : Options) (name : String) : Options :=
  (options.value name .null).entries

/-- Whether some text among the values of the options refers to a variable without a value. -/
def Options.RefersToUnset (s : Surroundings) (options : Options) : Prop :=
  ∃ name ∈ Value.referencesInEntries options, s.lookUp name = .ok none

theorem Options.outcome_below (options : Options) (name : String) :
    (options.below name).outcome = .ok (options.under name) := by
  unfold below under
  cases options.value name .null with
  | map entries =>
    cases entries <;> rfl
  | text s | bool | int | float | bytes | list | tuple | set =>
    dsimp only
    split <;> rfl
  | null | broken | moment | enclosing => rfl

namespace Config

section
variable {s : Surroundings} {directory : Option Path} {options : Options} {mode : Mode}

/-- The rest of reading a configuration, once its mode is known. -/
def resume (s : Surroundings) (directory : Option Path) (mode : Mode) (options : Options) :
    Report LogEntry Config := do
  let options ← expandOptions s mode options
  checked s mode (← read s directory mode options)

theorem outcome_ofEntries (forced : Option Mode) :
    (ofEntries s directory forced options).outcome =
      (Options.mode (options.under "validation")).outcome >>= fun configured =>
        (resume s directory (forced.getD configured) options).outcome := by
  unfold ofEntries
  rw [Report.outcome_bind, Options.outcome_below]
  change Report.outcome (_ >>= _) = _
  rw [Report.outcome_bind]
  rfl

def withMode (mode : Mode) (config : Config) : Config := { config with mode := mode.name }

theorem problems_withMode (s : Surroundings) (mode : Mode) (config : Config) :
    (config.withMode mode).problems s = config.problems s := rfl

theorem outcome_read (s : Surroundings) (directory : Option Path) (mode : Mode)
    (options : Options) :
    (read s directory mode options).outcome =
      withMode mode <$> (read s directory .permissive options).outcome := by
  unfold read
  simp only [Report.outcome_bind, Report.outcome_pure, map_bind]
  rfl

theorem mode_of_read {config : Config} (h : (read s directory mode options).outcome = .ok config) :
    config.mode = mode.name := by
  rw [outcome_read] at h
  obtain ⟨c, -, h⟩ := bind_eq_ok h
  cases h
  rfl

/-! ### What the modes make of it -/

theorem outcome_checked_permissive (s : Surroundings) (config : Config) :
    (checked s .permissive config).outcome = (config.problems s).map fun _ => config := by
  unfold checked
  rw [Report.outcome_bind, Report.outcome_ofExcept]
  rcases config.problems s with cause | (_ | ⟨problem, problems⟩) <;> rfl

theorem outcome_checked_strict (s : Surroundings) (config : Config) :
    (checked s .strict config).outcome = config.problems s >>= fun problems =>
      if problems = [] then .ok config else .error (.configuration (.problems problems)) := by
  unfold checked
  rw [Report.outcome_bind, Report.outcome_ofExcept]
  rcases config.problems s with cause | (_ | ⟨problem, problems⟩) <;> rfl

theorem eq_of_checked {config checkedConfig : Config}
    (h : (checked s mode config).outcome = .ok checkedConfig) :
    checkedConfig = config ∧ ∃ problems, config.problems s = .ok problems := by
  cases mode with
  | permissive =>
    rw [outcome_checked_permissive] at h
    cases found : config.problems s with
    | error => rw [found] at h; cases h
    | ok problems => rw [found] at h; exact ⟨(Except.ok.inj h).symm, problems, rfl⟩
  | strict =>
    rw [outcome_checked_strict] at h
    obtain ⟨problems, found, h⟩ := bind_eq_ok h
    split at h
    · exact ⟨(Except.ok.inj h).symm, problems, found⟩
    · cases h

theorem passed_iff {obstacles : List Obstacle} :
    (obstacles.forM (pass .permissive)).outcome = .ok () ↔
      ∀ o ∈ obstacles, ∃ name, o = .unknown name := by
  rw [Report.outcome_forM_eq_ok_iff]
  refine forall₂_congr fun o _ => ?_
  cases o with
  | unknown name => exact ⟨fun _ => ⟨name, rfl⟩, fun _ => rfl⟩
  | unreadable | endless => exact ⟨nofun, nofun⟩

theorem outcome_resume (s : Surroundings) (directory : Option Path) (mode : Mode)
    (options : Options) :
    (resume s directory mode options).outcome =
      ((Value.obstaclesInEntries s.lookUp options).forM (pass mode)).outcome >>= fun _ =>
        (read s directory mode (Value.expandEntries s.lookUp options)).outcome >>= fun config =>
          (checked s mode config).outcome := by
  unfold resume expandOptions
  simp only [Report.outcome_bind, Report.outcome_pure, bind_assoc]
  rfl

theorem refersToUnset_iff :
    options.RefersToUnset s ↔
      ∃ name, .unknown name ∈ Value.obstaclesInEntries s.lookUp options := by
  have obstacles (name : Glyphs) :
      .unknown name ∈ Value.obstacles s.lookUp (.map options) ↔ _ :=
    Value.mem_obstacles (by rintro ⟨⟩)
  simp only [Value.obstacles, Value.references] at obstacles
  constructor
  · rintro ⟨name, hn, unset⟩
    exact ⟨name, (obstacles name).2 ⟨name, hn, by rw [Piece.obstacle?, unset]⟩⟩
  · rintro ⟨name, ho⟩
    obtain ⟨other, hn, ho⟩ := (obstacles name).1 ho
    refine ⟨other, hn, ?_⟩
    unfold Piece.obstacle? at ho
    dsimp only at ho
    split at ho
    · cases ho
    · assumption
    · cases ho

theorem outcome_strict {config : Config}
    (h : (ofEntries s directory (some .permissive) options).outcome = .ok config) :
    ∃ problems, config.problems s = .ok problems ∧
      (options.RefersToUnset s → ∃ name,
        (ofEntries s directory (some .strict) options).outcome =
          .error (.configuration (.variableUnset name))) ∧
      (¬ options.RefersToUnset s →
        (ofEntries s directory (some .strict) options).outcome =
          if problems = [] then .ok (config.withMode .strict)
          else .error (.configuration (.problems problems))) := by
  rw [outcome_ofEntries] at h ⊢
  obtain ⟨configured, hm, h⟩ := bind_eq_ok h
  rw [Option.getD_some, outcome_resume] at h
  obtain ⟨⟨⟩, passed, h⟩ := bind_eq_ok h
  obtain ⟨read, hr, h⟩ := bind_eq_ok h
  obtain ⟨rfl, problems, hp⟩ := eq_of_checked h
  refine ⟨problems, hp, ?_⟩
  rw [hm]
  change (_ → ∃ name, (resume s directory .strict options).outcome = _) ∧
    (_ → (resume s directory .strict options).outcome = _)
  rw [outcome_resume, refersToUnset_iff]
  cases obstacles : Value.obstaclesInEntries s.lookUp options with
  | nil =>
    refine ⟨nofun, fun _ => ?_⟩
    rw [outcome_read, hr]
    change (checked s .strict (config.withMode .strict)).outcome = _
    rw [outcome_checked_strict, problems_withMode, hp]
    rfl
  | cons o rest =>
    obtain ⟨name, rfl⟩ := passed_iff.1 passed o (obstacles ▸ List.mem_cons_self)
    rw [Report.outcome_forM_cons]
    exact ⟨fun _ => ⟨name, rfl⟩, fun none => (none ⟨name, List.mem_cons_self⟩).elim⟩

end

/-- Options that can be read permissively. Strictly they are read to the same configuration, but for
its mode, where no text refers to an unknown variable and the checks find nothing; otherwise it is
an error of configuration. -/
theorem strict_of_permissive {s : Surroundings} {directory : Option Path} {options : Options}
    {config : Config}
    (h : (ofEntries s directory (some .permissive) options).outcome = .ok config) :
    (¬ options.RefersToUnset s ∧ config.problems s = .ok [] →
      (ofEntries s directory (some .strict) options).outcome =
        .ok { config with mode := Mode.strict.name }) ∧
    (options.RefersToUnset s ∨ config.problems s ≠ .ok [] →
      ∃ cause, (ofEntries s directory (some .strict) options).outcome =
        .error (.configuration cause)) := by
  obtain ⟨problems, found, unset, set⟩ := outcome_strict h
  constructor
  · rintro ⟨known, none⟩
    rw [found] at none
    rw [set known, if_pos (Except.ok.inj none)]
    rfl
  · intro wrong
    by_cases refers : options.RefersToUnset s
    · obtain ⟨name, failed⟩ := unset refers
      exact ⟨_, failed⟩
    · rw [set refers, if_neg]
      · exact ⟨_, rfl⟩
      · rintro rfl
        exact wrong.elim refers fun some => some found

namespace Sample

/-- No file is there, and nothing is looked at. -/
def nowhere : FileSystem := ⟨fun _ => .ok false, fun _ => .ok false, fun _ => .ok ""⟩

def unparsed : Yaml.Parser := fun _ => .error .malformed

def surroundings : Surroundings := ⟨.ofList [("PROJECT", "shop")], nowhere, unparsed⟩

def options (project : String) : Options :=
  [(.text "service", .map [(.text "name", .text "checkout")]), (.text "project_id", .text project)]

def config (project : String) (mode : Mode) : Config :=
  { serviceName := .text "checkout", project := .text project, mode := mode.name }

end Sample

/-- One variable is set and the other is not. -/
theorem strict_of_permissive_sample :
    (ofEntries Sample.surroundings none (some .strict) (Sample.options "${PROJECT}")).outcome =
      .ok (Sample.config "shop" .strict) ∧
    ∃ cause, (ofEntries Sample.surroundings none (some .strict)
      (Sample.options "${PROJECT}${ZONE}")).outcome = .error (.configuration cause) := by
  have first : (ofEntries Sample.surroundings none (some .permissive)
      (Sample.options "${PROJECT}")).outcome = .ok (Sample.config "shop" .permissive) := by
    with_unfolding_all rfl
  have second : (ofEntries Sample.surroundings none (some .permissive)
      (Sample.options "${PROJECT}${ZONE}")).outcome = .ok (Sample.config "shop" .permissive) := by
    with_unfolding_all rfl
  refine ⟨(strict_of_permissive first).1 ⟨?_, rfl⟩,
    (strict_of_permissive second).2 (.inl ⟨.ofString "ZONE", ?_, rfl⟩)⟩
  · rintro ⟨name, hn, unset⟩
    obtain rfl := List.mem_singleton.1 (show name ∈ [Glyphs.ofString "PROJECT"] from hn)
    cases unset
  · decide

end Config

end CloudTelemetry
