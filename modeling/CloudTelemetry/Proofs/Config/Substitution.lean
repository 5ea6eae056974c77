import CloudTelemetry.Proofs.Config.Modes

/-!
# Options that are given through variables

Options whose references all have values are read like the options in which the values already stand
in the place of the references, all but one of them: the mode of validation is looked up before
references are replaced. Strictness that is asked for through a variable is therefore not seen, and
this is the only thing that a reference can change (`alike_iff`).
-/

namespace CloudTelemetry

namespace Options

/-- Every reference has a value, and what is put in its place refers to nothing. -/
structure Substitutable (s : Surroundings) (options : Options) : Prop where
  known : ∀ name ∈ Value.referencesInEntries options, ∃ value, s.lookUp name = .ok (some value)
  plain : Value.referencesInEntries (Value.expandEntries s.lookUp options) = []

theorem Substitutable.not_refersToUnset {s : Surroundings} {options : Options}
    (h : options.Substitutable s) : ¬ options.RefersToUnset s := by
  rintro ⟨name, hn, unset⟩
  obtain ⟨value, hv⟩ := h.known name hn
  rw [unset] at hv
  cases hv

/-- Strictness is asked for, but through a reference. -/
def HidesStrictness (s : Surroundings) (options : Options) : Prop :=
  ∃ v, Value.entry? (options.under "validation") "mode" = some v ∧ v ≠ .text Mode.strict.name ∧
    v.expand s.lookUp = .text Mode.strict.name

/-! ### The mode -/

theorem expand_name (lookup : Lookup) (mode : Mode) :
    (Value.text mode.name).expand lookup = .text mode.name :=
  Value.expand_of_plain lookup (by cases mode <;> decide)

theorem entries_expand (lookup : Lookup) (v : Value) :
    (v.expand lookup).entries = Value.expandEntries lookup v.entries := by
  have text (t : Glyphs) : (Value.ofGlyphs t).entries = [] := by
    rcases Value.ofGlyphs_cases t with ⟨s, -, same⟩ | ⟨b, -, same⟩ <;> rw [same] <;> rfl
  cases v with
  | text | broken => exact text _
  | null | bool | int | float | bytes | moment | list | tuple | set | map | enclosing => rfl

theorem value_expandEntries (lookup : Lookup) (options : Options) (name : String)
    {default : Value} (h : default.expand lookup = default) :
    value (Value.expandEntries lookup options) name default =
      (options.value name default).expand lookup := by
  unfold value
  rw [Value.lookUp_expandEntries]
  cases Value.entry? options name with
  | none => exact h.symm
  | some => rfl

theorem under_expandEntries (lookup : Lookup) (options : Options) (name : String) :
    under (Value.expandEntries lookup options) name =
      Value.expandEntries lookup (options.under name) := by
  rw [under, value_expandEntries lookup options name rfl, entries_expand, under]

theorem outcome_mode_of_strict {validation : Options}
    (h : validation.value "mode" (.text Mode.permissive.name) = .text Mode.strict.name) :
    (mode validation).outcome = .ok .strict := by
  unfold mode
  rw [h]
  rfl

theorem outcome_mode_of_ne_strict {validation : Options}
    (h : validation.value "mode" (.text Mode.permissive.name) ≠ .text Mode.strict.name) :
    (mode validation).outcome = .ok .permissive := by
  unfold mode
  split
  · rename_i strict
    exact (h strict).elim
  · rfl
  · rfl

variable {s : Surroundings} {options : Options}

theorem outcome_mode_expandEntries (h : ¬ options.HidesStrictness s) :
    (mode (under (Value.expandEntries s.lookUp options) "validation")).outcome =
      (mode (options.under "validation")).outcome := by
  rw [under_expandEntries]
  have value := value_expandEntries s.lookUp (options.under "validation") "mode"
    (expand_name s.lookUp .permissive)
  by_cases strict : (options.under "validation").value "mode" (.text Mode.permissive.name) =
      .text Mode.strict.name
  · rw [outcome_mode_of_strict strict, outcome_mode_of_strict]
    rw [value, strict, expand_name]
  · rw [outcome_mode_of_ne_strict strict, outcome_mode_of_ne_strict]
    rw [value]
    intro hidden
    cases found : Value.entry? (options.under "validation") "mode" with
    | none =>
      rw [Options.value, found, Option.getD_none, expand_name] at hidden
      exact absurd (Value.text.inj hidden) (by decide)
    | some v =>
      rw [Options.value, found, Option.getD_some] at hidden strict
      exact h ⟨v, found, strict, hidden⟩

theorem HidesStrictness.outcome_mode (h : options.HidesStrictness s) :
    (mode (options.under "validation")).outcome = .ok .permissive ∧
      (mode (under (Value.expandEntries s.lookUp options) "validation")).outcome = .ok .strict := by
  obtain ⟨v, found, other, strict⟩ := h
  have here : (options.under "validation").value "mode" (.text Mode.permissive.name) = v := by
    rw [value, found, Option.getD_some]
  constructor
  · exact outcome_mode_of_ne_strict (here ▸ other)
  · refine outcome_mode_of_strict ?_
    rw [under_expandEntries, value_expandEntries _ _ _ (expand_name s.lookUp .permissive), here,
      strict]

end Options

namespace Config

section
variable {s : Surroundings} {directory : Option Path} {options : Options}

/-! ### All other options -/

theorem outcome_resume_expandEntries (h : options.Substitutable s) (mode : Mode) :
    (resume s directory mode (Value.expandEntries s.lookUp options)).outcome =
      (resume s directory mode options).outcome := by
  have obstacles : Value.obstaclesInEntries s.lookUp (Value.expandEntries s.lookUp options) =
      Value.obstaclesInEntries s.lookUp options :=
    Value.obstacles_expand (v := .map options) h.known h.plain
  have expanded : Value.map (Value.expandEntries s.lookUp (Value.expandEntries s.lookUp options)) =
      .map (Value.expandEntries s.lookUp options) :=
    Value.expand_of_plain s.lookUp (v := .map (Value.expandEntries s.lookUp options)) h.plain
  rw [outcome_resume, outcome_resume, obstacles, Value.map.inj expanded]

theorem mode_of_resume {mode : Mode} {config : Config}
    (h : (resume s directory mode options).outcome = .ok config) : config.mode = mode.name := by
  rw [outcome_resume] at h
  obtain ⟨⟨⟩, -, h⟩ := bind_eq_ok h
  obtain ⟨read, hr, h⟩ := bind_eq_ok h
  rw [(eq_of_checked h).1, mode_of_read hr]

/-- Where no reference is to an unknown variable, what cannot be read permissively cannot be read
strictly either. -/
theorem outcome_strict_of_failure (known : ¬ options.RefersToUnset s) {cause : Failure}
    (h : (resume s directory .permissive options).outcome = .error cause) :
    (resume s directory .strict options).outcome = .error cause := by
  rw [outcome_resume] at h ⊢
  have passed : ((Value.obstaclesInEntries s.lookUp options).forM (pass .strict)).outcome =
      ((Value.obstaclesInEntries s.lookUp options).forM (pass .permissive)).outcome := by
    refine Report.outcome_forM_congr fun o ho => ?_
    cases o with
    | unknown name => exact (known (refersToUnset_iff.2 ⟨name, ho⟩)).elim
    | unreadable | endless => rfl
  rw [passed]
  cases failed : ((Value.obstaclesInEntries s.lookUp options).forM (pass .permissive)).outcome with
  | error =>
    rw [failed] at h
    cases h
    rfl
  | ok =>
    rw [failed] at h
    rw [outcome_read]
    change Except.bind _ _ = _ at h
    change Except.bind (_ <$> _) _ = _
    cases found : (read s directory .permissive (Value.expandEntries s.lookUp options)).outcome with
    | error =>
      rw [found] at h
      cases h
      rfl
    | ok config =>
      rw [found] at h
      change (checked s .permissive config).outcome = _ at h
      change (checked s .strict (config.withMode .strict)).outcome = _
      rw [outcome_checked_permissive] at h
      rw [outcome_checked_strict, problems_withMode]
      cases problems : config.problems s with
      | error =>
        rw [problems] at h
        cases h
        rfl
      | ok => rw [problems] at h; cases h

theorem outcome_of_hidesStrictness (hidden : options.HidesStrictness s) (forced : Option Mode) :
    (ofEntries s directory forced options).outcome =
      (resume s directory (forced.getD .permissive) options).outcome := by
  rw [outcome_ofEntries, hidden.outcome_mode.1]
  rfl

theorem outcome_expandEntries_of_hidesStrictness (h : options.Substitutable s)
    (hidden : options.HidesStrictness s) (forced : Option Mode) :
    (ofEntries s directory forced (Value.expandEntries s.lookUp options)).outcome =
      (resume s directory (forced.getD .strict) options).outcome := by
  rw [outcome_ofEntries, hidden.outcome_mode.2]
  exact outcome_resume_expandEntries h _

theorem outcome_expandEntries_of_seen (h : options.Substitutable s)
    (seen : ¬ options.HidesStrictness s) (forced : Option Mode) :
    (ofEntries s directory forced (Value.expandEntries s.lookUp options)).outcome =
      (ofEntries s directory forced options).outcome := by
  rw [outcome_ofEntries, outcome_ofEntries, Options.outcome_mode_expandEntries seen]
  simp only [outcome_resume_expandEntries h]

/-- The same configuration, or failures of one kind. -/
inductive Alike : Except Failure Config → Except Failure Config → Prop
  | read (config : Config) : Alike (.ok config) (.ok config)
  | failed {cause other : Failure} (same : cause.kind = other.kind) :
    Alike (.error cause) (.error other)

theorem Alike.refl (outcome : Except Failure Config) : Alike outcome outcome := by
  cases outcome with
  | ok config => exact .read config
  | error => exact .failed rfl

theorem Alike.eq_of_ok {config other : Config} (h : Alike (.ok config) (.ok other)) :
    config = other := by
  cases h
  rfl

end

/-- Options of which every reference has a value come to the same as the options with the values in
the place of the references, unless the mode is not forced, a reference stands for the strict one,
and the options can be read permissively. Then they are read permissively, and the options with the
values strictly. -/
theorem alike_iff {s : Surroundings} {options : Options} (h : options.Substitutable s)
    (directory : Option Path) (forced : Option Mode) :
    (Alike (ofEntries s directory forced options).outcome
        (ofEntries s directory forced (Value.expandEntries s.lookUp options)).outcome ↔
      ¬ (forced = none ∧ options.HidesStrictness s ∧
        ∃ config, (ofEntries s directory (some .permissive) options).outcome = .ok config)) ∧
    (options.HidesStrictness s →
      (ofEntries s directory none options).outcome =
        (ofEntries s directory (some .permissive) options).outcome ∧
      (ofEntries s directory none (Value.expandEntries s.lookUp options)).outcome =
        (ofEntries s directory (some .strict) options).outcome) := by
  refine ⟨⟨?_, fun fits => ?_⟩, fun hidden => ?_⟩
  · rintro alike ⟨rfl, hidden, config, read⟩
    rw [outcome_of_hidesStrictness hidden] at read
    rw [outcome_of_hidesStrictness hidden, outcome_expandEntries_of_hidesStrictness h hidden,
      Option.getD_none, Option.getD_none, show (resume s directory .permissive options).outcome =
        .ok config from read] at alike
    cases strict : (resume s directory .strict options).outcome with
    | error => rw [strict] at alike; cases alike
    | ok other =>
      rw [strict] at alike
      have modes := congrArg Config.mode alike.eq_of_ok
      rw [mode_of_resume read, mode_of_resume strict] at modes
      exact absurd modes (by decide)
  · by_cases hidden : options.HidesStrictness s
    · rw [outcome_of_hidesStrictness hidden, outcome_expandEntries_of_hidesStrictness h hidden]
      cases forced with
      | some => exact .refl _
      | none =>
        change Alike (resume s directory .permissive options).outcome
          (resume s directory .strict options).outcome
        cases read : (resume s directory .permissive options).outcome with
        | ok config =>
          exact (fits ⟨rfl, hidden, config, (outcome_of_hidesStrictness hidden _).trans read⟩).elim
        | error =>
          rw [outcome_strict_of_failure h.not_refersToUnset read]
          exact .refl _
    · rw [outcome_expandEntries_of_seen h hidden]
      exact .refl _
  · rw [outcome_of_hidesStrictness hidden, outcome_of_hidesStrictness hidden,
      outcome_of_hidesStrictness hidden, outcome_expandEntries_of_hidesStrictness h hidden]
    exact ⟨rfl, rfl⟩

namespace Sample

def strictness : Surroundings := { surroundings with environment := .ofList [("MODE", "strict")] }

def hidden : Options :=
  [(.text "service", .map [(.text "name", .text "checkout")]),
    (.text "validation", .map [(.text "mode", .text "${MODE}")])]

theorem substitutable_hidden : hidden.Substitutable strictness where
  known name hn := by
    obtain rfl := List.mem_singleton.1 (show name ∈ [Glyphs.ofString "MODE"] from hn)
    exact ⟨"strict", rfl⟩
  plain := by decide

end Sample

/-- A mode that is forced is not looked up. -/
theorem alike_iff_sample :
    Sample.hidden.Substitutable Sample.strictness ∧
      Alike (ofEntries Sample.strictness none (some .strict) Sample.hidden).outcome
        (ofEntries Sample.strictness none (some .strict)
          (Value.expandEntries Sample.strictness.lookUp Sample.hidden)).outcome :=
  ⟨Sample.substitutable_hidden,
    ((alike_iff Sample.substitutable_hidden none (some .strict)).1).2 fun h => by cases h.1⟩

/-- A service that asks for strictness through a variable is read permissively, and strictly once
the variable has been replaced. -/
theorem strictness_not_seen :
    Sample.hidden.Substitutable Sample.strictness ∧
      ¬ Alike (ofEntries Sample.strictness none none Sample.hidden).outcome
        (ofEntries Sample.strictness none none
          (Value.expandEntries Sample.strictness.lookUp Sample.hidden)).outcome := by
  refine ⟨Sample.substitutable_hidden, fun alike => ?_⟩
  have hidden : (ofEntries Sample.strictness none none Sample.hidden).outcome =
      .ok { serviceName := .text "checkout", mode := Mode.permissive.name } := by
    with_unfolding_all rfl
  have replaced : (ofEntries Sample.strictness none none
      (Value.expandEntries Sample.strictness.lookUp Sample.hidden)).outcome =
      .ok { serviceName := .text "checkout", mode := Mode.strict.name } := by
    with_unfolding_all rfl
  rw [hidden, replaced] at alike
  exact absurd (congrArg Config.mode alike.eq_of_ok) (by decide)

end Config

end CloudTelemetry
