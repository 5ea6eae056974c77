import CloudTelemetry.Config.Reading
import CloudTelemetry.Proofs.Binary64.Range
import CloudTelemetry.Proofs.Outcomes

/-!
# What single options are read to

An option is read to a value of its kind, or replaced by a default and reported. It breaks off only
where the value is an integer beyond the range of binary64, or where it should name a path and does
not. `Reads` says of a reading when it comes to something, and to what.
-/

namespace CloudTelemetry

/-- What is legible is read to something of a kind, and all else meets a defect. -/
abbrev Reads {α : Type} (legible : Prop) (kind : α → Prop) : Except Failure α → Prop :=
  Ends (fun cause => ∃ d, cause = .defect d) legible kind

def MeetsDefects {α : Type} (x : Except Failure α) : Prop :=
  ∀ cause, x = .error cause → ∃ d, cause = .defect d

namespace MeetsDefects

variable {α β : Type} {x : Except Failure α}

theorem ok (a : α) : MeetsDefects (.ok a : Except Failure α) := nofun

theorem bind {f : α → Except Failure β} (h : MeetsDefects x) (next : ∀ a, MeetsDefects (f a)) :
    MeetsDefects (x >>= f) := by
  cases x with
  | ok a => exact next a
  | error other =>
    rintro cause ⟨⟩
    exact h other rfl

theorem reads (h : MeetsDefects x) : Reads (∃ a, x = .ok a) (x = .ok ·) x := by
  cases x with
  | ok a => exact .holds ⟨a, rfl⟩ rfl
  | error cause =>
    obtain ⟨d, rfl⟩ := h cause rfl
    exact .fails nofun ⟨_, rfl⟩

end MeetsDefects

/-! ### Files -/

theorem meetsDefects_raise {α : Type} (x : Except Defect α) : MeetsDefects (raise x) := by
  cases x with
  | ok a => exact .ok a
  | error d =>
    rintro cause ⟨⟩
    exact ⟨d, rfl⟩

theorem raise_eq_ok_iff {α : Type} {x : Except Defect α} {a : α} : raise x = .ok a ↔ x = .ok a := by
  cases x with
  | ok b => exact ⟨fun h => congrArg _ (Except.ok.inj h), fun h => congrArg _ (Except.ok.inj h)⟩
  | error d => exact ⟨nofun, nofun⟩

theorem Surroundings.meetsDefects_leads (s : Surroundings) (path : Path) :
    MeetsDefects (s.leads path) :=
  meetsDefects_raise _

/-! ### Numbers of seconds -/

namespace Value

/-- What may be given as a number of seconds: an integer in the range of binary64, or whatever is no
integer. -/
def IsSeconds : Value → Prop
  | .int n => n.natAbs < Binary64.leastBeyond
  | _ => True

def secondsOr (v : Value) (default : Binary64) : Binary64 :=
  match v.toBinary64 with
  | .ok x => x
  | .error _ => default

theorem nearest_eq (n : Int) : nearest n =
    if n.natAbs < Binary64.leastBeyond then .ok (Binary64.ofInt n)
    else .error (.defect .outOfRange) := by
  simp only [← Binary64.isFinite_ofInt_iff]
  rfl

theorem reads_seconds (v : Value) (option : String) (default : Binary64) :
    Reads v.IsSeconds (· = .float (v.secondsOr default))
      (v.readSeconds option (.float default)).outcome := by
  unfold readSeconds secondsOr
  cases v with
  | int n =>
    rw [IsSeconds]
    dsimp only [toBinary64]
    rw [nearest_eq]
    by_cases near : n.natAbs < Binary64.leastBeyond
    · rw [if_pos near]
      exact .holds near rfl
    · rw [if_neg near]
      exact .fails near ⟨_, rfl⟩
  | bool b => cases b <;> exact .holds trivial rfl
  | float x => exact .holds trivial rfl
  | text s =>
    dsimp only [toBinary64]
    cases Numeral.readBinary64? s.toList <;> exact .holds trivial rfl
  | bytes b =>
    dsimp only [toBinary64]
    cases Numeral.readBinary64? (byteChars b) <;> exact .holds trivial rfl
  | null | broken | moment | list | tuple | set | map | enclosing => exact .holds trivial rfl

/-! ### Flags and strategies -/

theorem exists_flag (v : Value) (option : String) : ∃ b, (v.readFlag option).outcome = .ok b := by
  unfold readFlag
  dsimp only
  split <;> exact ⟨_, rfl⟩

theorem exists_strategy (v : Value) : ∃ strategy, v.readStrategy.outcome = .ok strategy := by
  unfold readStrategy
  split <;> exact ⟨_, rfl⟩

end Value

/-! ### The file of credentials -/

/-- Nothing is named, or a path that can be followed. -/
def Surroundings.CanFollow (s : Surroundings) (file : Value) : Prop :=
  file.isPresent = true → ∃ path found, file.asPath = .ok path ∧ s.leads path = .ok found

/-- Nothing is named, or something that is there. -/
def Surroundings.Finds (s : Surroundings) (file : Value) : Prop :=
  file.isPresent = true → ∃ path, file.asPath = .ok path ∧ s.leads path = .ok true

namespace Value

/-- Nothing is named, or a path. -/
def NamesPath (v : Value) : Prop := v.isPresent = true → ∃ path, v.asPath = .ok path

/-- The file that a path names which starts at a directory, where it is relative. -/
def anchoredAt (v : Value) : Option Path → Value
  | none => v
  | some directory =>
    match v.isPresent, v.asPath with
    | true, .ok path => if path.isAbsolute then v else .ofGlyphs (directory.join path).text
    | _, _ => v

theorem meetsDefects_asPath (v : Value) : MeetsDefects v.asPath := by
  cases v with
  | text | broken => exact .ok _
  | null | bool | int | float | bytes | moment | list | tuple | set | map | enclosing =>
    rintro cause ⟨⟩
    exact ⟨_, rfl⟩

theorem reads_credentialsFile (v : Value) (directory : Option Path) :
    Reads (directory ≠ none → v.NamesPath) (· = v.anchoredAt directory)
      (v.readCredentialsFile directory).outcome := by
  cases directory with
  | none => exact .holds (fun some => (some rfl).elim) rfl
  | some directory =>
    unfold readCredentialsFile NamesPath anchoredAt
    dsimp only
    cases v.isPresent with
    | false => exact .holds nofun rfl
    | true =>
      cases named : v.asPath with
      | error cause =>
        obtain ⟨d, rfl⟩ := v.meetsDefects_asPath cause named
        exact .fails (fun path => nomatch path nofun rfl) ⟨_, rfl⟩
      | ok path => exact .holds (fun _ _ => ⟨path, rfl⟩) rfl

end Value

end CloudTelemetry
