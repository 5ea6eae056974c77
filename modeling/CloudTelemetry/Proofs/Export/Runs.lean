import CloudTelemetry.Export.Metrics

/-!
# Runs

The laws of `runsOf`: the runs joined are the elements, no run is empty or longer than the size,
all but the last have it, and so there are as many as the length divided by the size, rounded up.
Each is proved of `splitRun` first, whose first run has some room left.
-/

namespace CloudTelemetry

variable {α : Type} {size room : Nat} {items run : List α}

theorem splitRun_nil : splitRun size room ([] : List α) = ([], []) := by
  cases room <;> rfl

theorem splitRun_zero (x : α) (rest : List α) : splitRun size 0 (x :: rest) =
    ([], (x :: (splitRun size (size - 1) rest).1) :: (splitRun size (size - 1) rest).2) := rfl

theorem splitRun_succ (x : α) (rest : List α) : splitRun size (room + 1) (x :: rest) =
    (x :: (splitRun size room rest).1, (splitRun size room rest).2) := rfl

theorem flatten_splitRun (size room : Nat) (items : List α) :
    (splitRun size room items).1 ++ (splitRun size room items).2.flatten = items := by
  induction items generalizing room with
  | nil => rw [splitRun_nil]; rfl
  | cons x rest ih =>
    cases room with
    | zero => simp only [splitRun_zero, List.flatten_cons, List.nil_append, List.cons_append, ih]
    | succ room => simp only [splitRun_succ, List.cons_append, ih]

theorem length_splitRun_fst (size room : Nat) (items : List α) :
    (splitRun size room items).1.length = min room items.length := by
  induction items generalizing room with
  | nil => simp [splitRun_nil]
  | cons x rest ih =>
    cases room with
    | zero => simp [splitRun_zero]
    | succ room => simp only [splitRun_succ, List.length_cons, ih]; omega

theorem splitRun_snd_eq_nil_iff : (splitRun size room items).2 = [] ↔ items.length ≤ room := by
  induction items generalizing room with
  | nil => simp [splitRun_nil]
  | cons x rest ih =>
    cases room with
    | zero => simp [splitRun_zero]
    | succ room => simp only [splitRun_succ, ih, List.length_cons]; omega

theorem length_of_mem_splitRun (pos : 0 < size) (h : run ∈ (splitRun size room items).2) :
    1 ≤ run.length ∧ run.length ≤ size := by
  induction items generalizing room with
  | nil => rw [splitRun_nil] at h; cases h
  | cons x rest ih =>
    cases room with
    | zero =>
      rw [splitRun_zero] at h
      rcases List.mem_cons.1 h with rfl | h
      · rw [List.length_cons, length_splitRun_fst]; omega
      · exact ih h
    | succ room =>
      have later : run ∈ (splitRun size room rest).2 := h
      exact ih later

theorem length_of_mem_dropLast_splitRun (pos : 0 < size)
    (h : run ∈ (splitRun size room items).2.dropLast) : run.length = size := by
  induction items generalizing room with
  | nil => rw [splitRun_nil] at h; cases h
  | cons x rest ih =>
    cases room with
    | zero =>
      rw [splitRun_zero] at h
      cases later : (splitRun size (size - 1) rest).2 with
      | nil => rw [later] at h; cases h
      | cons next others =>
        rw [later, List.dropLast_cons_cons] at h
        rcases List.mem_cons.1 h with rfl | h
        · have long : ¬ rest.length ≤ size - 1 := fun hle => by
            rw [splitRun_snd_eq_nil_iff.2 hle] at later
            cases later
          rw [List.length_cons, length_splitRun_fst]; omega
        · rw [← later] at h
          exact ih h
    | succ room =>
      have later : run ∈ (splitRun size room rest).2.dropLast := h
      exact ih later

theorem length_splitRun_snd (pos : 0 < size) (room : Nat) (items : List α) :
    (splitRun size room items).2.length = (items.length - room + size - 1) / size := by
  induction items generalizing room with
  | nil =>
    rw [splitRun_nil, List.length_nil, List.length_nil, Nat.zero_sub, Nat.zero_add]
    exact (Nat.div_eq_of_lt (by omega)).symm
  | cons x rest ih =>
    cases room with
    | zero =>
      rw [splitRun_zero, List.length_cons, ih, List.length_cons]
      have : rest.length + 1 - 0 + size - 1 = rest.length + size := by omega
      rw [this, Nat.add_div_right _ pos]
      by_cases long : size - 1 ≤ rest.length
      · have : rest.length - (size - 1) + size - 1 = rest.length := by omega
        rw [this]
      · have : rest.length - (size - 1) + size - 1 = size - 1 := by omega
        rw [this, Nat.div_eq_of_lt (by omega), Nat.div_eq_of_lt (by omega)]
    | succ room =>
      rw [splitRun_succ, ih, List.length_cons]
      have : rest.length + 1 - (room + 1) = rest.length - room := by omega
      rw [this]

/-! ### Runs of a size -/

theorem flatten_runsOf (size : Nat) (items : List α) : (runsOf size items).flatten = items := by
  have first : (splitRun size 0 items).1 = [] := by
    rw [← List.length_eq_zero_iff, length_splitRun_fst, Nat.zero_min]
  have joined := flatten_splitRun size 0 items
  rwa [first, List.nil_append] at joined

theorem length_runsOf (pos : 0 < size) (items : List α) :
    (runsOf size items).length = (items.length + size - 1) / size :=
  length_splitRun_snd pos 0 items

theorem length_of_mem_runsOf (pos : 0 < size) (h : run ∈ runsOf size items) :
    1 ≤ run.length ∧ run.length ≤ size :=
  length_of_mem_splitRun pos h

theorem length_of_mem_dropLast_runsOf (pos : 0 < size) (h : run ∈ (runsOf size items).dropLast) :
    run.length = size :=
  length_of_mem_dropLast_splitRun pos h

end CloudTelemetry
