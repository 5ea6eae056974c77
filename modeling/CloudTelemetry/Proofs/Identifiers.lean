import CloudTelemetry.Identifier
import CloudTelemetry.Text.DecimalDigit
import Mathlib.Algebra.Group.Int.Defs
import Mathlib.Algebra.Group.Nat.Defs

/-!
# Identifiers, read back

Hexadecimal digits are read from left to right (`Text.hexNumber?`), which gives back the number
that they were written for, however many zeros stand before it. So an identifier within its width
is read back from its digits (`readId?_hexId`), and the name of a span tells the project and both
identifiers, whatever the project is called (`SpanContext.ofName?_spanName`).
-/

namespace CloudTelemetry

namespace Text

/-! ### Digits -/

def hexNumber? (digits : List Char) : Option Nat :=
  digits.foldlM (fun n c => (latinDigit? 16 c).map (16 * n + ·)) 0

theorem latinDigit?_digitChar {d : Nat} (h : d < 16) : latinDigit? 16 d.digitChar = some d := by
  have all : ∀ d < 16, latinDigit? 16 (Nat.digitChar d) = some d := by decide
  exact all d h

theorem hexNumber?_concat {digits : List Char} {n d : Nat} (h : hexNumber? digits = some n)
    (hd : d < 16) : hexNumber? (digits ++ [d.digitChar]) = some (16 * n + d) := by
  unfold hexNumber? at h ⊢
  simp [List.foldlM_append, h, latinDigit?_digitChar hd]

theorem hexNumber?_toDigits (n : Nat) : hexNumber? (Nat.toDigits 16 n) = some n := by
  induction n using Nat.strongRecOn with
  | ind n ih =>
    rcases Nat.lt_or_ge n 16 with small | large
    · have none : hexNumber? [] = some 0 := rfl
      have := hexNumber?_concat none small
      rw [Nat.toDigits_of_lt_base small]
      simpa using this
    · have last : n % 16 < 16 := Nat.mod_lt n (by decide)
      rw [Nat.toDigits_of_base_le (by decide) large,
        hexNumber?_concat (ih (n / 16) (by omega)) last]
      congr 1
      omega

theorem hexNumber?_zeros (k : Nat) (digits : List Char) :
    hexNumber? (List.replicate k '0' ++ digits) = hexNumber? digits := by
  have zero : (latinDigit? 16 '0').map (16 * 0 + ·) = some 0 := by decide
  induction k with
  | zero => rfl
  | succ k ih =>
    rw [List.replicate_succ, List.cons_append]
    unfold hexNumber? at ih ⊢
    rw [List.foldlM_cons, zero]
    exact ih

theorem hexNumber?_hexPadded (width n : Nat) : hexNumber? (hexPadded width n) = some n := by
  unfold hexPadded
  rw [hexNumber?_zeros, hexNumber?_toDigits]

theorem length_hexPadded {width n : Nat} (pos : 0 < width) (fits : n < 16 ^ width) :
    (hexPadded width n).length = width := by
  have := (Nat.length_toDigits_le_iff (b := 16) (by decide) pos).2 fits
  simp only [hexPadded, List.length_append, List.length_replicate]
  omega

def IsLowerHex (c : Char) : Prop := c ∈ "0123456789abcdef".toList

instance (c : Char) : Decidable (IsLowerHex c) := inferInstanceAs (Decidable (_ ∈ _))

theorem isLowerHex_digitChar {d : Nat} (h : d < 16) : IsLowerHex d.digitChar := by
  have all : ∀ d < 16, IsLowerHex (Nat.digitChar d) := by decide
  exact all d h

theorem isLowerHex_of_mem_toDigits (n : Nat) : ∀ c ∈ Nat.toDigits 16 n, IsLowerHex c := by
  induction n using Nat.strongRecOn with
  | ind n ih =>
    rcases Nat.lt_or_ge n 16 with small | large
    · rw [Nat.toDigits_of_lt_base small]
      exact List.forall_mem_singleton.2 (isLowerHex_digitChar small)
    · rw [Nat.toDigits_of_base_le (by decide) large]
      have last := isLowerHex_digitChar (Nat.mod_lt n (show 0 < 16 by decide))
      exact List.forall_mem_append.2 ⟨ih (n / 16) (by omega), List.forall_mem_singleton.2 last⟩

theorem isLowerHex_of_mem_hexPadded (width n : Nat) : ∀ c ∈ hexPadded width n, IsLowerHex c := by
  refine List.forall_mem_append.2 ⟨fun c hc => ?_, isLowerHex_of_mem_toDigits n⟩
  rw [List.eq_of_mem_replicate hc]
  decide

end Text

/-! ### Identifiers -/

/-- The identifier that is written in some digits of a fixed width. -/
def readId? (width : Nat) (digits : List Char) : Option Int :=
  if digits.length = width then (Text.hexNumber? digits).map Int.ofNat else none

variable {width : Nat} {id : Int}

theorem toList_hexId (nonneg : 0 ≤ id) :
    (hexId width id).toList = Text.hexPadded width id.natAbs := by
  unfold hexId
  rw [if_neg (by omega), String.toList_ofList]

theorem length_hexId (pos : 0 < width) (nonneg : 0 ≤ id) (fits : id < 16 ^ width) :
    (hexId width id).toList.length = width := by
  obtain ⟨n, rfl⟩ := Int.eq_ofNat_of_zero_le nonneg
  rw [toList_hexId nonneg, Int.natAbs_natCast]
  exact Text.length_hexPadded pos (by exact_mod_cast fits)

theorem readId?_hexId (pos : 0 < width) (nonneg : 0 ≤ id) (fits : id < 16 ^ width) :
    readId? width (hexId width id).toList = some id := by
  unfold readId?
  rw [if_pos (length_hexId pos nonneg fits), toList_hexId nonneg, Text.hexNumber?_hexPadded,
    Option.map_some]
  congr 1
  exact Int.natAbs_of_nonneg nonneg

/-- The digits are those of an identifier, of a fixed width. -/
structure Spells (width : Nat) (id : Int) (digits : String) : Prop where
  length : digits.toList.length = width
  lower : ∀ c ∈ digits.toList, Text.IsLowerHex c
  reads : readId? width digits.toList = some id

theorem spells_hexId (pos : 0 < width) (nonneg : 0 ≤ id) (fits : id < 16 ^ width) :
    Spells width id (hexId width id) where
  length := length_hexId pos nonneg fits
  lower := by
    rw [toList_hexId nonneg]
    exact Text.isLowerHex_of_mem_hexPadded width id.natAbs
  reads := readId?_hexId pos nonneg fits

/-! ### Names of spans -/

def splitLast {α : Type} (k : Nat) (l : List α) : List α × List α := l.splitAt (l.length - k)

theorem splitLast_append {α : Type} {k : Nat} {l : List α} (h : l.length = k) (before : List α) :
    splitLast k (before ++ l) = (before, l) := by
  unfold splitLast
  rw [List.splitAt_eq, List.length_append, h, Nat.add_sub_cancel, List.take_left, List.drop_left]

namespace SpanContext

theorem isValid_iff {context : SpanContext} : context.isValid = true ↔
    (0 < context.traceId ∧ context.traceId < 16 ^ 32) ∧
      0 < context.spanId ∧ context.spanId < 16 ^ 16 := by
  simp [isValid, and_assoc]

/-- The project of a span and its identity, as its name tells them. The name is read from its
end, since a project may be called anything. -/
def ofName? (name : String) : Option (String × SpanContext) :=
  let (beforeSpan, span) := splitLast 16 name.toList
  let (beforeSpans, spans) := splitLast 7 beforeSpan
  let (beforeTrace, trace) := splitLast 32 beforeSpans
  let (beforeTraces, traces) := splitLast 8 beforeTrace
  let (projects, project) := beforeTraces.splitAt 9
  if projects = "projects/".toList ∧ traces = "/traces/".toList ∧ spans = "/spans/".toList then do
    return (String.ofList project, ⟨← readId? 32 trace, ← readId? 16 span⟩)
  else none

theorem ofName?_spanName (project : String) {context : SpanContext} (valid : context.isValid) :
    ofName? (spanName project context) = some (project, context) := by
  obtain ⟨⟨trace, traceFits⟩, span, spanFits⟩ := isValid_iff.1 valid
  have wide : 0 < 32 := by decide
  have narrow : 0 < 16 := by decide
  have readTrace := readId?_hexId wide (Int.le_of_lt trace) traceFits
  have readSpan := readId?_hexId narrow (Int.le_of_lt span) spanFits
  have traceLength := length_hexId wide (Int.le_of_lt trace) traceFits
  have spanLength := length_hexId narrow (Int.le_of_lt span) spanFits
  have parts : (spanName project context).toList =
      "projects/".toList ++ project.toList ++ "/traces/".toList ++
        (hexId 32 context.traceId).toList ++ "/spans/".toList ++
          (hexId 16 context.spanId).toList := by
    simp only [spanName, projectName, hexTraceId, hexSpanId, String.toList_append]
  have projects : ("projects/".toList ++ project.toList).splitAt 9 =
      ("projects/".toList, project.toList) := by
    have length : "projects/".toList.length = 9 := rfl
    rw [List.splitAt_eq, List.take_left' length, List.drop_left' length]
  have spans : "/spans/".toList.length = 7 := rfl
  have traces : "/traces/".toList.length = 8 := rfl
  unfold ofName?
  rw [parts]
  simp only [splitLast_append spanLength, splitLast_append spans, splitLast_append traceLength,
    splitLast_append traces, projects, and_self, if_true, readTrace, readSpan,
    String.ofList_toList]
  rfl

end SpanContext

end CloudTelemetry
