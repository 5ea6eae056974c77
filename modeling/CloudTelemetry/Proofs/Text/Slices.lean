import CloudTelemetry.Proofs.Outcomes
import CloudTelemetry.Span.Truncated
import Mathlib.Algebra.Group.Nat.Defs

/-!
# Texts that are cut between their bytes

The first bytes of a UTF-8 form may end inside a character. `decoded` reads bytes back and passes
over those with which no character begins: of a slice it gives the whole characters and drops the
one that was cut, never an earlier one (`decoded_take_bytes`). That is the longest prefix of the
text within the limit, so that cutting again changes nothing, and a smaller limit leaves a prefix
of what a larger one leaves. A text has such a form unless more of it would be cut than 32 bits can
count (`Truncated.cuts_ofText`).
-/

namespace CloudTelemetry

namespace Text

/-! ### Bytes of characters -/

def character? (bytes : List UInt8) : Option Char := bytes.toByteArray.utf8DecodeChar? 0

/-- The characters of some bytes. A byte with which no character begins is passed over. -/
def decoded : List UInt8 → List Char
  | [] => []
  | b :: rest =>
    match character? (b :: rest) with
    | some c => c :: decoded (rest.drop (c.utf8Size - 1))
    | none => decoded rest
termination_by bytes => bytes.length
decreasing_by all_goals simp only [List.length_drop, List.length_cons]; omega

variable {c : Char} {bytes rest : List UInt8}

theorem character?_append (c : Char) (rest : List UInt8) :
    character? (String.utf8EncodeChar c ++ rest) = some c := by
  unfold character?
  rw [List.toByteArray_append]
  exact ByteArray.utf8DecodeChar?_utf8EncodeChar_append

theorem exists_of_character? (h : character? bytes = some c) :
    ∃ rest, bytes = String.utf8EncodeChar c ++ rest := by
  obtain ⟨rest, hr⟩ := ByteArray.exists_of_utf8DecodeChar?_eq_some h
  refine ⟨rest.data.toList, ?_⟩
  have := congrArg (fun b : ByteArray => b.data.toList) hr
  simpa using this

theorem character?_of_inside {b : UInt8} (h : ¬ b.IsUTF8FirstByte) :
    character? (b :: rest) = none := by
  cases found : character? (b :: rest) with
  | none => rfl
  | some c =>
    have first := ByteArray.isUTF8FirstByte_of_isSome_utf8DecodeChar? (i := 0)
      (b := (b :: rest).toByteArray) (by rw [← character?, found]; rfl)
    rw [List.getElem_toByteArray] at first
    exact absurd first h

theorem exists_bytes (c : Char) :
    ∃ b inside, String.utf8EncodeChar c = b :: inside ∧ inside.length + 1 = c.utf8Size ∧
      ∀ i ∈ inside, ¬ i.IsUTF8FirstByte := by
  have length := String.length_utf8EncodeChar c
  cases form : String.utf8EncodeChar c with
  | nil => simp at form
  | cons b inside =>
    refine ⟨b, inside, rfl, by rw [← length, form, List.length_cons], fun i hi => ?_⟩
    obtain ⟨n, hn, rfl⟩ := List.getElem_of_mem hi
    have later : n + 1 < (String.utf8EncodeChar c).length := by simp [form, hn]
    have first : (String.utf8EncodeChar c)[n + 1].IsUTF8FirstByte ↔ n + 1 = 0 :=
      UInt8.isUTF8FirstByte_getElem_utf8EncodeChar
    have := mt first.1 (Nat.succ_ne_zero n)
    simpa [form] using this

theorem decoded_append (c : Char) (rest : List UInt8) :
    decoded (String.utf8EncodeChar c ++ rest) = c :: decoded rest := by
  have found := character?_append c rest
  obtain ⟨b, inside, form, length, -⟩ := exists_bytes c
  rw [form, List.cons_append] at found ⊢
  have dropped : (inside ++ rest).drop (c.utf8Size - 1) = rest := by
    rw [← length, Nat.add_sub_cancel, List.drop_left]
  rw [decoded, found]
  simp only [dropped]

theorem decoded_of_inside (h : ∀ b ∈ bytes, ¬ b.IsUTF8FirstByte) : decoded bytes = [] := by
  induction bytes with
  | nil => rw [decoded]
  | cons b rest ih =>
    obtain ⟨hb, hr⟩ := List.forall_mem_cons.1 h
    rw [decoded, character?_of_inside hb]
    exact ih hr

/-- Of a character that is cut nothing is left: the bytes that are there are no other one. -/
theorem decoded_take_of_lt {k : Nat} (short : k < c.utf8Size) :
    decoded ((String.utf8EncodeChar c).take k) = [] := by
  obtain ⟨b, inside, form, length, apart⟩ := exists_bytes c
  cases k with
  | zero => rw [List.take_zero, decoded]
  | succ k =>
    have none : character? ((String.utf8EncodeChar c).take (k + 1)) = none := by
      cases found : character? ((String.utf8EncodeChar c).take (k + 1)) with
      | none => rfl
      | some d =>
        obtain ⟨rest, hr⟩ := exists_of_character? found
        have whole := List.take_append_drop (k + 1) (String.utf8EncodeChar c)
        rw [hr, List.append_assoc] at whole
        have same : some d = some c := by
          rw [← character?_append d (rest ++ (String.utf8EncodeChar c).drop (k + 1)), whole,
            ← List.append_nil (String.utf8EncodeChar c), character?_append]
        cases same
        have := congrArg List.length hr
        simp only [List.length_take, List.length_append, String.length_utf8EncodeChar] at this
        omega
    rw [form, List.take_succ_cons] at none ⊢
    rw [decoded, none]
    exact decoded_of_inside fun i hi => apart i (List.mem_of_mem_take hi)

/-! ### Slices of texts -/

theorem decoded_take_bytes (budget : Nat) (s : List Char) :
    decoded ((s.flatMap String.utf8EncodeChar).take budget) = cut budget s := by
  induction s generalizing budget with
  | nil => simp [decoded, cut]
  | cons c s ih =>
    have length := String.length_utf8EncodeChar c
    rw [List.flatMap_cons, List.take_append, length, cut]
    by_cases fits : c.utf8Size ≤ budget
    · rw [if_pos fits, List.take_of_length_le (by omega), decoded_append, ih]
    · rw [if_neg fits, Nat.sub_eq_zero_of_le (by omega), List.take_zero, List.append_nil]
      exact decoded_take_of_lt (by omega)

theorem prefix_cut {budget : Nat} {p s : List Char} (h : p <+: s) (fits : size p ≤ budget) :
    p <+: cut budget s := by
  induction p generalizing budget s with
  | nil => exact List.nil_prefix
  | cons c p ih =>
    obtain ⟨rest, rfl⟩ := h
    simp only [size] at fits
    rw [List.cons_append, cut, if_pos (by omega)]
    exact (List.prefix_cons_inj c).2 (ih (List.prefix_append p rest) (by omega))

theorem cut_of_size_le {budget : Nat} {s : List Char} (fits : size s ≤ budget) :
    cut budget s = s := by
  have whole := prefix_cut (List.prefix_refl s) fits
  exact List.IsPrefix.eq_of_length_le (cut_isPrefix budget s) whole.length_le

end Text

namespace Truncated

/-! ### Texts under a limit -/

theorem cut_eq (s : String) (limit : Nat) :
    cut s limit = ⟨String.ofList (Text.cut limit s.toList),
      s.utf8ByteSize - Text.size (Text.cut limit s.toList)⟩ := by
  unfold cut
  dsimp only
  by_cases fits : Text.size s.toList ≤ limit
  · rw [if_pos (Int.ofNat_le.2 fits), Text.cut_of_size_le fits, String.ofList_toList,
      Text.size_toList, Nat.sub_self]
  · rw [if_neg (mt Int.ofNat_le.1 fits), ← Text.size_toList]
    rfl

theorem value_cut (s : String) (limit : Nat) :
    (cut s limit).value.toList = Text.cut limit s.toList := by
  rw [cut_eq, String.toList_ofList]

theorem isPrefix_cut (s : String) (limit : Nat) : (cut s limit).value.toList <+: s.toList := by
  rw [value_cut]
  exact Text.cut_isPrefix limit s.toList

theorem prefix_value_cut {s p : String} {limit : Nat} (h : p.toList <+: s.toList)
    (fits : p.utf8ByteSize ≤ limit) : p.toList <+: (cut s limit).value.toList := by
  rw [value_cut]
  exact Text.prefix_cut h (by rwa [Text.size_toList])

theorem size_cut (s : String) (limit : Nat) :
    (cut s limit).value.utf8ByteSize + (cut s limit).dropped = s.utf8ByteSize := by
  obtain ⟨rest, hr⟩ := Text.cut_isPrefix limit s.toList
  have whole := congrArg Text.size hr
  rw [Text.size_append, Text.size_toList] at whole
  rw [cut_eq, Text.utf8ByteSize_ofList]
  dsimp only
  omega

theorem bytes_eq (s : String) :
    s.toByteArray.data.toList = s.toList.flatMap String.utf8EncodeChar := by
  rw [← String.utf8Encode_toList, List.utf8Encode, List.toList_data_toByteArray]

theorem isCountable_iff {t : Truncated} : t.isCountable = true ↔ t.dropped < 2 ^ 31 := by
  unfold isCountable fitsInt32
  rw [Bool.and_eq_true, decide_eq_true_iff, decide_eq_true_iff]
  omega

/-- A prefix within the limit leaves no more bytes than 32 bits can count. -/
def Countable (s : String) (limit : Nat) : Prop :=
  ∃ p : String, p.toList <+: s.toList ∧ p.utf8ByteSize ≤ limit ∧
    s.utf8ByteSize < p.utf8ByteSize + 2 ^ 31

theorem utf8ByteSize_le_of_prefix {p q : String} (h : p.toList <+: q.toList) :
    p.utf8ByteSize ≤ q.utf8ByteSize := by
  obtain ⟨rest, hr⟩ := h
  rw [← Text.size_toList p, ← Text.size_toList q, ← hr, Text.size_append]
  exact Nat.le_add_right ..

theorem isCountable_cut_iff {s : String} {limit : Nat} :
    (cut s limit).isCountable = true ↔ Countable s limit := by
  have whole := size_cut s limit
  rw [isCountable_iff]
  constructor
  · intro few
    exact ⟨(cut s limit).value, isPrefix_cut s limit, utf8ByteSize_cut_le s limit, by omega⟩
  · rintro ⟨p, hp, fits, few⟩
    have := utf8ByteSize_le_of_prefix (prefix_value_cut hp fits)
    omega

theorem ends_ofText {failure : Failure → Prop} {s : String} {limit : Nat}
    (long : (cut s limit).isCountable = false → failure (.defect .badValue)) :
    Ends failure ((cut s limit).isCountable = true) (· = cut s limit) (ofText s limit) := by
  unfold ofText check
  cases counted : (cut s limit).isCountable with
  | false => exact .fails nofun (long counted)
  | true => exact .holds rfl rfl

theorem ofText_of_fits {s : String} {limit : Nat} (fits : s.utf8ByteSize ≤ limit) :
    ofText s limit = .ok ⟨s, 0⟩ := by
  unfold ofText
  rw [cut_of_fits fits]
  rfl

/-- What is left of a text under a limit, and what is said of the rest. -/
structure Cuts (s : String) (limit : Nat) (t : Truncated) : Prop where
  isPrefix : t.value.toList <+: s.toList
  fits : t.value.utf8ByteSize ≤ limit
  longest : ∀ p : String, p.toList <+: s.toList → p.utf8ByteSize ≤ limit →
    p.toList <+: t.value.toList
  /-- it is read from the first bytes of the text -/
  sliced : t.value.toList = Text.decoded (s.toByteArray.data.toList.take limit)
  counted : t.value.utf8ByteSize + t.dropped = s.utf8ByteSize
  unchanged : t.dropped = 0 ↔ t.value = s
  again : ofText t.value limit = .ok ⟨t.value, 0⟩
  smaller : ∀ less ≤ limit, (cut s less).value.toList <+: t.value.toList

theorem cuts_cut (s : String) (limit : Nat) : Cuts s limit (cut s limit) := by
  have counted := size_cut s limit
  have fits := utf8ByteSize_cut_le s limit
  refine ⟨isPrefix_cut s limit, fits, fun p => prefix_value_cut, ?_, counted,
    ⟨fun none => ?_, fun same => ?_⟩, ofText_of_fits fits, fun less hless => ?_⟩
  · rw [value_cut, bytes_eq, Text.decoded_take_bytes]
  · rw [cut_of_fits (by omega)]
  · rw [same] at counted
    omega
  · have narrow := utf8ByteSize_cut_le s less
    exact prefix_value_cut (isPrefix_cut s less) (by omega)

/-- The third byte begins a character that is cut. -/
example : ofText "ééé" 3 = .ok ⟨"é", 4⟩ := rfl

end Truncated

end CloudTelemetry
