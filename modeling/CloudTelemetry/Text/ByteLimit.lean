/-!
# Text under a byte limit

`cut budget s`: the longest prefix of whole characters whose UTF-8 form fits in `budget` bytes.
It fits (`size_cut_le`), and it is a prefix (`cut_isPrefix`).
-/

namespace CloudTelemetry.Text

/-- Bytes of the UTF-8 form. -/
def size : List Char → Nat
  | [] => 0
  | c :: rest => c.utf8Size + size rest

/-- The longest prefix of whole characters that fits in the budget. -/
def cut : Nat → List Char → List Char
  | _, [] => []
  | budget, c :: rest =>
    if c.utf8Size ≤ budget then c :: cut (budget - c.utf8Size) rest else []

theorem utf8ByteSize_ofList (s : List Char) : (String.ofList s).utf8ByteSize = size s := by
  induction s with
  | nil => rfl
  | cons c s ih =>
    rw [String.ofList_cons, String.utf8ByteSize_append, ih, String.utf8ByteSize_singleton]
    rfl

theorem size_toList (s : String) : size s.toList = s.utf8ByteSize := by
  rw [← utf8ByteSize_ofList, String.ofList_toList]

theorem size_append (s t : List Char) : size (s ++ t) = size s + size t := by
  induction s with
  | nil => simp [size]
  | cons c s ih => simp [size, ih, Nat.add_assoc]

theorem size_cut_le (budget : Nat) (s : List Char) : size (cut budget s) ≤ budget := by
  induction s generalizing budget with
  | nil => simp [cut, size]
  | cons c s ih =>
    unfold cut
    split
    · have := ih (budget - c.utf8Size)
      simp only [size]
      omega
    · simp [size]

theorem cut_isPrefix (budget : Nat) (s : List Char) : cut budget s <+: s := by
  induction s generalizing budget with
  | nil => simp [cut]
  | cons c s ih =>
    unfold cut
    split
    · exact List.prefix_cons_inj c |>.mpr (ih _)
    · exact List.nil_prefix

end CloudTelemetry.Text
