import CloudTelemetry.Text.ByteLimit
import CloudTelemetry.Value.Number

/-!
# Texts under the limits of spans

`Truncated.cut`: a text under a byte limit, with the number of bytes that were cut. What is sent
has 32 bits for that number; `Truncated.ofText` refuses a text from which more would be cut.
-/

namespace CloudTelemetry

structure Truncated where
  value : String
  dropped : Nat
deriving DecidableEq, Repr

namespace Truncated

/-- The bytes that a limit leaves to a text of `size` bytes. A negative limit counts from the
end: it leaves all but that many. -/
def budget (size : Nat) : Int → Nat
  | .ofNat limit => limit
  | .negSucc n => size - (n + 1)

/-- The text itself where it fits, else its longest prefix within the limit. -/
def cut (s : String) (limit : Int) : Truncated :=
  let chars := s.toList
  let size := Text.size chars
  if size ≤ limit then ⟨s, 0⟩
  else
    let kept := Text.cut (budget size limit) chars
    ⟨String.ofList kept, size - Text.size kept⟩

def isCountable (t : Truncated) : Bool := fitsInt32 t.dropped

def check (t : Truncated) : Except Failure Unit :=
  if t.isCountable then .ok () else fails .badValue

/-- The text under the limit, refused where too much of it is dropped. -/
def ofText (s : String) (limit : Int) : Except Failure Truncated := do
  (cut s limit).check
  return cut s limit

theorem utf8ByteSize_cut_le (s : String) (limit : Nat) :
    (cut s limit).value.utf8ByteSize ≤ limit := by
  unfold cut
  by_cases fits : (Text.size s.toList : Int) ≤ limit
  · rw [if_pos fits, ← Text.size_toList]
    exact Int.ofNat_le.1 fits
  · rw [if_neg fits, Text.utf8ByteSize_ofList]
    exact Text.size_cut_le limit s.toList

theorem eq_cut_of_ofText {s : String} {limit : Int} {t : Truncated} (h : ofText s limit = .ok t) :
    t = cut s limit := by
  obtain ⟨_, -, same⟩ := bind_eq_ok h
  exact (Except.ok.inj same).symm

theorem cut_of_fits {s : String} {limit : Nat} (fits : s.utf8ByteSize ≤ limit) :
    cut s limit = ⟨s, 0⟩ := by
  rw [← Text.size_toList] at fits
  exact if_pos (Int.ofNat_le.2 fits)

end Truncated

end CloudTelemetry
