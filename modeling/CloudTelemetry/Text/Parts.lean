/-!
# Parts of a text

`Text.parts`: what stands between the separators of a text. There is always one part more than
there are separators.
-/

namespace CloudTelemetry.Text

variable {α : Type} [BEq α]

def parts (separator : α) : List α → List (List α)
  | [] => [[]]
  | c :: rest =>
    match c == separator, parts separator rest with
    | true, found => [] :: found
    | false, part :: found => (c :: part) :: found
    | false, [] => [[c]]

end CloudTelemetry.Text
