/-!
# Bytes in sixty-four letters

`Text.base64?`: four letters stand for three bytes. Characters that are no such letters are passed
over, and reading ends at the padding that completes a group. A group that is not complete has no
reading.
-/

namespace CloudTelemetry.Text

def base64Letters : List Char :=
  "ABCDEFGHIJKLMNOPQRSTUVWXYZabcdefghijklmnopqrstuvwxyz0123456789+/".toList

def base64Value? (c : Char) : Option Nat := base64Letters.idxOf? c

def groupBytes (values : List Nat) : List UInt8 :=
  let bits := values.foldl (fun n v => 64 * n + v) 0
  match values.length with
  | 4 => [(bits / 65536).toUInt8, (bits / 256).toUInt8, bits.toUInt8]
  | 3 => [(bits / 1024).toUInt8, (bits / 4).toUInt8]
  | 2 => [(bits / 16).toUInt8]
  | _ => []

/-- The bytes from here on, in the middle of a group that is followed by some padding. -/
def base64From? (group : List Nat) (padding : Nat) : List Char → Option (List UInt8)
  | [] => if group.isEmpty then some [] else none
  | c :: rest =>
    if c == '=' then
      if 2 ≤ group.length then
        if 4 ≤ group.length + padding + 1 then some (groupBytes group)
        else base64From? group (padding + 1) rest
      else base64From? group padding rest
    else
      match base64Value? c with
      | some v =>
        if group.length = 3 then
          (base64From? [] 0 rest).map (groupBytes (group ++ [v]) ++ ·)
        else base64From? (group ++ [v]) 0 rest
      | none => base64From? group padding rest

def base64? (s : List Char) : Option (List UInt8) := base64From? [] 0 s

end CloudTelemetry.Text
