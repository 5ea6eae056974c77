/-!
# Texts with halves of characters

A text may have been put together from codes of which two together stand for one character
(surrogates). One that stands by itself is half of a character. `Glyphs` are texts in which such
halves may stand; `Glyphs.string?` tells those that hold whole characters only, and gives back what
was made of a string (`string?_ofString`).
-/

namespace CloudTelemetry

inductive Glyph where
  | whole (c : Char)
  /-- half of a character, by its code -/
  | half (code : Nat)
deriving DecidableEq, Repr

namespace Glyph

def isHalfCode (code : Nat) : Bool := 0xD800 ≤ code && code < 0xE000

def ofCode (code : Nat) : Glyph :=
  if isHalfCode code then .half code else .whole (Char.ofNat code)

def code : Glyph → Nat
  | .whole c => c.toNat
  | .half code => code

def char? : Glyph → Option Char
  | .whole c => some c
  | .half _ => none

/-- The bytes of a glyph where names are bytes. A second half from U+DC80 to U+DCFF stands for a
byte beyond ASCII; no other half has bytes. -/
def bytes? : Glyph → Option (List UInt8)
  | .whole c => some (String.utf8EncodeChar c)
  | .half code =>
    if 0xDC80 ≤ code && code ≤ 0xDCFF then some [(code - 0xDC00).toUInt8] else none

/-- The character that is shown; for a half, the sign for what cannot be shown. -/
def shown : Glyph → Char
  | .whole c => c
  | .half _ => '\ufffd'

end Glyph

/-- A text in which halves of characters may stand. -/
structure Glyphs where
  list : List Glyph
deriving DecidableEq, Repr

namespace Glyphs

def ofChars (cs : List Char) : Glyphs := ⟨cs.map .whole⟩

def ofString (s : String) : Glyphs := ofChars s.toList

instance : Coe String Glyphs := ⟨ofString⟩

instance : Append Glyphs := ⟨fun s t => ⟨s.list ++ t.list⟩⟩

/-- The text as a string, if it holds whole characters only. -/
def string? (t : Glyphs) : Option String := (t.list.mapM Glyph.char?).map String.ofList

/-- The text as it can be shown. -/
def shown (t : Glyphs) : String := String.ofList (t.list.map Glyph.shown)

def bytes? (t : Glyphs) : Option (List UInt8) := (t.list.mapM Glyph.bytes?).map List.flatten

def intercalate (separator : Glyphs) (texts : List Glyphs) : Glyphs :=
  ⟨(texts.map Glyphs.list).intersperse separator.list |>.flatten⟩

theorem mapM_char?_map_whole (cs : List Char) :
    (cs.map Glyph.whole).mapM Glyph.char? = some cs := by
  induction cs with
  | nil => rfl
  | cons c cs ih => simp [List.mapM_cons, ih, Glyph.char?]

@[simp] theorem string?_ofString (s : String) : (ofString s).string? = some s := by
  rw [string?, ofString, ofChars, mapM_char?_map_whole]
  simp

theorem eq_map_whole_of_mapM {list : List Glyph} {cs : List Char}
    (h : list.mapM Glyph.char? = some cs) : list = cs.map .whole := by
  induction list generalizing cs with
  | nil =>
    cases h
    rfl
  | cons g list ih =>
    rw [List.mapM_cons] at h
    obtain ⟨c, hc, h⟩ := Option.bind_eq_some_iff.1 h
    obtain ⟨rest, hr, h⟩ := Option.bind_eq_some_iff.1 h
    cases h
    cases g with
    | whole d =>
      cases hc
      rw [ih hr, List.map_cons]
    | half => cases hc

theorem eq_ofString_of_string? {t : Glyphs} {s : String} (h : t.string? = some s) :
    t = ofString s := by
  obtain ⟨cs, hcs, rfl⟩ := Option.map_eq_some_iff.1 h
  rw [ofString, ofChars, String.toList_ofList, ← eq_map_whole_of_mapM hcs]

end Glyphs

end CloudTelemetry
