import Mathlib.Data.List.Infix
import Mathlib.Data.String.Basic

/-!
# String methods

The methods of `str` that the program uses.
-/

namespace LawFirmDigitalTwin

/-- `s.startswith(p)`. -/
def startsWith (s p : String) : Bool := p.toList.isPrefixOf s.toList

/-- `value in text`. -/
def textContains (text value : String) : Bool := value.toList <:+: text.toList

/-- `c.lower()`, up to characters outside ASCII: apart from the capitals, only two characters have
an ASCII letter in their lower case, the dotted capital I and the Kelvin sign. -/
def lowerChar (c : Char) : List Char :=
  if c.toNat = 0x130 then ['i', Char.ofNat 0x307]
  else if c.toNat = 0x212a then ['k']
  else [c.toLower]

/-- `text.lower()`, for what is looked for in it: ASCII texts. -/
def lowerText (text : String) : String := String.ofList (text.toList.flatMap lowerChar)

/-- `s.removeprefix(p)`. -/
def removePrefix (s p : String) : String :=
  if startsWith s p then String.ofList (s.toList.drop p.toList.length) else s

/-- A text starts with another where something may follow it. -/
theorem startsWith_iff {s p : String} : startsWith s p = true ↔ ∃ t, s = p ++ t := by
  unfold startsWith
  rw [List.isPrefixOf_iff_prefix]
  constructor
  · rintro ⟨t, ht⟩
    refine ⟨String.ofList t, String.toList_inj.1 ?_⟩
    rw [String.toList_append, String.toList_ofList, ht]
  · rintro ⟨t, rfl⟩
    exact ⟨t.toList, (String.toList_append).symm⟩

@[simp] theorem startsWith_append (p t : String) : startsWith (p ++ t) p = true :=
  startsWith_iff.2 ⟨t, rfl⟩

@[simp] theorem removePrefix_append (p t : String) : removePrefix (p ++ t) p = t := by
  rw [removePrefix, if_pos (startsWith_append p t), String.toList_append, List.drop_left,
    String.ofList_toList]

end LawFirmDigitalTwin
