/-
Finite sets of names.

A name has two spellings: the identifier, one word for use in programs and error texts, and the
text by which vector files know it.  Reading a name is the search for its text.  Where all names
are listed and no two share a text, it succeeds on the exact text of a name, and gives this name
and no other (`Proper.ofText?_eq_some`).
-/
namespace EcdsaVectors

/-- A finite set of names with their two spellings. -/
class Named (α : Type) where
  /-- The names in their customary order. -/
  all : List α
  /-- The name as one word. -/
  identifier : α → String
  /-- The name as vector files write it. -/
  text : α → String

namespace Named

variable {α : Type} [Named α]

/-- The name with the given text. -/
def ofText? (t : String) : Option α :=
  (all : List α).find? fun a => text a == t

/-- All names are listed, and no two of them share a text. -/
structure Proper (α : Type) [Named α] : Prop where
  listed (a : α) : a ∈ (all : List α)
  distinct : ∀ a ∈ (all : List α), ∀ b ∈ (all : List α), text a = text b → a = b

theorem text_of_ofText? {t : String} {a : α} (h : ofText? t = some a) : text a = t := by
  simpa using List.find?_some h

/-- A name is read back from its text. -/
theorem Proper.ofText?_text (hα : Proper α) (a : α) : ofText? (text a) = some a := by
  cases h : (ofText? (text a) : Option α) with
  | none => simpa using List.find?_eq_none.1 h a (hα.listed a)
  | some b =>
    have htext : text b = text a := text_of_ofText? h
    rw [hα.distinct b (hα.listed b) a (hα.listed a) htext]

/-- **A text is read as a name just when it is the text of this name.** -/
theorem Proper.ofText?_eq_some (hα : Proper α) {t : String} {a : α} :
    ofText? t = some a ↔ text a = t := by
  constructor
  · exact text_of_ofText?
  · rintro rfl
    exact hα.ofText?_text a

end Named

end EcdsaVectors
