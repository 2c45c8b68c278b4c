/-
A store that forgets no key.

It holds the keys of all groups that have been met, the last one first.  Where the cases come
in groups it does what the single slot does, and it needs no order of the cases for that.
-/
import EcdsaVectors.GroupKey
namespace EcdsaVectors

/-- The keys of any number of groups. -/
abbrev Table (V : Values) := List (GroupKey V)

variable {V : Values}

/-- The store that keeps the keys of all groups. -/
def KeyStore.table (V : Values) : KeyStore V (Table V) where
  find? t group := t.find? (·.group = group)
  makeRoom t _ := (t, [])
  insert t k := k :: t

end EcdsaVectors
