import JavaNaming.Unicode.Ranges

/-!
# Named sets of code points

An entry of the property tables: the names under which a set is looked up, in lower case and without
spaces, hyphens and underscores, and the packed set itself.
-/

namespace JavaNaming.Unicode

/-- A packed set of code points and its names. -/
structure NamedSet where
  names : List String
  packed : String
deriving Repr

namespace NamedSet

/-- The set itself. -/
def ranges (s : NamedSet) : Ranges := Ranges.unpack s.packed

/-- The entry with a given name. -/
def find? (table : List NamedSet) (name : String) : Option NamedSet :=
  table.find? (·.names.contains name)

end NamedSet

end JavaNaming.Unicode
