/-
Labels and annotations: finite maps from texts to texts, in the order of
their keys.

* `Labels`: such a map;
* `Labels.overwrite`: a map with the pairs of another one set;
* `Labels.without`: a map without some keys.
-/
import SidecarPolicy.KeyMap

namespace SidecarPolicy

/-- The labels or the annotations of an object. -/
abbrev Labels := KeyMap String String

namespace Labels

/-- A map with every pair of `desired` set. -/
def overwrite (current desired : Labels) : Labels :=
  current.insertAll desired.entries

/-- A map without the given keys. -/
def without (current : Labels) (keys : List String) : Labels :=
  keys.foldl (fun m k => m.erase k) current

end Labels

end SidecarPolicy
