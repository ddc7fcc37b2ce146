/-
Comparison of texts that ignores the case of ASCII letters, and of those
letters only: `ſ` is no `s`, and `ı` and `İ` are no `i`.

* `lowered`: a text with its ASCII capitals put in lower case, as characters;
* `sameLetters`: whether two texts agree up to the case of ASCII letters.
-/

namespace SidecarPolicy.Text

/-- The characters of a text, its ASCII capitals in lower case. -/
def lowered (s : String) : List Char :=
  s.toList.map Char.toLower

/-- Two texts agree if they differ at most in the case of ASCII letters. -/
def sameLetters (s t : String) : Bool :=
  lowered s == lowered t

theorem sameLetters_iff {s t : String} :
    sameLetters s t = true ↔ lowered s = lowered t := by
  simp [sameLetters]

end SidecarPolicy.Text
