/-
Written pointers.

A token may hold any characters: `~` and `/` are escaped when a pointer is
written, and a token without slashes is cut out again between two of them.

* `Pointer.unescape?_escape`: an escaped token is read back;
* `Pointer.ofText?_text`: **a written pointer is read back**, whatever its
  tokens.
-/
import SidecarPolicy.Json.Pointer
import SidecarPolicy.Proofs.Text.Pieces

namespace SidecarPolicy

namespace Pointer

/-! ### Tokens -/

/-- Characters that need no escape are read as they are. -/
lemma unescape?_cons {c : Char} (h : c ≠ '~') (rest : List Char) :
    unescape? (c :: rest) = (unescape? rest).map (c :: ·) := by
  rw [unescape?]
  · rintro _ rfl
    exact absurd rfl h
  · rintro _ rfl
    exact absurd rfl h
  · exact h

/-- **An escaped token is read back.** -/
theorem unescape?_escape (cs : List Char) : unescape? (escape cs) = some cs := by
  induction cs using escape.induct with
  | case1 => rfl
  | case2 rest ih => rw [escape, unescape?, ih]; rfl
  | case3 rest ih => rw [escape, unescape?, ih]; rfl
  | case4 c rest htilde hslash ih =>
      rw [escape, unescape?_cons htilde, ih]
      · rfl
      · exact htilde
      · exact hslash

/-- An escaped token has no slash. -/
lemma slash_not_mem_escape (cs : List Char) : '/' ∉ escape cs := by
  induction cs using escape.induct with
  | case1 => simp [escape]
  | case2 rest ih => simp [escape, ih]
  | case3 rest ih => simp [escape, ih]
  | case4 c rest htilde hslash ih =>
      rw [escape]
      · exact List.not_mem_cons_of_ne_of_not_mem (fun h => hslash h.symm) ih
      · exact htilde
      · exact hslash

/-! ### Pointers -/

/-- The pieces between the slashes of a written pointer are its escaped tokens. -/
lemma splitOn_slash (token : String) (p : Pointer) :
    Text.splitOn '/' (escape token.toList ++ p.flatMap fun t => '/' :: escape t.toList) =
      (token :: p).map fun t => escape t.toList := by
  induction p generalizing token with
  | nil =>
      rw [List.flatMap_nil, List.append_nil,
        Text.splitOn_of_not_mem (slash_not_mem_escape _)]
      rfl
  | cons next p ih =>
      rw [List.flatMap_cons, List.cons_append,
        Text.splitOn_append_cons (slash_not_mem_escape _), ih]
      rfl

lemma mapM_unescape? (p : Pointer) :
    (p.map fun t => escape t.toList).mapM (fun t => (unescape? t).map String.ofList) =
      some p := by
  induction p with
  | nil => rfl
  | cons token p ih => simp [unescape?_escape, ih]

/-- **A written pointer is read back**, whatever characters its tokens have. -/
theorem ofText?_text (p : Pointer) : ofText? (text p) = some p := by
  rw [ofText?, text, String.toList_ofList]
  cases p with
  | nil => rfl
  | cons token p =>
      simp only [List.flatMap_cons, List.cons_append]
      rw [splitOn_slash, mapM_unescape?]

end Pointer

end SidecarPolicy
