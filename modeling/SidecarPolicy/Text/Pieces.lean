/-
Cutting a sequence at a separator.

* `extendHead`: an item put in front of the first piece;
* `splitOn`: the pieces between all occurrences of a separator, at least one;
* `cut`: the parts before and after the first occurrence.
-/

namespace SidecarPolicy.Text

variable {α : Type}

/-- An item put in front of the first of several pieces. -/
def extendHead (a : α) : List (List α) → List (List α)
  | [] => [[a]]
  | piece :: pieces => (a :: piece) :: pieces

/-- The pieces between the occurrences of a separator: one more than there
are separators, so at least one, and some of them possibly empty. -/
def splitOn [DecidableEq α] (sep : α) : List α → List (List α)
  | [] => [[]]
  | a :: rest =>
      if a = sep then [] :: splitOn sep rest else extendHead a (splitOn sep rest)

/-- The part before the first separator, and the part after it if there is
a separator. -/
def cut [DecidableEq α] (sep : α) : List α → List α × Option (List α)
  | [] => ([], none)
  | a :: rest =>
      if a = sep then ([], some rest)
      else ((a :: (cut sep rest).1), (cut sep rest).2)

end SidecarPolicy.Text
