/-!
# Splitting at separators

`splitOn` cuts a list at the elements that are separators. It is the one splitting function: the
words of a line, the entries of a list with separators, the parts of a path and the arguments of a
command line are all made from it.
-/

namespace CommandShell.Text

/-- **splitOn** — the parts between the elements that satisfy `p`: one more part than there are such
elements, and the parts may be empty. -/
def splitOn {α : Type} (p : α → Bool) (xs : List α) : List (List α) :=
  xs.foldr
    (fun x parts =>
      if p x then [] :: parts
      else match parts with
        | [] => [[x]]
        | part :: rest => (x :: part) :: rest)
    [[]]

end CommandShell.Text
