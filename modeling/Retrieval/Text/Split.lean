/-!
# Texts cut at a separator

* `split sep s` : the pieces between the separators, one more than there are separators;
* `cut sep s` : what stands before the first separator, and what stands behind it.
-/

namespace Retrieval.Text

def split (sep : Char) : List Char → List (List Char)
  | [] => [[]]
  | c :: rest =>
    if c = sep then [] :: split sep rest
    else
      match split sep rest with
      | [] => [[c]]
      | piece :: pieces => (c :: piece) :: pieces

def cut (sep : Char) (s : List Char) : List Char × Option (List Char) :=
  match s.dropWhile (· ≠ sep) with
  | [] => (s, none)
  | _ :: rest => (s.takeWhile (· ≠ sep), some rest)

end Retrieval.Text
