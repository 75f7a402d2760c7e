/-!
# Blanks and words

* `isBlank` : the white-space characters;
* `words` : the maximal runs without a blank, in order;
* `trim` : the text without the blanks at its ends.
-/

namespace Retrieval.Text

/-- White space: tab to carriage return, the space, the next-line control and the separators. -/
def isBlank (c : Char) : Bool :=
  let n := c.toNat
  (0x09 ≤ n && n ≤ 0x0D) || n == 0x20 || n == 0x85 || n == 0xA0 || n == 0x1680 ||
    (0x2000 ≤ n && n ≤ 0x200A) || n == 0x2028 || n == 0x2029 || n == 0x202F || n == 0x205F ||
    n == 0x3000

/-- Words with the one that has been read, which may be empty; both are last first. -/
def closeWord (run : List Char) (done : List (List Char)) : List (List Char) :=
  match run with
  | [] => done
  | c :: run => (c :: run).reverse :: done

/-- The words of a text, `done` being those before its rest, last first, and `run` the characters of the open word,
last first. -/
def wordsFrom (done : List (List Char)) (run : List Char) : List Char → List (List Char)
  | [] => (closeWord run done).reverse
  | c :: rest =>
    if isBlank c then wordsFrom (closeWord run done) [] rest else wordsFrom done (c :: run) rest

def wordLists (s : List Char) : List (List Char) := wordsFrom [] [] s

/-- The words of a text: its maximal runs of characters that are not blank. -/
def words (s : String) : List String := (wordLists s.toList).map String.ofList

/-- The text without leading and trailing blanks. -/
def trim (s : String) : String :=
  .ofList (((s.toList.dropWhile isBlank).reverse.dropWhile isBlank).reverse)

end Retrieval.Text
