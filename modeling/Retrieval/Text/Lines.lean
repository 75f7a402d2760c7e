/-!
# Lines of files

* `lines` : the lines of the bytes of a file, without their ends.
-/

namespace Retrieval.Text

/-- The lines of a file, `open_` being the bytes of the open one and `done` the complete ones, both last
first. A carriage return in front of a line feed belongs to the line end. -/
def linesFrom (done : List (List UInt8)) (open_ : List UInt8) : List UInt8 → List (List UInt8)
  | [] => (if open_.isEmpty then done else open_.reverse :: done).reverse
  | b :: rest =>
    if b = 0x0A then
      let line := match open_ with
        | 0x0D :: before => before.reverse
        | line => line.reverse
      linesFrom (line :: done) [] rest
    else linesFrom done (b :: open_) rest

/-- The lines of a file; a last one without an end counts if it is not empty. -/
def lines (bytes : List UInt8) : List (List UInt8) := linesFrom [] [] bytes

end Retrieval.Text
