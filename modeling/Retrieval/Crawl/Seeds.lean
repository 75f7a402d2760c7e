import Retrieval.Text.Blank
import Retrieval.Text.Bytes
import Retrieval.Text.Lines
import Retrieval.Url

/-!
# Seeds of a crawl

A file of seeds has a URL a line. A line that is no URL by itself may lack the scheme. Blank lines and lines that
begin with a number sign are skipped, and so are lines that are no URL either way.

* `Seeds.ofLine?` : the URL of a line;
* `Seeds.read` : the URLs of a file.
-/

namespace Retrieval.Seeds

def urlOf? (text : String) : Option Url :=
  (Url.parse? text).orElse fun _ => Url.parse? ("https://" ++ text)

def ofLine? (line : String) : Option Url :=
  let text := Text.trim line
  if text = "" ∨ text.startsWith "#" then none else urlOf? text

/-- The URLs of a file, in order; nothing if a line is no text. -/
def read (bytes : List UInt8) : Option (List Url) :=
  ((Text.lines bytes).mapM Text.decode).map (·.filterMap ofLine?)

end Retrieval.Seeds
