import Retrieval.Hash.Sha1
import Retrieval.Json.Writer
import Retrieval.Text.Bytes
import Retrieval.Url

/-!
# Pages and their records

* `Page` : what a crawler takes from a document: title, text and links;
* `Record` : what it writes about a page;
* `Record.line` : the record as a line of JSON.
-/

namespace Retrieval

/-- Title, text and links of a document. -/
structure Page where
  title : String
  body : String
  links : List Url
deriving Repr, DecidableEq

/-- A page that was kept, with the URL under which it was asked for. -/
structure Record where
  id : String
  title : String
  body : String
  url : String
deriving Repr, DecidableEq

namespace Record

/-- The record of a page. The secure hash of the text of its URL identifies it. -/
def ofPage (key : String) (page : Page) : Record where
  id := Hash.Sha1.hexDigest (Text.utf8 key)
  title := page.title
  body := page.body
  url := key

def line (r : Record) (time : String) : List Char :=
  Json.object [("id", r.id), ("title", r.title), ("body", r.body), ("url", r.url), ("timestamp", time)] ++ ['\n']

end Record

end Retrieval
