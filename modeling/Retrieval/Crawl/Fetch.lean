import Retrieval.Crawl
import Retrieval.Crawl.Extraction
import Retrieval.Http.Request
import Retrieval.Text.Bytes

/-!
# Fetching pages

* `Response`, `Server` : what URLs are answered with;
* `Fetch.follow` : the answer behind the redirections of a URL;
* `Fetch.page?` : the page of a URL, if there is one;
* `Fetch.web` : the pages that a server has.
-/

namespace Retrieval

/-- What a request is answered with. The media type is what the answer declares. -/
structure Response where
  status : Nat
  mediaType : Option String := none
  location : Option String := none
  body : List UInt8 := []

/-- What URLs are answered with; nothing if the connection breaks. -/
abbrev Server := Url → Option Response

namespace Response

def succeeds (r : Response) : Bool := 200 ≤ r.status && r.status < 300

/-- Where an answer of a URL sends, if it sends elsewhere. -/
def target? (r : Response) (url : Url) : Option Url :=
  if r.status ∈ [301, 302, 303, 307, 308] then r.location.bind url.join? else none

/-- A header without the blanks at its ends. -/
def headerText (s : String) : List Char :=
  let isEdge (c : Char) : Bool := c == ' ' || c == '\t'
  ((s.toList.dropWhile isEdge).reverse.dropWhile isEdge).reverse

/-- Whether an answer may be a marked-up document: it says so, or says nothing that can be read. -/
def mayBeMarkup (r : Response) : Bool :=
  r.mediaType.all fun s =>
    let text := headerText s
    !text.all Http.readable || "text/html".toList.isPrefixOf text

end Response

namespace Fetch

def sizeLimit : Nat := 2 * 1024 * 1024

def redirectionLimit : Nat := 5

def isFetchable (url : Url) : Bool := url.scheme == "http" || url.scheme == "https"

/-- The URL that a server is asked for, without what stays with the one who asks: user, password and fragment. -/
def request (url : Url) : Url :=
  { url with
    fragment := none
    authority := url.authority.map fun a => { a with user := "", password := none } }

def ask (server : Server) (url : Url) : Option Response := if isFetchable url then server (request url) else none

/-- The answer of a URL behind at most `left` redirections. One that sends further is no success. -/
def follow (server : Server) : (left : Nat) → Url → Option Response
  | 0, url => ask server url
  | left + 1, url => do
    let r ← ask server url
    match r.target? url with
    | some target => follow server left target
    | none => some r

/-- The page that an answer brings. Its links are read at the URL that was asked for first. -/
def pageOf? (url : Url) (r : Response) : Option Page :=
  if r.succeeds ∧ r.mayBeMarkup ∧ r.body.length ≤ sizeLimit then
    some (Page.ofText url (Text.decodeLossy r.body))
  else none

def page? (server : Server) (url : Url) : Option Page := (follow server redirectionLimit url).bind (pageOf? url)

def web (server : Server) : Web := page? server

end Fetch

end Retrieval
