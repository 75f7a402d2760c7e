import Retrieval.Crawl.Page
import Retrieval.Markup
import Retrieval.Text.Blank

/-!
# What a page says

* `Page.titleOf` : the text of the first title;
* `Page.bodyOf` : the words of the body, those of different stretches of text never joined;
* `Page.linksOf` : the web addresses that links lead to;
* `Page.ofText` : all of these, from the text of a document.
-/

namespace Retrieval.Page

def textsOf (d : Markup.Document) (name : String) : List String :=
  match d.elements name with
  | (id, _) :: _ => d.texts id
  | [] => []

/-- The text of the title, without blanks at its ends. -/
def titleOf (d : Markup.Document) : String := Text.trim (String.join (textsOf d "title"))

def bodyOf (d : Markup.Document) : String := " ".intercalate ((textsOf d "body").flatMap Text.words)

def target? (base : Url) (attributes : List Markup.Attribute) : Option Url := do
  let text := (← attributes.find? (·.name = "href")).value
  let url ← (Url.parse? text).orElse fun _ => base.join? text
  if url.scheme.startsWith "http" then some url else none

/-- The web addresses that the links of a page lead to, in order. -/
def linksOf (d : Markup.Document) (base : Url) : List Url :=
  (d.elements "a").filterMap fun (_, attributes) => target? base attributes

def ofText (base : Url) (text : String) : Page :=
  let d := Markup.parse text
  ⟨titleOf d, bodyOf d, linksOf d base⟩

end Retrieval.Page
