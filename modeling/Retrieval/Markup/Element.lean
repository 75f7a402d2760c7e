import Retrieval.Markup.Document

/-!
# Classes of elements

* `ElementName.isOneOf` : the elements of a list of names;
* `Scope` : elements that bound a search among the open elements;
* `isSpecial`, `isFormatting`, … : the classes of which the rules speak.
-/

namespace Retrieval.Markup

namespace ElementName

def isOneOf (e : ElementName) (names : List String) : Bool := e.language == .html && names.contains e.name

def isNamed (e : ElementName) (name : String) : Bool := e.language == .html && e.name == name

/-- Elements whose content is text, although they stand among formulas. -/
def holdsFormulaText (e : ElementName) : Bool :=
  e.language == .math && ["mi", "mo", "mn", "ms", "mtext"].contains e.name

/-- Elements whose content is marked-up text, although they stand in a drawing. -/
def holdsMarkup (e : ElementName) : Bool :=
  e.language == .svg && ["foreignobject", "desc", "title"].contains e.name

def isSpecial (e : ElementName) : Bool :=
  e.isOneOf
    ["address", "applet", "area", "article", "aside", "base", "basefont", "bgsound", "blockquote", "body", "br",
     "button", "caption", "center", "col", "colgroup", "dd", "details", "dir", "div", "dl", "dt", "embed",
     "fieldset", "figcaption", "figure", "footer", "form", "frame", "frameset", "h1", "h2", "h3", "h4", "h5", "h6",
     "head", "header", "hgroup", "hr", "html", "iframe", "img", "input", "isindex", "li", "link", "listing", "main",
     "marquee", "menu", "meta", "nav", "noembed", "noframes", "noscript", "object", "ol", "p", "param",
     "plaintext", "pre", "script", "section", "select", "source", "style", "summary", "table", "tbody", "td",
     "template", "textarea", "tfoot", "th", "thead", "title", "tr", "track", "ul", "wbr", "xmp"]

end ElementName

/-! ## Classes -/

def headings : List String := ["h1", "h2", "h3", "h4", "h5", "h6"]

/-- Names of elements whose end may be left out. -/
def impliedEnds : List String := ["dd", "dt", "li", "option", "optgroup", "p", "rb", "rp", "rt", "rtc"]

def templateEnds : List String :=
  impliedEnds ++ ["caption", "colgroup", "tbody", "td", "tfoot", "th", "thead", "tr"]

/-- Names of the parts of tables that text cannot stand in. -/
def tableParts : List String := ["table", "tbody", "tfoot", "thead", "tr"]

/-! ## Scopes -/

/-- What bounds a search among the open elements, from the innermost on. -/
inductive Scope where
  | standard
  | list
  | button
  | table
  | select
deriving Repr, DecidableEq

namespace Scope

def isStandardEnd (e : ElementName) : Bool :=
  e.isOneOf ["applet", "caption", "html", "table", "td", "th", "marquee", "object", "template"] ||
    e.holdsFormulaText || e.holdsMarkup

def endsAt (s : Scope) (e : ElementName) : Bool :=
  match s with
  | .standard => isStandardEnd e
  | .list => isStandardEnd e || e.isOneOf ["ol", "ul"]
  | .button => isStandardEnd e || e.isNamed "button"
  | .table => e.isOneOf ["html", "table", "template"]
  | .select => !e.isOneOf ["optgroup", "option"]

end Scope

end Retrieval.Markup
