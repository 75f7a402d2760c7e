import Retrieval.Stem.English
import Retrieval.Text.Compatibility
import Retrieval.Text.Letter
import Retrieval.Text.Lowercase
import Retrieval.Text.Numeral

/-!
# From text to terms

A text is brought into compatibility form and lower case, then cut into segments: a letter with the
letters, numerals, underscores and apostrophes behind it, or a run of numerals.

* `segments` : the segments of a list of characters;
* `Tokenizer.tokenize` : the terms of a text, in order;
* `Tokenizer.term?` : the one term that a word names, if it names exactly one.
-/

namespace Retrieval

open Text

/-! ## Segments -/

/-- A character that may stand behind the first letter of a segment. -/
def isInner (c : Char) : Bool := isLetter c || isNumeral c || c == '_' || c == '\''

/-- What is open between two characters: nothing, or a segment with its characters, last first. -/
inductive OpenSegment where
  | none
  | word (run : List Char)
  | number (run : List Char)

/-- What a character opens. -/
def OpenSegment.start (c : Char) : OpenSegment :=
  if isLetter c then .word [c] else if isNumeral c then .number [c] else .none

def segmentsFrom : OpenSegment → List Char → List (List Char)
  | .none, [] => []
  | .word run, [] => [run.reverse]
  | .number run, [] => [run.reverse]
  | .none, c :: rest => segmentsFrom (.start c) rest
  | .word run, c :: rest =>
    if isInner c then segmentsFrom (.word (c :: run)) rest
    else run.reverse :: segmentsFrom (.start c) rest
  | .number run, c :: rest =>
    if isNumeral c then segmentsFrom (.number (c :: run)) rest
    else run.reverse :: segmentsFrom (.start c) rest

def segments (s : List Char) : List (List Char) := segmentsFrom .none s

/-! ## Terms -/

/-- English words that carry no content of their own. -/
def stopwords : List String :=
  ["a", "about", "above", "after", "again", "against", "all", "am", "an", "and", "any", "are", "aren't",
   "as", "at", "be", "because", "been", "before", "being", "below", "between", "both", "but", "by", "can",
   "can't", "cannot", "could", "couldn't", "did", "didn't", "do", "does", "doesn't", "doing", "don't",
   "down", "during", "each", "few", "for", "from", "further", "had", "hadn't", "has", "hasn't", "have",
   "haven't", "having", "he", "he'd", "he'll", "he's", "her", "here", "here's", "hers", "herself", "him",
   "himself", "his", "how", "how's", "i", "i'd", "i'll", "i'm", "i've", "if", "in", "into", "is", "isn't",
   "it", "it's", "its", "itself", "let's", "me", "more", "most", "mustn't", "my", "myself", "no", "nor",
   "not", "of", "off", "on", "once", "only", "or", "other", "ought", "our", "ours", "ourselves", "out",
   "over", "own", "same", "she", "she'd", "she'll", "she's", "should", "shouldn't", "so", "some", "such",
   "than", "that", "that's", "the", "their", "theirs", "them", "themselves", "then", "there", "there's",
   "these", "they", "they'd", "they'll", "they're", "they've", "this", "those", "through", "to", "too",
   "under", "until", "up", "very", "was", "wasn't", "we", "we'd", "we'll", "we're", "we've", "were",
   "weren't", "what", "what's", "when", "when's", "where", "where's", "which", "while", "who", "who's",
   "whom", "why", "why's", "with", "won't", "would", "wouldn't", "you", "you'd", "you'll", "you're",
   "you've", "your", "yours", "yourself", "yourselves"]

/-- How terms are made from segments: whether they are stemmed and whether stopwords are left out. -/
structure Tokenizer where
  stem : Bool := false
  dropStopwords : Bool := false
deriving Repr, DecidableEq

namespace Tokenizer

/-- The term of a segment; a stopword has none, and is recognised before stemming. -/
def finish? (t : Tokenizer) (segment : String) : Option String :=
  if t.dropStopwords && stopwords.contains segment then none
  else some (if t.stem then Stem.stem segment else segment)

/-- A text in compatibility form and lower case. -/
def normalForm (text : String) : List Char := lowerList (Compatibility.normalizeList text.toList)

def terms (t : Tokenizer) (s : List Char) : List String :=
  (segments s).filterMap fun segment => t.finish? (.ofList segment)

def tokenize (t : Tokenizer) (text : String) : List String := t.terms (normalForm text)

/-- The term that a word names; a word without a term, or with several, names none. -/
def term? (t : Tokenizer) (word : String) : Option String :=
  match t.tokenize word with
  | [term] => some term
  | _ => none

end Tokenizer

end Retrieval
