import Mathlib.Data.List.Basic
import Mathlib.Tactic.SplitIfs
import Retrieval.Proofs.Query.Lexing

/-!
# Renderings of tokens

Tokens can be written in many ways, with more or fewer blanks between them. Cutting a query into tokens undoes any of
them, and every query is one of the renderings of its tokens.

* `Token.spelling`, `Token.Proper` : how a token is written, and which tokens can be read back;
* `Token.Written`, `Token.Renders` : the texts that write tokens in order, with blanks around and between them;
* `Token.lexFrom_of_written` : the tokens of such a text;
* `Token.Laid` : proper tokens and a rendering of them; every query is one of its own tokens;
* `Token.slice?`, `Token.cutQuery` : the tokens of a query, cut out of its words at byte offsets;
* `Token.lex_inverts_rendering` : cutting and writing are inverse, and no cut falls inside a character.
-/

namespace Retrieval.Query.Token

open Text

instance : DecidablePred EndsWord := fun _ => inferInstanceAs (Decidable (_ ∨ _))

/-! ## Spellings -/

def spelling : Token → List Char
  | .word text => text.toList
  | .and => "AND".toList
  | .or => "OR".toList
  | .not => "NOT".toList
  | .left => ['(']
  | .right => [')']

def isParen : Token → Bool
  | .left | .right => true
  | _ => false

/-- A token that can be read back: a word is not empty, has no blank and no parenthesis, and spells no operator. -/
def Proper : Token → Prop
  | .word text => text ≠ "" ∧ (∀ c ∈ text.toList, ¬ EndsWord c) ∧ text ≠ "AND" ∧ text ≠ "OR" ∧ text ≠ "NOT"
  | _ => True

theorem spelling_ofWord (text : String) : (ofWord text).spelling = text.toList := by
  unfold ofWord
  split_ifs with hand hor hnot
  · rw [hand]
    rfl
  · rw [hor]
    rfl
  · rw [hnot]
    rfl
  · rfl

theorem proper_ofWord {text : String} (hne : text ≠ "") (htext : ∀ c ∈ text.toList, ¬ EndsWord c) :
    (ofWord text).Proper := by
  unfold ofWord
  split_ifs with hand hor hnot
  · trivial
  · trivial
  · trivial
  · exact ⟨hne, htext, hand, hor, hnot⟩

theorem not_endsWord_of_all {s : List Char} (h : s.all fun c => !decide (EndsWord c)) : ∀ c ∈ s, ¬ EndsWord c := by
  intro c hc
  simpa using List.all_eq_true.1 h c hc

section Proper
variable {token : Token} (h : token.Proper) (hword : token.isParen = false)
include h hword

theorem Proper.ofWord_spelling : ofWord (.ofList token.spelling) = token := by
  cases token with
  | word text =>
    obtain ⟨-, -, hand, hor, hnot⟩ := h
    rw [spelling, String.ofList_toList, ofWord, if_neg hand, if_neg hor, if_neg hnot]
  | left => cases hword
  | right => cases hword
  | _ => rfl

theorem Proper.spelling_ne_nil : token.spelling ≠ [] := by
  cases token with
  | word text => exact fun hnil => h.1 (String.toList_eq_nil_iff.1 hnil)
  | left => cases hword
  | right => cases hword
  | _ => decide

theorem Proper.not_endsWord : ∀ c ∈ token.spelling, ¬ EndsWord c := by
  cases token with
  | word text => exact h.2.1
  | left => cases hword
  | right => cases hword
  | _ => exact not_endsWord_of_all (by decide)

end Proper

theorem spelling_of_isParen {token : Token} (h : token.isParen) :
    ∃ c, token.spelling = [c] ∧ EndsWord c ∧ mark c = [token] := by
  cases token with
  | left => exact ⟨'(', rfl, .inr (.inl rfl), rfl⟩
  | right => exact ⟨')', rfl, .inr (.inr rfl), rfl⟩
  | _ => cases h

/-! ## Texts that write tokens -/

/-- A text that writes tokens in order, each with blanks behind it. Between two tokens there is a blank unless one of
them is a parenthesis. -/
inductive Written : List Token → List Char → Prop
  | nil : Written [] []
  | cons {token : Token} {gap : List Char} {tokens : List Token} {text : List Char} (hgap : ∀ c ∈ gap, isBlank c)
      (hapart : ∀ next ∈ tokens.head?, token.isParen ∨ next.isParen ∨ gap ≠ []) (hrest : Written tokens text) :
      Written (token :: tokens) (token.spelling ++ (gap ++ text))

/-- A text that writes tokens in order, with blanks around and between them. -/
def Renders (tokens : List Token) (s : List Char) : Prop :=
  ∃ lead text, (∀ c ∈ lead, isBlank c) ∧ Written tokens text ∧ s = lead ++ text

/-- Behind a token that is no parenthesis its word is at an end. -/
theorem Written.apart {gap : List Char} {tokens : List Token} {text : List Char}
    (hrest : Written tokens text) (hgap : ∀ c ∈ gap, isBlank c)
    (hapart : ∀ next ∈ tokens.head?, next.isParen ∨ gap ≠ []) : Apart (gap ++ text) := by
  intro c hc
  cases gap with
  | cons d gap =>
    obtain rfl : d = c := Option.some.inj hc
    exact .inl (hgap d List.mem_cons_self)
  | nil =>
    cases hrest with
    | nil => cases hc
    | cons hgap' hapart' hrest' =>
      have hparen := (hapart _ rfl).resolve_right fun hne => hne rfl
      obtain ⟨d, hspelling, hends, -⟩ := spelling_of_isParen hparen
      rw [hspelling] at hc
      obtain rfl : d = c := Option.some.inj hc
      exact hends

/-- **A text that writes proper tokens has these tokens.** -/
theorem lexFrom_of_written {tokens : List Token} {text : List Char} (h : Written tokens text)
    (hproper : ∀ t ∈ tokens, t.Proper) : lexFrom [] text = tokens := by
  induction h with
  | nil => rfl
  | @cons token gap tokens text hgap hapart hrest ih =>
    obtain ⟨htoken, hrestProper⟩ := List.forall_mem_cons.1 hproper
    have hrestTokens : lexFrom [] (gap ++ text) = tokens := by
      rw [lexFrom_blanks hgap]
      exact ih hrestProper
    cases hparen : token.isParen with
    | true =>
      obtain ⟨c, hspelling, hends, hmark⟩ := spelling_of_isParen hparen
      rw [hspelling, List.singleton_append, lexFrom_of_endsWord hends, hmark, hrestTokens]
      rfl
    | false =>
      have hbehind : Apart (gap ++ text) := by
        refine hrest.apart hgap fun next hnext => ?_
        have happart := hapart next hnext
        rw [hparen] at happart
        exact happart.resolve_left Bool.false_ne_true
      rw [lexFrom_append_apart hbehind, hrestTokens,
        lexFrom_of_run_ne_nil (htoken.spelling_ne_nil hparen) (htoken.not_endsWord hparen),
        htoken.ofWord_spelling hparen]
      rfl

/-! ## The rendering that a query is -/

/-- Proper tokens with a rendering of them. -/
def Laid (tokens : List Token) (s : List Char) : Prop := (∀ t ∈ tokens, t.Proper) ∧ Renders tokens s

namespace Laid

variable {tokens : List Token} {s : List Char}

theorem nil : Laid [] [] :=
  ⟨List.forall_mem_nil _, [], [], List.forall_mem_nil _, .nil, rfl⟩

theorem blank (h : Laid tokens s) {c : Char} (hc : isBlank c) : Laid tokens (c :: s) := by
  obtain ⟨hproper, lead, text, hlead, hwritten, rfl⟩ := h
  exact ⟨hproper, c :: lead, text, List.forall_mem_cons.2 ⟨hc, hlead⟩, hwritten, rfl⟩

/-- A token goes in front of a rendering if its word is at an end there. -/
theorem cons (h : Laid tokens s) {token : Token} (htoken : token.Proper) (hapart : token.isParen ∨ Apart s) :
    Laid (token :: tokens) (token.spelling ++ s) := by
  obtain ⟨hproper, lead, text, hlead, hwritten, rfl⟩ := h
  refine ⟨List.forall_mem_cons.2 ⟨htoken, hproper⟩, [], _, List.forall_mem_nil _, .cons hlead ?_ hwritten, rfl⟩
  intro next hnext
  rcases hapart with hparen | hapart
  · exact .inl hparen
  · -- without a blank the end of the word is the beginning of the next token, which is a parenthesis then
    refine .inr (or_iff_not_imp_right.2 fun hlead' => ?_)
    obtain rfl := not_not.1 hlead'
    cases hwritten with
    | nil => cases hnext
    | @cons first gap rest text hgap hgaps hrest =>
      obtain rfl : first = next := Option.some.inj hnext
      by_contra hword
      have hword := Bool.eq_false_iff.2 hword
      have hfirst : first.Proper := hproper first List.mem_cons_self
      obtain ⟨c, spelled, hspelling⟩ := List.exists_cons_of_ne_nil (hfirst.spelling_ne_nil hword)
      have hc : c ∈ first.spelling := hspelling ▸ List.mem_cons_self
      rw [hspelling] at hapart
      exact hfirst.not_endsWord hword c hc (hapart c rfl)

theorem mark (h : Laid tokens s) {c : Char} (hc : EndsWord c) : Laid (mark c ++ tokens) (c :: s) := by
  rcases hc with hblank | rfl | rfl
  · rw [mark_of_isBlank hblank]
    exact h.blank hblank
  · have hleft : Proper .left := trivial
    exact h.cons hleft (.inl rfl)
  · have hright : Proper .right := trivial
    exact h.cons hright (.inl rfl)

/-- The open word goes in front of a rendering that begins with the end of a word. -/
theorem close (h : Laid tokens s) (hs : Apart s) {run : List Char} (hrun : ∀ c ∈ run, ¬ EndsWord c) :
    Laid (close run ++ tokens) (run.reverse ++ s) := by
  cases run with
  | nil => exact h
  | cons c run =>
    have hne : String.ofList (c :: run).reverse ≠ "" := by simp
    have htext : ∀ d ∈ (String.ofList (c :: run).reverse).toList, ¬ EndsWord d := by
      intro d hd
      rw [String.toList_ofList, List.mem_reverse] at hd
      exact hrun d hd
    have hword := h.cons (proper_ofWord hne htext) (.inr hs)
    rwa [spelling_ofWord, String.toList_ofList] at hword

end Laid

/-- **A text is a rendering of its tokens**, which are proper. -/
theorem laid_lexFrom {run : List Char} (hrun : ∀ c ∈ run, ¬ EndsWord c) (s : List Char) :
    Laid (lexFrom run s) (run.reverse ++ s) := by
  induction s generalizing run with
  | nil =>
    have hclosed := Laid.nil.close (fun c hc => by cases hc) hrun
    rwa [List.append_nil] at hclosed
  | cons c s ih =>
    by_cases hc : EndsWord c
    · have hrest : Laid (lexFrom [] s) s := ih (List.forall_mem_nil _)
      have hapart : Apart (c :: s) := by
        intro d hd
        obtain rfl : c = d := Option.some.inj hd
        exact hc
      rw [lexFrom_of_endsWord hc]
      exact (hrest.mark hc).close hapart hrun
    · have hopen := ih (List.forall_mem_cons.2 ⟨hc, hrun⟩)
      rwa [List.reverse_cons, List.append_assoc, ← lexFrom_of_not_endsWord hc] at hopen

theorem lex_eq_iff_laid {query : String} {tokens : List Token} : lex query = tokens ↔ Laid tokens query.toList := by
  constructor
  · rintro rfl
    exact laid_lexFrom (List.forall_mem_nil _) query.toList
  · rintro ⟨hproper, lead, text, hlead, hwritten, hquery⟩
    rw [lex, hquery, lexFrom_blanks hlead]
    exact lexFrom_of_written hwritten hproper

/-! ## Characters and runs -/

theorem Proper.not_isBlank {token : Token} (h : token.Proper) : ∀ c ∈ token.spelling, ¬ isBlank c := by
  intro c hc
  cases hparen : token.isParen with
  | true =>
    obtain ⟨d, hspelling, -, hmark⟩ := spelling_of_isParen hparen
    rw [hspelling, List.mem_singleton] at hc
    rw [hc]
    intro hblank
    rw [mark_of_isBlank hblank] at hmark
    cases hmark
  | false => exact fun hblank => h.not_endsWord hparen c hc (.inl hblank)

theorem filter_eq_nil_of_blanks {gap : List Char} (hgap : ∀ c ∈ gap, isBlank c) : gap.filter (!isBlank ·) = [] := by
  refine List.filter_eq_nil_iff.2 fun c hc => ?_
  simpa using hgap c hc

/-- **Only blanks are left out** when a text is cut into tokens. -/
theorem flatMap_spelling_of_written {tokens : List Token} {text : List Char} (h : Written tokens text)
    (hproper : ∀ t ∈ tokens, t.Proper) : tokens.flatMap spelling = text.filter (!isBlank ·) := by
  induction h with
  | nil => rfl
  | @cons token gap tokens text hgap hapart hrest ih =>
    obtain ⟨htoken, hrestProper⟩ := List.forall_mem_cons.1 hproper
    have hspelling : token.spelling.filter (!isBlank ·) = token.spelling := by
      refine List.filter_eq_self.2 fun c hc => ?_
      simpa using htoken.not_isBlank c hc
    rw [List.flatMap_cons, List.filter_append, List.filter_append, hspelling, filter_eq_nil_of_blanks hgap,
      List.nil_append, ih hrestProper]

theorem Laid.flatMap_spelling {tokens : List Token} {s : List Char} (h : Laid tokens s) :
    tokens.flatMap spelling = s.filter (!isBlank ·) := by
  obtain ⟨hproper, lead, text, hlead, hwritten, rfl⟩ := h
  rw [List.filter_append, filter_eq_nil_of_blanks hlead, List.nil_append,
    flatMap_spelling_of_written hwritten hproper]

/-- **A run between ends of words is one token**, and so are its neighbours what they are without it. -/
theorem lexFrom_of_maximal_run {before run behind : List Char} (hne : run ≠ []) (hrun : ∀ c ∈ run, ¬ EndsWord c)
    (hbefore : Apart before.reverse) (hbehind : Apart behind) :
    lexFrom [] (before ++ (run ++ behind)) = lexFrom [] before ++ ofWord (.ofList run) :: lexFrom [] behind := by
  have hword : lexFrom [] (run ++ behind) = ofWord (.ofList run) :: lexFrom [] behind := by
    rw [lexFrom_append_apart hbehind, lexFrom_of_run_ne_nil hne hrun]
    rfl
  rcases List.eq_nil_or_concat before with rfl | ⟨s, c, rfl⟩
  · exact hword
  · have hc : EndsWord c := hbefore c (by simp)
    rw [List.concat_eq_append, List.append_assoc, List.singleton_append, lexFrom_append hc, lexFrom_append hc, hword,
      List.append_assoc, List.append_assoc]
    rfl

/-! ## Cuts at byte offsets -/

def byteSize : List Char → Nat
  | [] => 0
  | c :: s => c.utf8Size + byteSize s

/-- The characters before and behind a byte offset; nothing if the offset is inside a character or behind the end. -/
def splitAtByte? : Nat → List Char → Option (List Char × List Char)
  | 0, s => some ([], s)
  | _ + 1, [] => none
  | n + 1, c :: s =>
    if c.utf8Size ≤ n + 1 then (splitAtByte? (n + 1 - c.utf8Size) s).map fun (before, behind) => (c :: before, behind)
    else none

/-- The characters between two byte offsets; nothing if one of them is inside a character or behind the end. -/
def slice? (s : List Char) (start stop : Nat) : Option (List Char) := do
  let (_, behind) ← splitAtByte? start s
  let (piece, _) ← splitAtByte? (stop - start) behind
  some piece

/-- The token of a word between two byte offsets, none if they are the same. -/
def cutPiece (word : List Char) (start stop : Nat) : Option (List Token) :=
  if start < stop then (slice? word start stop).map fun piece => [ofWord (.ofList piece)] else some []

/-- The tokens of the rest of a word that begins at the byte offset `offset`. The offset `start` is the one behind the
last parenthesis, or that of the word. -/
def cutFrom (word : List Char) (start offset : Nat) : List Char → Option (List Token)
  | [] => cutPiece word start (byteSize word)
  | c :: rest =>
    if c = '(' ∨ c = ')' then do
      let piece ← cutPiece word start offset
      let tokens ← cutFrom word (offset + 1) (offset + c.utf8Size) rest
      some (piece ++ mark c ++ tokens)
    else cutFrom word start (offset + c.utf8Size) rest

/-- The tokens of a query, cut out of its words; nothing if a cut falls inside a character. -/
def cutQuery (query : String) : Option (List Token) :=
  ((wordLists query.toList).mapM fun word => cutFrom word 0 0 word).map List.flatten

@[simp] theorem byteSize_nil : byteSize [] = 0 := rfl

@[simp] theorem byteSize_cons (c : Char) (s : List Char) : byteSize (c :: s) = c.utf8Size + byteSize s := rfl

@[simp] theorem byteSize_append (s t : List Char) : byteSize (s ++ t) = byteSize s + byteSize t := by
  induction s with
  | nil => exact (Nat.zero_add _).symm
  | cons c s ih => rw [List.cons_append, byteSize_cons, ih, byteSize_cons, Nat.add_assoc]

theorem byteSize_pos {s : List Char} (h : s ≠ []) : 0 < byteSize s := by
  obtain ⟨c, rest, rfl⟩ := List.exists_cons_of_ne_nil h
  have hc : 0 < c.utf8Size := Char.utf8Size_pos c
  rw [byteSize_cons]
  omega

theorem splitAtByte?_append (before behind : List Char) :
    splitAtByte? (byteSize before) (before ++ behind) = some (before, behind) := by
  induction before with
  | nil => rw [byteSize_nil, splitAtByte?, List.nil_append]
  | cons c before ih =>
    obtain ⟨n, hn⟩ : ∃ n, byteSize (c :: before) = n + 1 :=
      Nat.exists_eq_add_one.2 (byteSize_pos (List.cons_ne_nil c before))
    have hsize : c.utf8Size + byteSize before = n + 1 := by rw [← byteSize_cons, hn]
    have hrest : n + 1 - c.utf8Size = byteSize before := by omega
    rw [hn, List.cons_append, splitAtByte?, if_pos (by omega), hrest, ih]
    rfl

/-- Offsets between characters cut out the characters between them. -/
theorem slice?_append (before piece behind : List Char) :
    slice? (before ++ (piece ++ behind)) (byteSize before) (byteSize before + byteSize piece) = some piece := by
  have hstop : byteSize before + byteSize piece - byteSize before = byteSize piece := by omega
  rw [slice?, splitAtByte?_append, hstop]
  simp only [Option.bind_eq_bind, Option.bind_some, splitAtByte?_append]

theorem cutPiece_append (before run behind : List Char) :
    cutPiece (before ++ (run.reverse ++ behind)) (byteSize before) (byteSize before + byteSize run.reverse) =
      some (close run) := by
  rw [cutPiece, slice?_append]
  cases run with
  | nil => exact if_neg (Nat.lt_irrefl _)
  | cons c run =>
    have hpos : 0 < byteSize (c :: run).reverse := byteSize_pos (by simp)
    rw [if_pos (by omega)]
    rfl

/-- **Cuts fall between characters.** The word is what stands before the last cut, the open word and the rest. -/
theorem cutFrom_eq {word before run rest : List Char} (hword : word = before ++ (run.reverse ++ rest))
    (hrest : ∀ c ∈ rest, ¬ isBlank c) :
    cutFrom word (byteSize before) (byteSize before + byteSize run.reverse) rest = some (lexFrom run rest) := by
  induction rest generalizing before run with
  | nil =>
    have hsize : byteSize word = byteSize before + byteSize run.reverse := by
      rw [hword, List.append_nil, byteSize_append]
    rw [cutFrom, hsize, hword, cutPiece_append]
    rfl
  | cons c rest ih =>
    obtain ⟨hblank, hbehind⟩ := List.forall_mem_cons.1 hrest
    rw [cutFrom]
    by_cases hparen : c = '(' ∨ c = ')'
    · -- a parenthesis is one byte long, so that the next piece starts behind it
      have hbyte : c.utf8Size = 1 := by rcases hparen with rfl | rfl <;> rfl
      have hcut : before ++ (run.reverse ++ c :: rest) = before ++ run.reverse ++ [c] ++ ([].reverse ++ rest) := by simp
      have hoffset : byteSize before + byteSize run.reverse + 1 = byteSize (before ++ run.reverse ++ [c]) := by
        simp [hbyte, Nat.add_assoc]
      have htokens : cutFrom word (byteSize (before ++ run.reverse ++ [c])) (byteSize (before ++ run.reverse ++ [c]))
          rest = some (lexFrom [] rest) := ih (hword.trans hcut) hbehind
      have hpiece : cutPiece word (byteSize before) (byteSize before + byteSize run.reverse) = some (close run) := by
        rw [hword, cutPiece_append]
      rw [if_pos hparen, hbyte, hoffset, hpiece, htokens, lexFrom_of_endsWord (.inr hparen)]
      simp
    · have hends : ¬ EndsWord c := fun hends => hends.elim hblank hparen
      have hmore : before ++ (run.reverse ++ c :: rest) = before ++ ((c :: run).reverse ++ rest) := by simp
      have hoffset : byteSize before + byteSize run.reverse + c.utf8Size =
          byteSize before + byteSize (c :: run).reverse := by
        simp [Nat.add_assoc]
      rw [if_neg hparen, hoffset, ih (hword.trans hmore) hbehind, lexFrom_of_not_endsWord hends]

theorem mapM_cutFrom {words : List (List Char)} (h : ∀ word ∈ words, ∀ c ∈ word, ¬ isBlank c) :
    words.mapM (fun word => cutFrom word 0 0 word) = some (words.map (lexFrom [])) := by
  induction words with
  | nil => rfl
  | cons word words ih =>
    obtain ⟨hword, hrest⟩ := List.forall_mem_cons.1 h
    have hnothing : word = [] ++ ([].reverse ++ word) := rfl
    have htokens : cutFrom word 0 0 word = some (lexFrom [] word) := cutFrom_eq hnothing hword
    rw [List.mapM_cons, htokens, ih hrest]
    rfl

/-- No cut of a query falls inside a character, and the pieces are its tokens. -/
theorem cutQuery_eq (query : String) : cutQuery query = some (lex query) := by
  rw [cutQuery, mapM_cutFrom fun word => not_isBlank_of_mem_wordLists, Option.map_some, lex_eq_flatMap,
    List.flatMap_def]

/-- **Cutting a query into tokens and writing tokens are inverse.** For every query:
* tokens are those of the query just if they are proper and the query is a rendering of them, so that every rendering of
  proper tokens gives them back, and a query is a rendering of its tokens, which are proper;
* the spellings of the tokens are the characters of the query that are not blank, in order;
* a run of characters that are neither blanks nor parentheses is one token if no such character stands next to it;
* the tokens can be cut out of the words at byte offsets, none of which is inside a character. -/
theorem lex_inverts_rendering (query : String) :
    (∀ tokens, lex query = tokens ↔ (∀ t ∈ tokens, t.Proper) ∧ Renders tokens query.toList) ∧
    (lex query).flatMap spelling = query.toList.filter (!isBlank ·) ∧
    (∀ before run behind, query.toList = before ++ (run ++ behind) → run ≠ [] → (∀ c ∈ run, ¬ EndsWord c) →
      Apart before.reverse → Apart behind →
      lex query = lex (.ofList before) ++ ofWord (.ofList run) :: lex (.ofList behind)) ∧
    cutQuery query = some (lex query) := by
  refine ⟨fun tokens => lex_eq_iff_laid, (lex_eq_iff_laid.1 rfl).flatMap_spelling, ?_, cutQuery_eq query⟩
  intro before run behind hquery hne hrun hbefore hbehind
  rw [lex, hquery, lexFrom_of_maximal_run hne hrun hbefore hbehind, lex, lex, String.toList_ofList,
    String.toList_ofList]

/-- A rendering without a blank, where parentheses stand on both sides of a word. -/
example : lex "(größe)OR(x)" = [.left, .word "größe", .right, .or, .left, .word "x", .right] := by cbv

end Retrieval.Query.Token
