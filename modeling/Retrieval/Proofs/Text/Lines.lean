import Retrieval.Proofs.Text.ByteOrder
import Retrieval.Text.Lines

/-!
# Lines of texts

The bytes of a file are cut at line feeds. As a line feed is a byte of no other character, this cuts the text of the
file.

* `withoutReturn` : a line without the carriage return at its end;
* `lines_utf8_cons`, `lines_utf8_of_not_mem` : the first line of a text, and the only one.
-/

namespace Retrieval.Text

open String (utf8EncodeChar)

/-! ## Bytes -/

section Bytes
variable {open_ line rest : List UInt8} {b : UInt8}

theorem linesFrom_cons_of_ne (done : List (List UInt8)) (open_ : List UInt8) (h : b ≠ 0x0A) :
    linesFrom done open_ (b :: rest) = linesFrom done (b :: open_) rest := by
  rw [linesFrom.eq_def]
  exact if_neg h

theorem linesFrom_cons (done : List (List UInt8)) (open_ : List UInt8) : linesFrom done open_ (0x0A :: rest) =
    linesFrom ((if open_.head? = some 0x0D then open_.tail else open_).reverse :: done) [] rest := by
  rw [linesFrom.eq_def]
  dsimp only
  rw [if_pos rfl]
  split
  · rfl
  · next hne =>
    have hhead : open_.head? ≠ some 0x0D := by
      intro h
      obtain ⟨before, rfl⟩ := List.head?_eq_some_iff.1 h
      exact hne before rfl
    rw [if_neg hhead]

theorem linesFrom_eq_append (done : List (List UInt8)) (open_ bytes : List UInt8) :
    linesFrom done open_ bytes = done.reverse ++ linesFrom [] open_ bytes := by
  induction bytes generalizing done open_ with
  | nil =>
    rw [linesFrom, linesFrom]
    split_ifs
    · simp
    · simp
  | cons b rest ih =>
    by_cases h : b = 0x0A
    · subst h
      rw [linesFrom_cons, linesFrom_cons, ih (_ :: done), ih [_], List.reverse_cons, List.append_assoc]
      rfl
    · rw [linesFrom_cons_of_ne _ _ h, linesFrom_cons_of_ne _ _ h, ih]

theorem linesFrom_append (hline : 0x0A ∉ line) :
    linesFrom [] open_ (line ++ rest) = linesFrom [] (line.reverse ++ open_) rest := by
  induction line generalizing open_ with
  | nil => rfl
  | cons b line ih =>
    rw [List.mem_cons, not_or] at hline
    rw [List.cons_append, linesFrom_cons_of_ne _ _ (Ne.symm hline.1), ih hline.2]
    simp

theorem lines_of_not_mem (hline : 0x0A ∉ line) : lines line = if line = [] then [] else [line] := by
  have h := @linesFrom_append [] line [] hline
  rw [List.append_nil, List.append_nil] at h
  rw [lines, h, linesFrom]
  simp only [List.isEmpty_iff, List.reverse_eq_nil_iff, List.reverse_reverse]
  split_ifs
  · rfl
  · rfl

theorem lines_append_cons (hline : 0x0A ∉ line) : lines (line ++ 0x0A :: rest) =
    (if line.getLast? = some 0x0D then line.dropLast else line) :: lines rest := by
  rw [lines, linesFrom_append hline, List.append_nil, linesFrom_cons, linesFrom_eq_append, List.head?_reverse]
  split_ifs
  · rw [List.tail_reverse, List.reverse_reverse]
    rfl
  · rw [List.reverse_reverse]
    rfl

end Bytes

/-! ## Characters -/

/-- A line without the carriage return at its end, if there is one. -/
def withoutReturn (line : List Char) : List Char := if line.getLast? = some '\r' then line.dropLast else line

theorem eq_or_eq_withoutReturn_append (line : List Char) :
    line = withoutReturn line ∨ line = withoutReturn line ++ ['\r'] := by
  rw [withoutReturn]
  split_ifs with h
  · exact .inr (List.dropLast_append_getLast? _ h).symm
  · exact .inl rfl

variable {line rest : List Char}

theorem utf8_ofList (s : List Char) : utf8 (.ofList s) = s.flatMap utf8EncodeChar := by
  rw [utf8_eq_flatMap, String.toList_ofList]

theorem mem_utf8_ofList_iff {b : UInt8} {c : Char} (hc : c.toNat < 0x80) (hb : b.toNat = c.toNat) :
    b ∈ utf8 (.ofList line) ↔ c ∈ line := by
  rw [mem_utf8_iff (hb.symm ▸ hc), String.toList_ofList, hb]
  constructor
  · rintro ⟨d, hd, heq⟩
    exact Char.toNat_inj.1 heq ▸ hd
  · intro h
    exact ⟨c, h, rfl⟩

theorem lineFeed_mem_utf8_iff : 0x0A ∈ utf8 (.ofList line) ↔ '\n' ∈ line :=
  mem_utf8_ofList_iff (by decide) (by decide)

theorem utf8_ofList_eq_nil_iff : utf8 (.ofList line) = [] ↔ line = [] := by
  rw [utf8_ofList, List.flatMap_eq_nil_iff, List.eq_nil_iff_forall_not_mem]
  exact forall₂_congr fun c _ => iff_false_intro String.utf8EncodeChar_ne_nil

theorem utf8_withoutReturn : utf8 (.ofList (withoutReturn line)) =
    if (utf8 (.ofList line)).getLast? = some 0x0D then (utf8 (.ofList line)).dropLast else utf8 (.ofList line) := by
  obtain rfl | ⟨front, last, rfl⟩ := line.eq_nil_or_concat'
  · simp [withoutReturn, utf8_ofList_eq_nil_iff.2]
  · have hbytes : utf8 (.ofList (front ++ [last])) = utf8 (.ofList front) ++ utf8 (.ofList [last]) := by
      rw [utf8_ofList, utf8_ofList, utf8_ofList, List.flatMap_append]
    simp only [withoutReturn, List.getLast?_concat, List.dropLast_concat, Option.some_inj]
    by_cases hlast : last = '\r'
    · have hreturn : utf8 (.ofList ['\r']) = [0x0D] := by
        rw [utf8_ofList]
        rfl
      rw [if_pos hlast, hbytes, hlast, hreturn, List.getLast?_concat, List.dropLast_concat, if_pos rfl]
    · -- no other character ends in the byte of a carriage return
      have hnot : 0x0D ∉ utf8 (.ofList [last]) := by
        rw [mem_utf8_ofList_iff (c := '\r') (by decide) (by decide), List.mem_singleton]
        exact Ne.symm hlast
      have hne : utf8 (.ofList [last]) ≠ [] := mt utf8_ofList_eq_nil_iff.1 (List.cons_ne_nil _ _)
      rw [if_neg hlast, hbytes, List.getLast?_append_of_ne_nil _ hne, if_neg (mt List.mem_of_getLast? hnot)]

theorem lines_utf8_of_not_mem (hline : '\n' ∉ line) :
    lines (utf8 (.ofList line)) = if line = [] then [] else [utf8 (.ofList line)] := by
  rw [lines_of_not_mem (mt lineFeed_mem_utf8_iff.1 hline)]
  simp only [utf8_ofList_eq_nil_iff]

theorem lines_utf8_cons (hline : '\n' ∉ line) : lines (utf8 (.ofList (line ++ '\n' :: rest))) =
    utf8 (.ofList (withoutReturn line)) :: lines (utf8 (.ofList rest)) := by
  have hbytes : utf8 (.ofList (line ++ '\n' :: rest)) = utf8 (.ofList line) ++ 0x0A :: utf8 (.ofList rest) := by
    rw [utf8_ofList, utf8_ofList, utf8_ofList, List.flatMap_append, List.flatMap_cons]
    rfl
  rw [hbytes, lines_append_cons (mt lineFeed_mem_utf8_iff.1 hline), utf8_withoutReturn]

end Retrieval.Text
