import PocketDesk.Markup.PlainText
import PocketDesk.Proofs.Markup.Entity
import PocketDesk.Proofs.Text.Words

/-! # Escaped text comes back

A text is put into markup by escaping the five characters that markup treats specially.
The plain form of escaped lines with break tags between them is the lines again: no tag
is found in them but the breaks, every entity that was put in is decoded once, and lines
that are trimmed already, with text in the first and the last, lose nothing. -/

namespace PocketDesk.Markup

/-- A character as it is written in markup. -/
def escapeChar (c : Char) : List Char :=
  match c with
  | '&' => "&amp;".toList
  | '<' => "&lt;".toList
  | '>' => "&gt;".toList
  | '"' => "&quot;".toList
  | '\'' => "&#39;".toList
  | c => [c]

def escapeChars (s : List Char) : List Char := s.flatMap escapeChar

def escape (s : String) : String := String.ofList (escapeChars s.toList)

/-- A character becomes the entity that gives it, or stays, and then it is not special. -/
theorem escapeChar_cases (c : Char) :
    (∃ e ∈ entities, escapeChar c = e.1.toList ∧ e.2 = c) ∨
      (escapeChar c = [c] ∧ c ≠ '&' ∧ c ≠ '<') := by
  unfold escapeChar
  split
  · exact .inl ⟨("&amp;", '&'), by decide, rfl, rfl⟩
  · exact .inl ⟨("&lt;", '<'), by decide, rfl, rfl⟩
  · exact .inl ⟨("&gt;", '>'), by decide, rfl, rfl⟩
  · exact .inl ⟨("&quot;", '"'), by decide, rfl, rfl⟩
  · exact .inl ⟨("&#39;", '\''), by decide, rfl, rfl⟩
  · next hamp hlt _ _ _ => exact .inr ⟨rfl, hamp, hlt⟩

/-! ## Entities -/

/-- An escaped text falls into pieces that stand for its characters. -/
theorem exists_pieces (s : List Char) :
    ∃ pieces, Apart pieces ∧ write entities pieces = escapeChars s ∧ pieces.map Piece.value = s := by
  induction s with
  | nil => exact ⟨[], trivial, rfl, rfl⟩
  | cons c s ih =>
    obtain ⟨pieces, hapart, hwrite, hvalues⟩ := ih
    rw [escapeChars, List.flatMap_cons, ← escapeChars, ← hwrite]
    rcases escapeChar_cases c with ⟨e, he, hname, rfl⟩ | ⟨hsame, hamp, -⟩
    · refine ⟨.entity e :: pieces, ⟨he, hapart⟩, ?_, by rw [List.map_cons, hvalues]; rfl⟩
      rw [write, List.flatMap_cons, Piece.write, if_pos he, hname]
      rfl
    · refine ⟨.char c :: pieces, ⟨fun e he h => hamp ?_, hapart⟩, ?_, by
        rw [List.map_cons, hvalues]; rfl⟩
      · obtain ⟨inner, hname, -⟩ := exists_inner he
        rw [hname] at h
        exact (List.cons_prefix_cons.mp h).1.symm
      · rw [hsame]
        rfl

/-- **Escaping is undone by decoding.** -/
theorem decodeEntities_escapeChars (s : List Char) : decodeEntities (escapeChars s) = s := by
  obtain ⟨pieces, hapart, hwrite, hvalues⟩ := exists_pieces s
  rw [← hwrite, decodeEntities_write hapart, hvalues]

/-! ## Tags -/

/-- A character that is neither the start of a tag nor the end of a line of the source. -/
def IsPlain (c : Char) : Prop := c ≠ '<' ∧ c ≠ '\n' ∧ c ≠ '\r'

theorem isPlain_of_mem_escapeChars {s : List Char} (h : ∀ c ∈ s, c ≠ '\n' ∧ c ≠ '\r') :
    ∀ c ∈ escapeChars s, IsPlain c := by
  have hentities : ∀ e ∈ entities, ∀ c ∈ e.1.toList, c ≠ '<' ∧ c ≠ '\n' ∧ c ≠ '\r' := by
    simp [entities]
  intro c hc
  obtain ⟨d, hd, hc⟩ := List.mem_flatMap.mp hc
  rcases escapeChar_cases d with ⟨e, he, hname, -⟩ | ⟨hsame, -, hlt⟩
  · exact hentities e he c (hname ▸ hc)
  · rw [hsame] at hc
    obtain rfl := List.mem_singleton.mp hc
    exact ⟨hlt, h c hd⟩

theorem dropTags_append {s : List Char} (h : ∀ c ∈ s, IsPlain c) (r : List Char) :
    dropTags (s ++ r) = s ++ dropTags r := by
  induction s with
  | nil => rfl
  | cons c s ih =>
    obtain ⟨⟨hlt, hends⟩, hs⟩ := List.forall_mem_cons.mp h
    have hends : ¬ (c = '\n' ∨ c = '\r') := not_or.mpr hends
    rw [List.cons_append, dropTags, dropTagsFrom, if_neg hlt, if_neg hends]
    exact congrArg (c :: ·) (ih hs)

theorem dropTags_break (r : List Char) : dropTags ("<br>".toList ++ r) = '\n' :: dropTags r := rfl

/-- Only the breaks between the lines are taken for tags. -/
theorem dropTags_join {lines : List (List Char)}
    (h : ∀ line ∈ lines, ∀ c ∈ line, c ≠ '\n' ∧ c ≠ '\r') :
    dropTags (Text.join "<br>".toList (lines.map escapeChars)) =
      escapeChars (Text.join ['\n'] lines) := by
  induction lines with
  | nil => rfl
  | cons line lines ih =>
    obtain ⟨hline, hlines⟩ := List.forall_mem_cons.mp h
    have hplain := isPlain_of_mem_escapeChars hline
    cases lines with
    | nil =>
      have hdrop := dropTags_append hplain []
      simpa [Text.join, dropTags, dropTagsFrom] using hdrop
    | cons next lines =>
      rw [List.map_cons, List.map_cons, Text.join_cons_cons, List.append_assoc,
        dropTags_append hplain, dropTags_break, ← List.map_cons, ih hlines, Text.join_cons_cons]
      simp only [escapeChars, List.flatMap_append, List.append_assoc]
      rfl

/-! ## Lines -/

/-- A line of text, with no blank at either end. -/
structure IsLine (line : String) : Prop where
  inner : ∀ c ∈ line.toList, c ≠ '\n' ∧ c ≠ '\r'
  first : ∀ c, line.toList.head? = some c → Text.isBlank c = false
  last : ∀ c, line.toList.getLast? = some c → Text.isBlank c = false

theorem dropWhile_of_head? {α : Type} {p : α → Bool} {l : List α}
    (h : ∀ x, l.head? = some x → p x = false) : l.dropWhile p = l := by
  cases l with
  | nil => rfl
  | cons x l => rw [List.dropWhile_cons_of_neg (by simp [h x rfl])]

theorem IsLine.trim {line : String} (h : IsLine line) : Text.trim line.toList = line.toList := by
  have hlast : ∀ c, line.toList.reverse.head? = some c → Text.isBlank c = false := by
    rw [List.head?_reverse]
    exact h.last
  rw [Text.trim, Text.trimStart, dropWhile_of_head? h.first, Text.trimEnd, Text.dropLastWhile,
    dropWhile_of_head? hlast, List.reverse_reverse]

/-- Nothing is cut from lines that begin with some text. -/
theorem dropWhile_isEmpty {lines : List String} (h : lines.head? ≠ some "") :
    (lines.map String.toList).dropWhile List.isEmpty = lines.map String.toList := by
  refine dropWhile_of_head? fun line hline => ?_
  rw [List.head?_map] at hline
  obtain ⟨l, hl, rfl⟩ := Option.map_eq_some_iff.mp hline
  have hne : l ≠ "" := fun hempty => h (hempty ▸ hl)
  simpa using hne

/-- Lines that are trimmed already, with some text in the first and the last, stay. -/
theorem trimLines_join {lines : List String} (hlines : ∀ line ∈ lines, IsLine line)
    (hfirst : lines.head? ≠ some "") (hlast : lines.getLast? ≠ some "") (hne : lines ≠ []) :
    trimLines (Text.join ['\n'] (lines.map String.toList)) = lines.map String.toList := by
  have hinner : ∀ line ∈ lines.map String.toList, ∀ c ∈ line, (c == '\n') = false := by
    intro line hline c hc
    obtain ⟨l, hl, rfl⟩ := List.mem_map.mp hline
    exact beq_false_of_ne ((hlines l hl).inner c hc).1
  have hfields : Text.fields (· == '\n') (Text.join ['\n'] (lines.map String.toList)) =
      lines.map String.toList := by
    refine Text.fields_join ?_ hinner (List.map_eq_nil_iff.not.mpr hne)
    rfl
  have htrim : (lines.map String.toList).map Text.trim = lines.map String.toList := by
    rw [List.map_map]
    exact List.map_congr_left fun line hline => (hlines line hline).trim
  have hend : lines.reverse.head? ≠ some "" := by rwa [List.head?_reverse]
  simp only [trimLines, hfields, htrim, dropWhile_isEmpty hfirst]
  rw [← List.map_reverse, dropWhile_isEmpty hend, ← List.map_reverse, List.reverse_reverse]

/-- **The plain form of escaped lines is the lines**, whatever they hold, be it something that looks
like a tag or an entity. -/
theorem strip_escape {lines : List String} (hlines : ∀ line ∈ lines, IsLine line)
    (hfirst : lines.head? ≠ some "") (hlast : lines.getLast? ≠ some "") :
    strip ("<br>".intercalate (lines.map escape)) = "\n".intercalate lines := by
  have hescaped : ("<br>".intercalate (lines.map escape)).toList =
      Text.join "<br>".toList ((lines.map String.toList).map escapeChars) := by
    rw [String.toList_intercalate, List.map_map, List.map_map]
    congr 1
    exact List.map_congr_left fun line _ => String.toList_ofList
  have hinner : ∀ line ∈ lines.map String.toList, ∀ c ∈ line, c ≠ '\n' ∧ c ≠ '\r' := by
    intro line hline
    obtain ⟨l, hl, rfl⟩ := List.mem_map.mp hline
    exact (hlines l hl).inner
  rw [← String.toList_inj, strip, String.toList_ofList, plainText, hescaped, dropTags_join hinner,
    decodeEntities_escapeChars, String.toList_intercalate]
  by_cases hne : lines = []
  · subst hne
    rfl
  · rw [trimLines_join hlines hfirst hlast hne]
    rfl

/-- An inner line may be empty, and a line may look like markup. -/
theorem strip_escape_of_markup :
    strip ("<br>".intercalate (["a &lt; b", "", "\"<br>\""].map escape)) =
      "\n".intercalate ["a &lt; b", "", "\"<br>\""] := by
  refine strip_escape ?_ (by decide) (by decide)
  simp only [List.forall_mem_cons]
  refine ⟨⟨by simp, ?_, ?_⟩, ⟨by simp, nofun, nofun⟩, ⟨by simp, ?_, ?_⟩, nofun⟩
  · rintro c ⟨⟩
    decide
  · rintro c ⟨⟩
    decide
  · rintro c ⟨⟩
    decide
  · rintro c ⟨⟩
    decide

end PocketDesk.Markup
