import PocketDesk.Text.Blank

/-! # Words of a text that was put together

Cutting distributes over a separator, so the words of two texts with a blank
between them are those of the first and those of the second; and a text without
any blank is a word of its own. -/

namespace PocketDesk.Text

variable {sep : Char → Bool}

theorem fields_append_cons {c : Char} (hc : sep c = true) (s r : List Char) :
    fields sep (s ++ c :: r) = fields sep s ++ fields sep r := by
  induction s with
  | nil => simp [fields, hc]
  | cons d s ih =>
    by_cases hd : sep d = true
    · simp [fields, hd, ih]
    · cases hs : fields sep s with
      | nil => exact absurd hs (fields_ne_nil sep s)
      | cons w ws => simp [fields, hd, ih, hs]

theorem fields_eq_singleton {s : List Char} (h : ∀ c ∈ s, sep c = false) :
    fields sep s = [s] := by
  induction s with
  | nil => rfl
  | cons c s ih =>
    obtain ⟨hc, hs⟩ := List.forall_mem_cons.mp h
    simp [fields, hc, ih hs]

/-- Pieces without the separator come back from what was joined at it. -/
theorem fields_join {c : Char} (hc : sep c = true) {pieces : List (List Char)}
    (h : ∀ piece ∈ pieces, ∀ d ∈ piece, sep d = false) (hne : pieces ≠ []) :
    fields sep (join [c] pieces) = pieces := by
  induction pieces with
  | nil => exact absurd rfl hne
  | cons piece pieces ih =>
    obtain ⟨hpiece, hpieces⟩ := List.forall_mem_cons.mp h
    cases pieces with
    | nil =>
      have hjoin : join [c] [piece] = piece := by simp [join]
      rw [hjoin, fields_eq_singleton hpiece]
    | cons next pieces =>
      rw [join_cons_cons, List.append_assoc, List.singleton_append, fields_append_cons hc,
        fields_eq_singleton hpiece, ih hpieces (List.cons_ne_nil _ _), List.singleton_append]

theorem words_append_cons {c : Char} (hc : isBlank c = true) (s r : List Char) :
    words (s ++ c :: r) = words s ++ words r := by
  rw [words, fields_append_cons hc, List.filter_append]
  rfl

theorem words_eq_singleton {s : List Char} (h : ∀ c ∈ s, isBlank c = false) (hs : s ≠ []) :
    words s = [s] := by
  simp [words, fields_eq_singleton h, hs]

/-- The first word of a text, if it has any. -/
def firstWord? (s : String) : Option String := (words s.toList).head?.map String.ofList

/-- A text is its own first word when it has a character and no blank. -/
theorem firstWord?_eq_self {s : String} (h : ∀ c ∈ s.toList, isBlank c = false) (hs : s ≠ "") :
    firstWord? s = some s := by
  rw [firstWord?, words_eq_singleton h (by simpa using hs), List.head?_cons, Option.map_some,
    String.ofList_toList]

/-- No blank stands in the first word. -/
theorem not_isBlank_of_firstWord? {s w : String} (h : firstWord? s = some w) :
    ∀ c ∈ w.toList, isBlank c = false := by
  obtain ⟨cs, hcs, rfl⟩ := Option.map_eq_some_iff.mp h
  intro c hc
  rw [String.toList_ofList] at hc
  exact not_isBlank_of_mem_words (List.mem_of_head? hcs) hc

/-- A character stands in one of the fields, unless it separates them. -/
theorem exists_mem_fields {s : List Char} {c : Char} (hs : c ∈ s) (hc : sep c = false) :
    ∃ w ∈ fields sep s, c ∈ w := by
  induction s with
  | nil => cases hs
  | cons d s ih =>
    simp only [fields]
    split
    · next hd =>
      rcases List.mem_cons.mp hs with rfl | hs
      · rw [hc] at hd
        cases hd
      · obtain ⟨w, hw, hcw⟩ := ih hs
        exact ⟨w, List.mem_cons_of_mem _ hw, hcw⟩
    · cases hf : fields sep s with
      | nil => exact absurd hf (fields_ne_nil sep s)
      | cons v vs =>
        rcases List.mem_cons.mp hs with rfl | hs
        · exact ⟨c :: v, by simp, by simp⟩
        · obtain ⟨w, hw, hcw⟩ := ih hs
          rw [hf] at hw
          rcases List.mem_cons.mp hw with rfl | hw
          · exact ⟨d :: w, by simp, List.mem_cons_of_mem _ hcw⟩
          · exact ⟨w, List.mem_cons_of_mem _ hw, hcw⟩

end PocketDesk.Text
