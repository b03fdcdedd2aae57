import PocketDesk.Text.Split

/-! Blanks are the characters with the property White_Space. The input line, the
completion buffer and the plain form of markup all use this one set: texts are
trimmed at blanks, and a line falls into the words that stand between them. -/

namespace PocketDesk.Text

def isBlank (c : Char) : Bool :=
  let n := c.toNat
  (0x9 ≤ n && n ≤ 0xd) || n == 0x20 || n == 0x85 || n == 0xa0 || n == 0x1680 ||
    (0x2000 ≤ n && n ≤ 0x200a) || n == 0x2028 || n == 0x2029 || n == 0x202f || n == 0x205f ||
    n == 0x3000

theorem isBlank_of_isWhitespace {c : Char} (h : c.isWhitespace = true) : isBlank c = true := by
  simp only [Char.isWhitespace, Bool.or_eq_true, decide_eq_true_eq] at h
  obtain ((rfl | rfl) | rfl) | rfl := h <;> decide

def trimStart (s : List Char) : List Char := s.dropWhile isBlank

def trimEnd (s : List Char) : List Char := dropLastWhile isBlank s

def trim (s : List Char) : List Char := trimEnd (trimStart s)

/-- The maximal runs of characters that are not blank, in order. -/
def words (s : List Char) : List (List Char) :=
  (fields isBlank s).filter fun w => !w.isEmpty

theorem words_ne_nil {s w : List Char} (h : w ∈ words s) : w ≠ [] := by
  simp only [words, List.mem_filter] at h
  rintro rfl
  simp at h

theorem not_isBlank_of_mem_words {s w : List Char} (h : w ∈ words s) {c : Char} (hc : c ∈ w) :
    isBlank c = false :=
  sep_eq_false_of_mem_fields (List.mem_filter.1 h).1 hc

end PocketDesk.Text
