import PocketDesk.Markup.PlainText
import PocketDesk.Proofs.Text.LowerCase

/-! # What a tag does to the plain text

A tag leaves nothing behind, except that one whose name begins with that of a break
starts a new line. Since entities are decoded and lines are cut only when all tags
are gone, a tag may be taken out, or written as a plain break, wherever it stands: in front
of it every tag must be closed, or it is part of that tag itself. -/

namespace PocketDesk.Markup

/-! ## Texts that end outside of a tag -/

/-- Behind every `<` there is a `>`. -/
def Closed : List Char → Prop
  | [] => True
  | c :: r => (c = '<' → '>' ∈ r) ∧ Closed r

variable {s tag r : List Char}

/-- Behind a closed text reading starts anew, if a tag that is open before it ends in it. -/
theorem dropTagsFrom_append (hs : Closed s) (r : List Char) :
    dropTagsFrom none (s ++ r) = dropTagsFrom none s ++ dropTags r ∧
      ('>' ∈ s → ∀ tag, dropTagsFrom (some tag) (s ++ r) = dropTagsFrom (some tag) s ++ dropTags r) := by
  induction s with
  | nil => exact ⟨rfl, nofun⟩
  | cons c s ih =>
    obtain ⟨hopen, hs⟩ := hs
    obtain ⟨houtside, hinside⟩ := ih hs
    simp only [List.cons_append, dropTagsFrom]
    refine ⟨?_, fun hmem tag => ?_⟩
    · by_cases hc : c = '<'
      · rw [if_pos hc, if_pos hc, hinside (hopen hc)]
      · rw [if_neg hc, if_neg hc, houtside]
        split <;> rfl
    · by_cases hc : c = '>'
      · rw [if_pos hc, if_pos hc, houtside, List.append_assoc]
      · have hmem : '>' ∈ s := (List.mem_cons.mp hmem).resolve_left (Ne.symm hc)
        rw [if_neg hc, if_neg hc, hinside hmem]

theorem dropTags_append_of_closed (hs : Closed s) (r : List Char) :
    dropTags (s ++ r) = dropTags s ++ dropTags r := (dropTagsFrom_append hs r).1

/-! ## One tag -/

theorem dropTagsFrom_some_append (htag : '>' ∉ tag) (before r : List Char) :
    dropTagsFrom (some before) (tag ++ '>' :: r) = tagText (before.reverse ++ tag) ++ dropTags r := by
  induction tag generalizing before with
  | nil => rw [List.nil_append, dropTagsFrom, if_pos rfl, List.append_nil, dropTags]
  | cons c tag ih =>
    obtain ⟨hc, htag⟩ := not_or.mp (mt List.mem_cons.mpr htag)
    rw [List.cons_append, dropTagsFrom, if_neg (Ne.symm hc), ih htag, List.reverse_cons,
      List.append_assoc, List.singleton_append]

theorem dropTags_tag (htag : '>' ∉ tag) (r : List Char) :
    dropTags ('<' :: (tag ++ '>' :: r)) = tagText tag ++ dropTags r := by
  rw [dropTags, dropTagsFrom, if_pos rfl, dropTagsFrom_some_append htag]
  rfl

/-- **A tag between two texts** leaves behind what it leaves alone. -/
theorem dropTags_insert (hs : Closed s) (htag : '>' ∉ tag) (r : List Char) :
    dropTags (s ++ '<' :: (tag ++ '>' :: r)) = dropTags s ++ tagText tag ++ dropTags r := by
  rw [dropTags_append_of_closed hs, dropTags_tag htag, List.append_assoc]

/-! ## The name of a tag -/

/-- The name of the element: what stands up to a blank or a slash, behind the blanks and slashes
that the tag begins with. -/
def elementName (tag : List Char) : List Char :=
  ((Text.trim tag).dropWhile (· = '/')).takeWhile fun c => !Text.isBlank c && c ≠ '/'

/-- A name as it is compared, which is without regard to case. -/
def folded (name : List Char) : List Char := name.map Char.toLower

def breakName : List Char := ['b', 'r']

theorem isNameChar_of_mem_breakName {c : Char} (h : c.toLower ∈ breakName) :
    (!Text.isBlank c && c ≠ '/') = true := by
  have hlower : ∀ d ∈ breakName, d.isLower = true := by
    simp only [breakName, List.forall_mem_cons]
    exact ⟨rfl, rfl, nofun⟩
  have halpha : c.isAlpha = true := Text.isAlpha_of_isLower_toLower (hlower _ h)
  have hslash : c ≠ '/' := by
    rintro rfl
    exact absurd halpha (by decide)
  simp [Text.not_isBlank_of_isAlpha halpha, hslash]

/-- A beginning without the characters that end a name lies within the name. -/
theorem prefix_folded_takeWhile_iff {p : Char → Bool} {start s : List Char}
    (hstart : ∀ c : Char, c.toLower ∈ start → p c = true) :
    start <+: folded (s.takeWhile p) ↔ start <+: folded s := by
  induction s generalizing start with
  | nil => rfl
  | cons c s ih =>
    cases start with
    | nil => exact iff_of_true List.nil_prefix List.nil_prefix
    | cons d start =>
      have htail := ih fun c hc => hstart c (List.mem_cons_of_mem d hc)
      by_cases hc : p c = true
      · rw [List.takeWhile_cons_of_pos hc]
        simp only [folded, List.map_cons, List.cons_prefix_cons]
        exact and_congr_right fun _ => htail
      · rw [List.takeWhile_cons_of_neg hc]
        refine iff_of_false (List.cons_ne_nil d start ∘ List.prefix_nil.mp) fun h => hc (hstart c ?_)
        rw [(List.cons_prefix_cons.mp h).1]
        exact List.mem_cons_self

/-- **A break is any tag whose name begins with that of a break.** -/
theorem isBreak_iff (tag : List Char) :
    isBreak tag = true ↔ breakName <+: folded (elementName tag) := by
  rw [elementName, prefix_folded_takeWhile_iff fun _ => isNameChar_of_mem_breakName]
  exact List.isPrefixOf_iff_prefix

/-! ## The plain text -/

theorem strip_eq_of_dropTags_eq {first second : String}
    (h : dropTags first.toList = dropTags second.toList) : strip first = strip second := by
  rw [strip, strip, plainText, plainText, h]

/-- **A tag counts as a break, or not at all.** It is a break if its name begins with that of one,
whatever else the name goes on with; any other tag might as well not be there. -/
theorem strip_insert_tag {a t : String} (ha : Closed a.toList) (ht : '>' ∉ t.toList) (b : String) :
    (breakName <+: folded (elementName t.toList) →
        strip (a ++ "<" ++ t ++ ">" ++ b) = strip (a ++ "<br>" ++ b)) ∧
      (¬ breakName <+: folded (elementName t.toList) →
        strip (a ++ "<" ++ t ++ ">" ++ b) = strip (a ++ b)) := by
  have hdrop : dropTags (a ++ "<" ++ t ++ ">" ++ b).toList =
      dropTags a.toList ++ tagText t.toList ++ dropTags b.toList := by
    rw [← dropTags_insert ha ht]
    simp [String.toList_append]
  refine ⟨fun hbreak => strip_eq_of_dropTags_eq ?_, fun hother => strip_eq_of_dropTags_eq ?_⟩
  · have hplain : dropTags (a ++ "<br>" ++ b).toList =
        dropTags a.toList ++ tagText breakName ++ dropTags b.toList := by
      rw [← dropTags_insert ha (by decide : '>' ∉ breakName)]
      simp [String.toList_append, breakName]
    rw [hdrop, hplain, tagText, if_pos ((isBreak_iff _).mpr hbreak)]
    rfl
  · rw [hdrop, tagText, if_neg (mt (isBreak_iff _).mp hother), List.append_nil,
      String.toList_append, dropTags_append_of_closed ha]

/-- Two tags in the middle of an entity: one with another in its body, and a break. -/
theorem strip_insert_tag_in_entity :
    Closed "<i>&l".toList ∧
      ('>' ∉ "img alt='<br'".toList ∧ ¬ breakName <+: folded (elementName "img alt='<br'".toList) ∧
        strip ("<i>&l" ++ "<" ++ "img alt='<br'" ++ ">" ++ "t;</i>") =
          strip ("<i>&l" ++ "t;</i>")) ∧
      '>' ∉ "/BR/".toList ∧ breakName <+: folded (elementName "/BR/".toList) ∧
        strip ("<i>&l" ++ "<" ++ "/BR/" ++ ">" ++ "t;</i>") =
          strip ("<i>&l" ++ "<br>" ++ "t;</i>") := by
  have hclosed : Closed "<i>&l".toList := by simp [Closed]
  have himg : '>' ∉ "img alt='<br'".toList := by decide
  have himgName : ¬ breakName <+: folded (elementName "img alt='<br'".toList) := by decide
  have hbr : '>' ∉ "/BR/".toList := by decide
  have hbrName : breakName <+: folded (elementName "/BR/".toList) := by decide
  exact ⟨hclosed, ⟨himg, himgName, (strip_insert_tag hclosed himg "t;</i>").2 himgName⟩,
    hbr, hbrName, (strip_insert_tag hclosed hbr "t;</i>").1 hbrName⟩

/-- **A name that only begins like that of a break starts a new line.** -/
theorem strip_breaks_at_brand :
    Closed "a".toList ∧ '>' ∉ "brand".toList ∧ folded (elementName "brand".toList) ≠ breakName ∧
      strip ("a" ++ "<" ++ "brand" ++ ">" ++ "b") = "a\nb" ∧ strip ("a" ++ "b") = "ab" := by
  refine ⟨by simp [Closed], by decide, by decide, ?_, ?_⟩ <;> decide

end PocketDesk.Markup
