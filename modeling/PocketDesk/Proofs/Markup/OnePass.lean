import PocketDesk.Proofs.Markup.Entity

/-! # Decoding in one pass

A reader who goes through a text once, from the left, and gives for each entity that he
meets its character, ends with the same text as all the replacements one after another.
For what a replacement puts in place neither completes another entity nor breaks one, as
long as there are any left; the ampersand, with which that could happen, comes last. -/

namespace PocketDesk.Markup

/-! ## One pass -/

def entityAt? (s : List Char) : Option Entity := entities.find? fun e => e.1.toList.isPrefixOf s

/-- The text read once: an entity gives its character and is passed over, and any other character
is copied. -/
def decodeOnce : List Char → List Char
  | [] => []
  | c :: r =>
    match entityAt? (c :: r) with
    -- one character of the entity is `c`
    | some e => e.2 :: decodeOnce (r.drop (e.1.toList.length - 1))
    | none => c :: decodeOnce r
termination_by s => s.length

theorem of_entityAt?_eq_some {s : List Char} {e : Entity} (h : entityAt? s = some e) :
    e ∈ entities ∧ e.1.toList <+: s := by
  have h : entities.find? (fun e => e.1.toList.isPrefixOf s) = some e := h
  have hstart := List.find?_some h
  exact ⟨List.mem_of_find?_eq_some h, List.isPrefixOf_iff_prefix.mp hstart⟩

theorem not_starts_of_entityAt?_eq_none {s : List Char} (h : entityAt? s = none) {e : Entity}
    (he : e ∈ entities) : ¬ e.1.toList <+: s :=
  fun hstart => List.find?_eq_none.mp h e he (List.isPrefixOf_iff_prefix.mpr hstart)

/-- The pieces into which a text falls, and what the pass gives for them. -/
theorem exists_pieces_read (s : List Char) :
    ∃ pieces, Apart pieces ∧ write entities pieces = s ∧ pieces.map Piece.value = decodeOnce s := by
  fun_induction decodeOnce s with
  | case1 => exact ⟨[], trivial, rfl, rfl⟩
  | case2 c r e hstart ih =>
    obtain ⟨pieces, hapart, hwrite, hvalues⟩ := ih
    obtain ⟨he, rest, htext⟩ := of_entityAt?_eq_some hstart
    obtain ⟨inner, hname, -, -⟩ := exists_inner he
    refine ⟨.entity e :: pieces, ⟨he, hapart⟩, ?_, by rw [List.map_cons, hvalues]; rfl⟩
    rw [write_cons, Piece.write, if_pos he, hwrite, ← htext]
    obtain ⟨rfl, rfl⟩ := List.cons.inj ((hname ▸ htext : '&' :: inner ++ rest = c :: r))
    simp [hname]
  | case3 c r hnone ih =>
    obtain ⟨pieces, hapart, hwrite, hvalues⟩ := ih
    refine ⟨.char c :: pieces, ⟨fun e he => ?_, hapart⟩, ?_, by rw [List.map_cons, hvalues]; rfl⟩
    · rw [hwrite]
      exact not_starts_of_entityAt?_eq_none hnone he
    · rw [write_cons, hwrite]
      rfl

/-! ## Where an entity stands -/

/-- What is in front of each place where `target` starts, from the left. -/
def places (target : List Char) : List Char → List (List Char)
  | [] => []
  | c :: r => (if target.isPrefixOf (c :: r) then [[]] else []) ++ (places target r).map (c :: ·)

variable {target s r : List Char}

theorem prefix_of_mem_places {front : List Char} (h : front ∈ places target s) : front <+: s := by
  induction s generalizing front with
  | nil => cases h
  | cons c s ih =>
    rcases List.mem_append.mp h with h | h
    · split at h
      · rw [List.mem_singleton.mp h]
        exact List.nil_prefix
      · cases h
    · obtain ⟨rest, hrest, rfl⟩ := List.mem_map.mp h
      exact List.cons_prefix_cons.mpr ⟨rfl, ih hrest⟩

theorem places_cons_of_not_starts {c : Char} (h : ¬ target <+: c :: r) :
    places target (c :: r) = (places target r).map (c :: ·) := by
  rw [places, if_neg (mt List.isPrefixOf_iff_prefix.mp h), List.nil_append]

theorem places_append_of_ne {c : Char} (hs : c ∉ s) (r : List Char) :
    places (c :: target) (s ++ r) = (places (c :: target) r).map (s ++ ·) := by
  induction s with
  | nil => exact (List.map_id _).symm
  | cons d s ih =>
    obtain ⟨hne, hs⟩ := not_or.mp (mt List.mem_cons.mpr hs)
    have hstart : ¬ (c :: target <+: d :: (s ++ r)) := fun h => hne (List.cons_prefix_cons.mp h).1
    rw [List.cons_append, places_cons_of_not_starts hstart, ih hs, List.map_map]
    rfl

/-- Within an entity none starts but at its ampersand. -/
theorem places_entity_append {e f : Entity} (he : e ∈ entities) (hf : f ∈ entities)
    (r : List Char) :
    places f.1.toList (e.1.toList ++ r) =
      (if e = f then [[]] else []) ++ (places f.1.toList r).map (e.1.toList ++ ·) := by
  obtain ⟨inner, hname, hamp, -⟩ := exists_inner he
  obtain ⟨rest, hfname, -, -⟩ := exists_inner hf
  have hstart : f.1.toList.isPrefixOf ('&' :: (inner ++ r)) = decide (e = f) := by
    rw [← List.cons_append, ← hname, Bool.eq_iff_iff, List.isPrefixOf_iff_prefix, decide_eq_true_eq]
    constructor
    · exact fun h => Classical.byContradiction fun hne => not_starts_at_other hf he hne r h
    · rintro rfl
      exact List.prefix_append _ _
  have hinner : places f.1.toList (inner ++ r) = (places f.1.toList r).map (inner ++ ·) := by
    rw [hfname]
    exact places_append_of_ne hamp r
  rw [hname, List.cons_append, places, hstart, hinner, List.map_map]
  simp only [decide_eq_true_eq]
  rfl

/-! ## What a replacement does to the others -/

variable {todo : List Entity} {pieces : List Piece} {f : Entity}

/-- An entity starts at a piece only if it is that piece and has not had its turn. -/
theorem places_piece_append (htodo : todo <:+ entities) (hne : todo ≠ []) (hf : f ∈ entities)
    {piece : Piece} (hapart : Apart (piece :: pieces)) (hpiece : ¬ (piece = .entity f ∧ f ∈ todo)) :
    places f.1.toList (write todo (piece :: pieces)) =
      (places f.1.toList (write todo pieces)).map (piece.write todo ++ ·) := by
  rw [write_cons]
  cases piece with
  | char c => exact places_cons_of_not_starts (hapart.not_starts hf todo)
  | entity g =>
    have hg : g ∈ entities := hapart.1
    rw [Piece.write]
    split
    · next hlater =>
      have hgf : g ≠ f := by
        rintro rfl
        exact hpiece ⟨rfl, hlater⟩
      rw [places_entity_append hg hf, if_neg hgf, List.nil_append]
    · next hdone =>
      obtain ⟨inner, hname, -, -⟩ := exists_inner hf
      refine places_cons_of_not_starts fun h => value_ne_of_not_mem htodo hne g hg hdone ?_
      rw [hname] at h
      exact (List.cons_prefix_cons.mp h).1.symm

/-- An entity that has had its turn stands nowhere any more. -/
theorem places_eq_nil (htodo : todo <:+ entities) (hne : todo ≠ []) (hf : f ∈ entities)
    (hdone : f ∉ todo) (hapart : Apart pieces) : places f.1.toList (write todo pieces) = [] := by
  induction pieces with
  | nil => rfl
  | cons piece pieces ih =>
    rw [places_piece_append htodo hne hf hapart fun h => hdone h.2, ih hapart.tail, List.map_nil]

/-- **Replacing one entity** moves the places of another along with the text in front of them. -/
theorem places_replaced {e : Entity} (htodo : e :: todo <:+ entities) (hne : todo ≠ [])
    (hf : f ∈ entities) (hfe : f ≠ e) (hapart : Apart pieces) :
    places f.1.toList (write todo pieces) =
      (places f.1.toList (write (e :: todo) pieces)).map (replaceAll e.1.toList [e.2]) := by
  have hlater : todo <:+ entities := (List.suffix_cons e todo).trans htodo
  induction pieces with
  | nil => rfl
  | cons piece pieces ih =>
    have hfront : ((places f.1.toList (write (e :: todo) pieces)).map
          (piece.write (e :: todo) ++ ·)).map (replaceAll e.1.toList [e.2]) =
        (places f.1.toList (write todo pieces)).map (piece.write todo ++ ·) := by
      rw [ih hapart.tail, List.map_map, List.map_map]
      refine List.map_congr_left fun front hmem => ?_
      exact replaceAll_piece_append htodo hapart (prefix_of_mem_places hmem)
    by_cases hpiece : piece = .entity f ∧ f ∈ todo
    · obtain ⟨rfl, hftodo⟩ := hpiece
      have hbefore : f ∈ e :: todo := List.mem_cons_of_mem e hftodo
      rw [Piece.write, if_pos hbefore, Piece.write, if_pos hftodo] at hfront
      rw [write_cons, Piece.write, if_pos hftodo, write_cons, Piece.write, if_pos hbefore,
        places_entity_append hf hf, places_entity_append hf hf, if_pos rfl, List.map_append, hfront]
      rfl
    · have hpieceBefore : ¬ (piece = .entity f ∧ f ∈ e :: todo) :=
        fun h => hpiece ⟨h.1, (List.mem_cons.mp h.2).resolve_left hfe⟩
      rw [places_piece_append hlater hne hf hapart hpiece,
        places_piece_append htodo (List.cons_ne_nil _ _) hf hapart hpieceBefore, hfront]

/-- **Replacing the entities one after another is reading the text once.** As long as some are left,
a replacement neither makes nor breaks another entity: in the new text each stands where it
stood, behind the same text with the replacement made. When the last one has its turn there is no
other left that it could break, and none is looked for in what it makes. -/
theorem decodeEntities_eq_decodeOnce (s : List Char) :
    decodeEntities s = decodeOnce s ∧
      ∀ earlier e later, entities = earlier ++ e :: later → ∀ f ∈ entities, f ≠ e →
        (later ≠ [] →
          places f.1.toList (replaceEach (earlier ++ [e]) s) =
            (places f.1.toList (replaceEach earlier s)).map (replaceAll e.1.toList [e.2])) ∧
        (later = [] → places f.1.toList (replaceEach earlier s) = []) := by
  obtain ⟨pieces, hapart, rfl, hvalues⟩ := exists_pieces_read s
  refine ⟨by rw [← hvalues, decodeEntities_write hapart], ?_⟩
  intro earlier e later hsplit f hf hfe
  have htodo : e :: later <:+ entities := ⟨earlier, hsplit.symm⟩
  have hstage : ∀ passed todo, entities = passed ++ todo →
      replaceEach passed (write entities pieces) = write todo pieces := by
    intro passed todo h
    rw [h]
    exact replaceEach_write (h ▸ List.suffix_rfl) hapart
  rw [hstage earlier (e :: later) hsplit, hstage (earlier ++ [e]) later (by simp [hsplit])]
  refine ⟨fun hlater => places_replaced htodo hlater hf hfe hapart, ?_⟩
  rintro rfl
  exact places_eq_nil htodo (List.cons_ne_nil _ _) hf (by simpa using hfe) hapart

/-- What an ampersand was decoded to may read as an entity, which it was not. -/
example : decodeOnce "&amp;lt;&lt;".toList = "&lt;<".toList := by cbv

end PocketDesk.Markup
