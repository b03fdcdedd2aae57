import Mathlib.Data.List.Infix
import PocketDesk.Markup.Entity

/-! # Entities are decoded once

Replacing one entity after another is the same as replacing each where it stands. A text
falls into entities and single characters; what an entity gives is never part of another
one, so as long as its own replacement has not come an entity stays where it was, and no
new one appears. -/

namespace PocketDesk.Markup

/-! ## One replacement -/

variable {target by_ s r : List Char}

theorem replaceFrom_length_append (s r : List Char) :
    replaceFrom target by_ s.length (s ++ r) = replaceAll target by_ r := by
  induction s with
  | nil => rfl
  | cons c s ih => exact ih

theorem replaceAll_append_self (htarget : target ≠ []) (r : List Char) :
    replaceAll target by_ (target ++ r) = by_ ++ replaceAll target by_ r := by
  cases target with
  | nil => exact absurd rfl htarget
  | cons c target =>
    have hstart : (c :: target).isPrefixOf (c :: (target ++ r)) = true :=
      List.isPrefixOf_iff_prefix.mpr (List.prefix_append (c :: target) r)
    rw [List.cons_append, replaceAll, replaceFrom, if_pos ⟨htarget, hstart⟩]
    exact congrArg (by_ ++ ·) (replaceFrom_length_append target r)

theorem replaceAll_cons_of_not_starts {c : Char} (h : ¬ target <+: c :: r) :
    replaceAll target by_ (c :: r) = c :: replaceAll target by_ r := by
  have hstart : ¬ (target ≠ [] ∧ target.isPrefixOf (c :: r) = true) :=
    fun hboth => h (List.isPrefixOf_iff_prefix.mp hboth.2)
  rw [replaceAll, replaceFrom, if_neg hstart]
  rfl

theorem replaceAll_append_of_ne {c : Char} (hs : c ∉ s) (r : List Char) :
    replaceAll (c :: target) by_ (s ++ r) = s ++ replaceAll (c :: target) by_ r := by
  induction s with
  | nil => rfl
  | cons d s ih =>
    obtain ⟨hne, hs⟩ := not_or.mp (mt List.mem_cons.mpr hs)
    have hstart : ¬ (c :: target <+: d :: (s ++ r)) := fun h => hne (List.cons_prefix_cons.mp h).1
    rw [List.cons_append, replaceAll_cons_of_not_starts hstart, ih hs, List.cons_append]

/-! ## Entities -/

abbrev Entity := String × Char

/-- What is special about the entities: each begins with an ampersand and goes on with characters
that are neither ampersands nor given by an entity. -/
theorem exists_inner {e : Entity} (he : e ∈ entities) :
    ∃ inner, e.1.toList = '&' :: inner ∧ '&' ∉ inner ∧ ∀ f ∈ entities, f.2 ∉ inner := by
  refine ⟨e.1.toList.tail, ?_⟩
  revert e
  decide

theorem eq_of_starts : ∀ e ∈ entities, ∀ f ∈ entities, e.1.toList <+: f.1.toList → e = f := by
  decide

/-- An ampersand is given by the last entity only. -/
theorem value_ne_of_not_mem {todo : List Entity} (h : todo <:+ entities) (htodo : todo ≠ []) :
    ∀ f ∈ entities, f ∉ todo → f.2 ≠ '&' := by
  have hall : ∀ todo ∈ entities.tails, todo ≠ [] → ∀ f ∈ entities, f ∉ todo → f.2 ≠ '&' := by decide
  exact hall todo ((List.mem_tails _ _).mpr h) htodo

theorem replaceAll_cons_of_ne {e : Entity} (he : e ∈ entities) {c : Char} (hc : c ≠ '&')
    (r : List Char) : replaceAll e.1.toList by_ (c :: r) = c :: replaceAll e.1.toList by_ r := by
  obtain ⟨inner, hname, -, -⟩ := exists_inner he
  refine replaceAll_cons_of_not_starts fun h => hc ?_
  rw [hname] at h
  exact (List.cons_prefix_cons.mp h).1.symm

theorem not_starts_at_other {e f : Entity} (he : e ∈ entities) (hf : f ∈ entities) (hne : f ≠ e)
    (r : List Char) : ¬ e.1.toList <+: f.1.toList ++ r := by
  intro h
  rcases List.prefix_or_prefix_of_prefix h (List.prefix_append _ _) with h | h
  · exact hne (eq_of_starts e he f hf h).symm
  · exact hne (eq_of_starts f hf e he h)

/-- Another entity stays: the one at hand starts neither at its ampersand nor behind it. -/
theorem replaceAll_append_of_other {e f : Entity} (he : e ∈ entities) (hf : f ∈ entities)
    (hne : f ≠ e) (r : List Char) :
    replaceAll e.1.toList by_ (f.1.toList ++ r) = f.1.toList ++ replaceAll e.1.toList by_ r := by
  obtain ⟨inner, hname, -, -⟩ := exists_inner he
  obtain ⟨rest, hfname, hrest, -⟩ := exists_inner hf
  have hstart : ¬ e.1.toList <+: '&' :: (rest ++ r) := by
    rw [← List.cons_append, ← hfname]
    exact not_starts_at_other he hf hne r
  rw [hfname, List.cons_append, replaceAll_cons_of_not_starts hstart, hname,
    replaceAll_append_of_ne hrest, List.cons_append]

/-! ## Texts in pieces -/

/-- A piece of a text: an entity, or one character. -/
inductive Piece where
  | entity (e : Entity)
  | char (c : Char)

/-- How a piece reads as long as the entities in `todo` have not been replaced. -/
def Piece.write (todo : List Entity) : Piece → List Char
  | .entity e => if e ∈ todo then e.1.toList else [e.2]
  | .char c => [c]

def Piece.value : Piece → Char
  | .entity e => e.2
  | .char c => c

def write (todo : List Entity) (pieces : List Piece) : List Char := pieces.flatMap (Piece.write todo)

/-- The pieces are those that a reader would find: no entity starts at a character. -/
def Apart : List Piece → Prop
  | [] => True
  | .entity e :: pieces => e ∈ entities ∧ Apart pieces
  | .char c :: pieces =>
    (∀ e ∈ entities, ¬ e.1.toList <+: c :: write entities pieces) ∧ Apart pieces

variable {todo : List Entity} {pieces : List Piece}

theorem write_nil (pieces : List Piece) : write [] pieces = pieces.map Piece.value := by
  rw [write, ← List.flatMap_singleton' (pieces.map Piece.value), List.flatMap_map]
  congr 1
  funext piece
  cases piece <;> rfl

/-- The rest of an entity is found where it was to begin with, or not at all. -/
theorem prefix_write_entities {inner : List Char} (hamp : '&' ∉ inner)
    (hvalues : ∀ f ∈ entities, f.2 ∉ inner) (hapart : Apart pieces)
    (h : inner <+: write todo pieces) : inner <+: write entities pieces := by
  induction inner generalizing pieces with
  | nil => exact List.nil_prefix
  | cons c inner ih =>
    obtain ⟨hc, hamp⟩ := not_or.mp (mt List.mem_cons.mpr hamp)
    cases pieces with
    | nil => exact h
    | cons piece pieces =>
      cases piece with
      | char d =>
        obtain ⟨rfl, hinner⟩ := List.cons_prefix_cons.mp h
        refine List.cons_prefix_cons.mpr ⟨rfl, ih hamp ?_ hapart.2 hinner⟩
        exact fun f hf hmem => hvalues f hf (List.mem_cons_of_mem _ hmem)
      | entity e =>
        obtain ⟨rest, hname, -, -⟩ := exists_inner hapart.1
        rw [write, List.flatMap_cons, Piece.write] at h
        split at h
        · rw [hname] at h
          exact absurd (List.cons_prefix_cons.mp h).1.symm hc
        · have hvalue := (List.cons_prefix_cons.mp h).1
          exact absurd (hvalue ▸ List.mem_cons_self) (hvalues e hapart.1)

/-- No entity starts at a character at a later stage either. -/
theorem Apart.not_starts {c : Char} (h : Apart (.char c :: pieces)) {e : Entity}
    (he : e ∈ entities) (todo : List Entity) : ¬ e.1.toList <+: c :: write todo pieces := by
  obtain ⟨hchar, hapart⟩ := h
  obtain ⟨inner, hname, hamp, hvalues⟩ := exists_inner he
  intro h
  rw [hname] at h
  obtain ⟨rfl, hinner⟩ := List.cons_prefix_cons.mp h
  have hfound := prefix_write_entities hamp hvalues hapart hinner
  refine hchar e he ?_
  rw [hname]
  exact List.cons_prefix_cons.mpr ⟨rfl, hfound⟩

/-- A piece is replaced if it is the entity at hand, whatever part of the text is behind it. -/
theorem replaceAll_piece_append {e : Entity} (htodo : e :: todo <:+ entities) {piece : Piece}
    (hapart : Apart (piece :: pieces)) {r : List Char} (hr : r <+: write (e :: todo) pieces) :
    replaceAll e.1.toList [e.2] (piece.write (e :: todo) ++ r) =
      piece.write todo ++ replaceAll e.1.toList [e.2] r := by
  have he : e ∈ entities := htodo.subset List.mem_cons_self
  cases piece with
  | char c =>
    refine replaceAll_cons_of_not_starts fun h => hapart.not_starts he (e :: todo) (h.trans ?_)
    exact List.cons_prefix_cons.mpr ⟨rfl, hr⟩
  | entity f =>
    have hf : f ∈ entities := hapart.1
    by_cases hfe : f = e
    · subst hfe
      have hnodup : (f :: todo).Nodup := List.Nodup.sublist htodo.sublist (by decide)
      have hdone : f ∉ todo := (List.nodup_cons.mp hnodup).1
      obtain ⟨inner, hname, -, -⟩ := exists_inner he
      have hne : f.1.toList ≠ [] := hname ▸ List.cons_ne_nil _ _
      rw [Piece.write, if_pos List.mem_cons_self, replaceAll_append_self hne, Piece.write,
        if_neg hdone]
    · by_cases hlater : f ∈ todo
      · rw [Piece.write, if_pos (List.mem_cons_of_mem _ hlater), Piece.write, if_pos hlater,
          replaceAll_append_of_other he hf hfe]
      · -- replaced before this one, by something else than an ampersand
        have hbefore : f ∉ e :: todo := not_or.mpr ⟨hfe, hlater⟩ ∘ List.mem_cons.mp
        have hvalue := value_ne_of_not_mem htodo (List.cons_ne_nil _ _) f hf hbefore
        rw [Piece.write, if_neg hbefore, Piece.write, if_neg hlater]
        exact replaceAll_cons_of_ne he hvalue r

theorem write_cons (todo : List Entity) (piece : Piece) (pieces : List Piece) :
    write todo (piece :: pieces) = piece.write todo ++ write todo pieces := List.flatMap_cons

theorem Apart.tail {piece : Piece} (h : Apart (piece :: pieces)) : Apart pieces := by
  cases piece with
  | entity e => exact h.2
  | char c => exact h.2

/-- **Replacing one entity** changes its own pieces and nothing else. -/
theorem replaceAll_write {e : Entity} (htodo : e :: todo <:+ entities) (hapart : Apart pieces) :
    replaceAll e.1.toList [e.2] (write (e :: todo) pieces) = write todo pieces := by
  induction pieces with
  | nil => rfl
  | cons piece pieces ih =>
    rw [write_cons, replaceAll_piece_append htodo hapart List.prefix_rfl, ih hapart.tail, write_cons]

/-- The text when each of these entities has had its turn. -/
def replaceEach (earlier : List Entity) (s : List Char) : List Char :=
  earlier.foldl (fun s e => replaceAll e.1.toList [e.2] s) s

theorem replaceEach_write {earlier : List Entity} (h : earlier ++ todo <:+ entities)
    (hapart : Apart pieces) :
    replaceEach earlier (write (earlier ++ todo) pieces) = write todo pieces := by
  induction earlier with
  | nil => rfl
  | cons e earlier ih =>
    have h : e :: (earlier ++ todo) <:+ entities := h
    rw [replaceEach, List.foldl_cons, List.cons_append, replaceAll_write h hapart]
    exact ih ((List.suffix_cons e _).trans h)

/-- **Decoding** gives for every piece what it stands for. -/
theorem decodeEntities_write (hapart : Apart pieces) :
    decodeEntities (write entities pieces) = pieces.map Piece.value := by
  have hall : entities ++ [] <:+ entities := by rw [List.append_nil]
  have hdecode := replaceEach_write hall hapart
  rwa [List.append_nil, write_nil] at hdecode

end PocketDesk.Markup
