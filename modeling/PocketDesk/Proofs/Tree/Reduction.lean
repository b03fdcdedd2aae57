import Mathlib.Data.List.DropRight
import Mathlib.Logic.Relation
import PocketDesk.Proofs.Tree.Path
import PocketDesk.Tree.Basic

/-! # What is left of a path expression

Down a name and right up again is no way at all. When such pairs are struck out of the
steps of an expression, in whatever order, the same is left in the end: so many steps up,
and then names that lead down. This alone decides where the expression leads: so many names
fewer than where one stands, as far as there are any, and then the names that lead down. -/

namespace PocketDesk

open Relation (ReflTransGen)

namespace Path

/-- A name is struck out together with the step up right behind it. -/
inductive Cancels : List String → List String → Prop
  | pair (before after : List String) {name : String} (h : name ≠ "..") :
      Cancels (before ++ name :: ".." :: after) (before ++ after)

/-- Steps that leave nothing to strike out: first up, then down. -/
structure Reduced where
  /-- How often up. -/
  up : Nat
  down : List String
  ne_up_of_mem : ∀ name ∈ down, name ≠ ".." := by simp

namespace Reduced

def steps (r : Reduced) : List String := List.replicate r.up ".." ++ r.down

/-- Where the steps lead from a location. -/
def follow (r : Reduced) (l : Location) : Location :=
  ⟨l.below.rdrop (min r.up l.depth) ++ r.down⟩

def nothing : Reduced := { up := 0, down := [] }

/-- What is left when one more step stands in front. -/
def cons (name : String) (r : Reduced) : Reduced :=
  if h : name = ".." then { r with up := r.up + 1 }
  else
    match r.up with
    | 0 =>
      { up := 0
        down := name :: r.down
        ne_up_of_mem := List.forall_mem_cons.mpr ⟨h, r.ne_up_of_mem⟩ }
    | up + 1 => { r with up := up }

/-- What is left of steps. -/
def ofSteps (names : List String) : Reduced := names.foldr cons nothing

variable {r : Reduced} {name : String}

theorem cons_up (r : Reduced) : r.cons ".." = { r with up := r.up + 1 } := dif_pos rfl

theorem steps_cons_of_up_eq_zero (h : name ≠ "..") (hup : r.up = 0) :
    (r.cons name).steps = name :: r.steps := by
  simp [cons, h, hup, steps]

theorem steps_eq_up_cons_steps_cons {up : Nat} (h : name ≠ "..") (hup : r.up = up + 1) :
    r.steps = ".." :: (r.cons name).steps := by
  simp [cons, h, hup, steps, List.replicate_succ]

/-- A name and the step up behind it leave things as they were. -/
theorem cons_cons_up (h : name ≠ "..") (r : Reduced) : (r.cons "..").cons name = r := by
  rw [cons_up, cons, dif_neg h]

theorem ofSteps_cons (name : String) (names : List String) :
    ofSteps (name :: names) = (ofSteps names).cons name := rfl

theorem ofSteps_append (before after : List String) :
    ofSteps (before ++ after) = before.foldr cons (ofSteps after) := List.foldr_append

/-- Nothing can be struck out of what is left. -/
theorem ofSteps_steps (r : Reduced) : ofSteps r.steps = r := by
  obtain ⟨up, down, hdown⟩ := r
  have hnames : ∀ names, (h : ∀ name ∈ names, name ≠ "..") → ofSteps names = ⟨0, names, h⟩ := by
    intro names h
    induction names with
    | nil => rfl
    | cons name names ih =>
      obtain ⟨hname, hnames⟩ := List.forall_mem_cons.mp h
      rw [ofSteps_cons, ih hnames, cons, dif_neg hname]
  rw [steps, ofSteps_append, hnames down hdown]
  induction up with
  | zero => rfl
  | succ up ih => rw [List.replicate_succ, List.foldr_cons, ih, cons_up]

end Reduced

/-! ## Striking out -/

namespace Cancels

variable {names others : List String}

theorem cons (h : Cancels names others) (name : String) :
    Cancels (name :: names) (name :: others) := by
  obtain ⟨before, after, hname⟩ := h
  exact pair (name :: before) after hname

theorem length_eq (h : Cancels names others) : names.length = others.length + 2 := by
  obtain ⟨before, after, -⟩ := h
  simp only [List.length_append, List.length_cons]
  omega

theorem sublist (h : Cancels names others) : others.Sublist names := by
  obtain ⟨before, after, -⟩ := h
  exact (List.Sublist.refl before).append (((List.Sublist.refl after).cons _).cons _)

theorem ofSteps_eq (h : Cancels names others) :
    Reduced.ofSteps names = Reduced.ofSteps others := by
  obtain ⟨before, after, hname⟩ := h
  have hpair := Reduced.cons_cons_up hname (Reduced.ofSteps after)
  rw [Reduced.ofSteps_append, Reduced.ofSteps_append]
  exact congrArg (before.foldr Reduced.cons) hpair

/-- Going down and up again ends where it began. -/
theorem foldl_step_eq (h : Cancels names others) (l : Location) :
    names.foldl step l = others.foldl step l := by
  obtain @⟨before, after, name, hname⟩ := h
  have hback : ∀ l, step (step l name) ".." = l := by
    intro l
    rw [step, if_pos rfl, step, if_neg hname, Location.parent_push]
  rw [List.foldl_append, List.foldl_append, List.foldl_cons, List.foldl_cons, hback]

end Cancels

variable {names others : List String}

theorem ofSteps_eq_of_cancels (h : ReflTransGen Cancels names others) :
    Reduced.ofSteps names = Reduced.ofSteps others := by
  induction h with
  | refl => rfl
  | tail _ hlast ih => exact ih.trans hlast.ofSteps_eq

theorem foldl_step_eq_of_cancels (h : ReflTransGen Cancels names others) (l : Location) :
    names.foldl step l = others.foldl step l := by
  induction h with
  | refl => rfl
  | tail _ hlast ih => exact ih.trans (hlast.foldl_step_eq l)

theorem sublist_of_cancels (h : ReflTransGen Cancels names others) : others.Sublist names := by
  induction h with
  | refl => exact List.Sublist.refl names
  | tail _ hlast ih => exact hlast.sublist.trans ih

/-- What is left can be reached by striking out. -/
theorem cancels_ofSteps (names : List String) :
    ReflTransGen Cancels names (Reduced.ofSteps names).steps := by
  -- from the last step to the first, a name meets the steps up that are left behind it
  induction names with
  | nil => exact .refl
  | cons name names ih =>
    have hrest : ReflTransGen Cancels (name :: names) (name :: (Reduced.ofSteps names).steps) :=
      ih.lift (name :: ·) fun _ _ h => h.cons name
    refine hrest.trans ?_
    rw [Reduced.ofSteps_cons]
    generalize Reduced.ofSteps names = r
    by_cases hname : name = ".."
    · subst hname
      rw [Reduced.cons_up]
      exact .refl
    · cases hup : r.up with
      | zero => rw [Reduced.steps_cons_of_up_eq_zero hname hup]
      | succ up =>
        rw [Reduced.steps_eq_up_cons_steps_cons hname hup]
        exact .single (.pair [] _ hname)

/-- **Every order leads to the same**: whatever was struck out, the rest can still be. -/
theorem cancels_ofSteps_of_cancels (h : ReflTransGen Cancels names others) :
    ReflTransGen Cancels others (Reduced.ofSteps names).steps := by
  rw [ofSteps_eq_of_cancels h]
  exact cancels_ofSteps others

/-- Where nothing can be struck out, that is all that is left, and only there. -/
theorem eq_steps_ofSteps_iff_of_cancels (h : ReflTransGen Cancels names others) :
    others = (Reduced.ofSteps names).steps ↔ ∀ next, ¬ Cancels others next := by
  have hrest := cancels_ofSteps_of_cancels h
  constructor
  · intro heq next hnext
    have hlonger := (sublist_of_cancels (cancels_ofSteps_of_cancels (h.tail hnext))).length_le
    have hlength := hnext.length_eq
    rw [← heq] at hlonger
    omega
  · intro hstuck
    rcases hrest.cases_head with heq | ⟨next, hnext, -⟩
    · exact heq
    · exact absurd hnext (hstuck next)

/-! ## Following what is left -/

/-- Going up so many times takes away so many names, or all there are. -/
theorem foldl_step_replicate_up (up : Nat) (l : Location) :
    (List.replicate up "..").foldl step l = ⟨l.below.rdrop (min up l.depth)⟩ := by
  have hall : l.below.rdrop (min up l.depth) = l.below.rdrop up := by
    simp only [List.rdrop, Location.depth]
    congr 1
    omega
  rw [hall]
  clear hall
  induction up generalizing l with
  | zero => rw [List.rdrop_zero]; rfl
  | succ up ih =>
    have hparent : l.parent.below.rdrop up = l.below.rdrop (up + 1) := by
      rcases List.eq_nil_or_concat l.below with hnil | ⟨names, name, hlast⟩
      · simp [Location.parent, hnil]
      · rw [Location.parent, hlast, List.concat_eq_append, List.rdrop_concat_succ,
          List.dropLast_concat]
    rw [List.replicate_succ, List.foldl_cons, step, if_pos rfl, ih, hparent]

/-- **Steps lead where what is left of them leads.** -/
theorem foldl_step_eq_follow (names : List String) (l : Location) :
    names.foldl step l = (Reduced.ofSteps names).follow l := by
  rw [foldl_step_eq_of_cancels (cancels_ofSteps names), Reduced.steps, List.foldl_append,
    foldl_step_replicate_up, foldl_step_of_ne_up (Reduced.ofSteps names).ne_up_of_mem]
  rfl

/-- **Where an expression leads.** Of the steps of an expression, those that are names are plain.
Striking out a name together with the step up behind it makes them fewer, so it comes to an end;
and it ends, in whatever order it is done, with the same number of steps up and the same plain names
behind them. The expression leads from the root, if it begins with a slash, or else from the current
location: so many names are taken from its end, or all there are, and the plain names are added. The
tree is asked for nothing but the location that this gives, and a complaint only repeats the
expression. -/
theorem normalize_eq_follow_reduced (expression : String) :
    ∃ r : Reduced,
      (∀ name ∈ r.down, IsPlain name) ∧
      ReflTransGen Cancels (steps expression) r.steps ∧
      (∀ names, ReflTransGen Cancels (steps expression) names →
        ReflTransGen Cancels names r.steps ∧
        (names = r.steps ↔ ∀ next, ¬ Cancels names next) ∧
        ∀ next, Cancels names next → next.length < names.length) ∧
      (∀ other : Reduced, ReflTransGen Cancels (steps expression) other.steps → other = r) ∧
      ∀ current : Location,
        let l := r.follow (if expression.toList.head? = some '/' then .root else current)
        normalize current expression = l ∧
        ∀ t : Tree, t.resolve current expression =
          match t.get? l with
          | some n => .ok (n, l)
          | none => .error ⟨expression⟩ := by
  have hreach := cancels_ofSteps (steps expression)
  refine ⟨.ofSteps (steps expression), ?_, hreach, ?_, ?_, ?_⟩
  · intro name hname
    have hstep : name ∈ steps expression :=
      (sublist_of_cancels hreach).mem (List.mem_append_right _ hname)
    exact (eq_up_or_isPlain_of_mem_steps hstep).resolve_left
      ((Reduced.ofSteps (steps expression)).ne_up_of_mem name hname)
  · intro names hnames
    refine ⟨cancels_ofSteps_of_cancels hnames, eq_steps_ofSteps_iff_of_cancels hnames, ?_⟩
    intro next hnext
    have hlength := hnext.length_eq
    omega
  · intro other hother
    rw [ofSteps_eq_of_cancels hother, other.ofSteps_steps]
  · intro current l
    have hnormalize : normalize current expression = l := by
      rw [normalize, foldl_step_eq_follow]
      simp only [isAbsolute_iff]
      rfl
    refine ⟨hnormalize, fun t => ?_⟩
    rw [← hnormalize]
    rfl

example : (Reduced.ofSteps (steps "a/../..//./b/c/../d")).steps = ["..", "b", "d"] := by decide

end Path

end PocketDesk
