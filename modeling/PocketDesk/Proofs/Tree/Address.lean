import PocketDesk.Proofs.Tree.Lookup

/-! # Locations as texts

A location is written down in two ways: as the path that leads there from the root, and as
the prompt shows it. Both put slashes between its names. The names of a location that a tree
has are plain, so following the path takes every name as it stands, and the names can be
read off either text again. -/

namespace PocketDesk

def Location.path (l : Location) : String := "/" ++ String.intercalate "/" l.below

namespace Path

/-- Plain names between slashes are the steps of what they are joined to. -/
theorem steps_intercalate {names : List String} (h : ∀ name ∈ names, IsPlain name) :
    steps (String.intercalate "/" names) = names := by
  induction names with
  | nil => decide
  | cons name names ih =>
    obtain ⟨hname, hnames⟩ := List.forall_mem_cons.mp h
    cases names with
    | nil => rw [String.intercalate_singleton, hname.steps]
    | cons next names =>
      have hjoined : String.intercalate "/" (name :: next :: names) =
          String.ofList (name.toList ++ '/' :: (String.intercalate "/" (next :: names)).toList) := by
        rw [String.intercalate_cons_cons, ← String.toList_inj]
        simp [String.toList_append]
      rw [hjoined, steps_append_slash, String.ofList_toList, String.ofList_toList, hname.steps,
        ih hnames, List.singleton_append]

/-- The path of a location leads there, from wherever it is followed. -/
theorem normalize_path {l : Location} (h : ∀ name ∈ l.below, IsPlain name) (current : Location) :
    normalize current l.path = l := by
  have hslash : l.path = String.ofList ([] ++ '/' :: (String.intercalate "/" l.below).toList) := by
    rw [← String.toList_inj]
    simp [Location.path, String.toList_append]
  have habsolute : isAbsolute l.path = true := by
    rw [isAbsolute_iff, hslash]
    simp
  have hsteps : steps l.path = l.below := by
    rw [hslash, steps_append_slash, String.ofList_toList, steps_intercalate h]
    rfl
  have hdown : ∀ name ∈ l.below, name ≠ ".." := fun name hname => (h name hname).2.2.2
  rw [normalize, if_pos habsolute, hsteps, foldl_step_of_ne_up hdown]
  rfl

end Path

/-- The prompt shows different locations differently. -/
theorem Location.eq_of_display_eq {l other : Location} (hl : ∀ name ∈ l.below, Path.IsPlain name)
    (hother : ∀ name ∈ other.below, Path.IsPlain name) (h : l.display = other.display) :
    l = other := by
  have htilde : Path.IsPlain "~" := by
    refine ⟨?_, ?_, ?_, ?_⟩ <;> decide
  have hsteps : ∀ l : Location, (∀ name ∈ l.below, Path.IsPlain name) →
      Path.steps l.display = "~" :: l.below := fun l hl =>
    Path.steps_intercalate (List.forall_mem_cons.mpr ⟨htilde, hl⟩)
  have hcons := hsteps l hl
  rw [h, hsteps other hother, List.cons.injEq] at hcons
  obtain ⟨below⟩ := l
  obtain ⟨otherBelow⟩ := other
  exact congrArg Location.mk hcons.2.symm

namespace Tree

variable {t : Tree} {l : Location}

theorem WellFormed.isPlain_of_get? (ht : t.WellFormed) {n : Node} (h : t.get? l = some n) :
    ∀ name ∈ l.below, Path.IsPlain name := fun name hname =>
  isPlain_of_isValidName (ht.isValidName_of_get? h name hname)

/-- What the tree has at a location is found under its path. -/
theorem WellFormed.resolve_path (ht : t.WellFormed) {n : Node} (h : t.get? l = some n)
    (current : Location) : t.resolve current l.path = .ok (n, l) := by
  have hnormalize := Path.normalize_path (ht.isPlain_of_get? h) current
  rw [← hnormalize] at h
  have hresolve := resolve_of_get?_eq_some h
  rwa [hnormalize] at hresolve

end Tree

end PocketDesk
