import Mathlib.Data.List.Induction
import PocketDesk.Tree.Node

/-! # Insertions, one after another

An insertion adds at the end, unless its name is taken; then the node comes back and the
directory stays. So after any insertions a directory has kept the first one under each
name, in the order in which these came. -/

namespace PocketDesk.Directory

variable {d e : Directory} {name : String} {n : Node}

/-! ## One insertion -/

theorem insert_eq_ok_iff :
    d.insert name n = .ok e ↔ name ∉ d.names ∧ e = ⟨d.members ++ [(name, n)]⟩ := by
  unfold Directory.insert
  cases h : d.get? name with
  | none => simp [← Directory.get?_eq_none_iff, h, eq_comm]
  | some m => simp [← Directory.get?_eq_none_iff, h]

/-- When the name is taken the node comes back. -/
theorem insert_of_mem (h : name ∈ d.names) (n : Node) : d.insert name n = .error n := by
  unfold Directory.insert
  cases hget : d.get? name with
  | some m => rfl
  | none => exact absurd h (Directory.get?_eq_none_iff.mp hget)

theorem insert_of_not_mem (h : name ∉ d.names) (n : Node) :
    ∃ e, d.insert name n = .ok e ∧ e.names = d.names ++ [name] :=
  ⟨_, Directory.insert_eq_ok_iff.mpr ⟨h, rfl⟩, by simp [Directory.names]⟩

theorem insert_isOk_iff (n : Node) : (∃ e, d.insert name n = .ok e) ↔ name ∉ d.names :=
  ⟨fun ⟨_, h⟩ => (insert_eq_ok_iff.mp h).1, fun h => ⟨_, insert_eq_ok_iff.mpr ⟨h, rfl⟩⟩⟩

/-- The names stay distinct. -/
theorem nodup_names_of_insert (hd : d.names.Nodup) (h : d.insert name n = .ok e) :
    e.names.Nodup := by
  obtain ⟨hnew, rfl⟩ := insert_eq_ok_iff.mp h
  rw [names, List.map_append]
  refine List.nodup_append.mpr ⟨hd, by simp, ?_⟩
  intro a ha b hb hab
  obtain rfl : b = name := by simpa using hb
  exact hnew (hab ▸ ha)

/-! ## What a call leaves -/

/-- The directory after a call to `insert`; a call that is refused leaves it as it was. -/
def inserted (d : Directory) (call : String × Node) : Directory :=
  match d.insert call.1 call.2 with
  | .ok e => e
  | .error _ => d

variable {call : String × Node}

theorem inserted_of_mem (h : call.1 ∈ d.names) : d.inserted call = d := by
  rw [inserted, insert_of_mem h]

theorem inserted_of_not_mem (h : call.1 ∉ d.names) : d.inserted call = ⟨d.members ++ [call]⟩ := by
  rw [inserted, insert_eq_ok_iff.mpr ⟨h, rfl⟩]

theorem nodup_names_inserted (hd : d.names.Nodup) (call : String × Node) :
    (d.inserted call).names.Nodup := by
  unfold inserted
  split
  · next e h => exact nodup_names_of_insert hd h
  · exact hd

/-- A call is noticed under its own name only, and only when nothing was there. -/
theorem get?_inserted (d : Directory) (call : String × Node) (name : String) :
    (d.inserted call).get? name = (d.get? name).or ([call].lookup name) := by
  by_cases htaken : call.1 ∈ d.names
  · rw [inserted_of_mem htaken]
    cases hget : d.get? name with
    | some n => rfl
    | none =>
      have hne : name ≠ call.1 := fun h => get?_eq_none_iff.mp hget (h ▸ htaken)
      rw [List.lookup_cons, beq_false_of_ne hne]
      rfl
  · rw [inserted_of_not_mem htaken, get?, List.lookup_append, get?]

/-! ## What a run of calls leaves -/

/-- The directory after these calls to `insert`, which is empty to begin with. -/
def ofInsertions (calls : List (String × Node)) : Directory := calls.foldl inserted .empty

theorem ofInsertions_concat (calls : List (String × Node)) (call : String × Node) :
    ofInsertions (calls ++ [call]) = (ofInsertions calls).inserted call := by
  rw [ofInsertions, List.foldl_append]
  rfl

theorem nodup_names_ofInsertions (calls : List (String × Node)) :
    (ofInsertions calls).names.Nodup := by
  induction calls using List.reverseRecOn with
  | nil => exact List.nodup_nil
  | append_singleton calls call ih =>
    rw [ofInsertions_concat]
    exact nodup_names_inserted ih call

/-- A further name is one of those before, or the last of the distinct ones. -/
theorem eraseDups_concat (names : List String) (name : String) :
    (names ++ [name]).eraseDups =
      if name ∈ names then names.eraseDups else names.eraseDups ++ [name] := by
  rw [List.eraseDups_append]
  split
  · next h => simp [List.removeAll, h]
  · next h => simp [List.removeAll, h, List.eraseDups_cons]

theorem names_ofInsertions (calls : List (String × Node)) :
    (ofInsertions calls).names = (calls.map Prod.fst).eraseDups := by
  induction calls using List.reverseRecOn with
  | nil => rfl
  | append_singleton calls call ih =>
    have hmem : call.1 ∈ (ofInsertions calls).names ↔ call.1 ∈ calls.map Prod.fst := by
      rw [ih, List.mem_eraseDups]
    rw [ofInsertions_concat, List.map_append, List.map_singleton, eraseDups_concat, ← ih]
    by_cases hbefore : call.1 ∈ calls.map Prod.fst
    · rw [inserted_of_mem (hmem.mpr hbefore), if_pos hbefore]
    · rw [inserted_of_not_mem (mt hmem.mp hbefore), if_neg hbefore]
      exact List.map_append

theorem mem_names_ofInsertions {calls : List (String × Node)} :
    name ∈ (ofInsertions calls).names ↔ name ∈ calls.map Prod.fst := by
  rw [names_ofInsertions, List.mem_eraseDups]

theorem get?_ofInsertions (calls : List (String × Node)) (name : String) :
    (ofInsertions calls).get? name = calls.lookup name := by
  induction calls using List.reverseRecOn with
  | nil => rfl
  | append_singleton calls call ih => rw [ofInsertions_concat, get?_inserted, ih, List.lookup_append]

/-- What a directory is when of all these calls the first under each name has been kept. -/
structure Keeps (d : Directory) (calls : List (String × Node)) : Prop where
  nodup : d.names.Nodup
  /-- The names that were inserted, each where it first came. -/
  names_eq : d.names = (calls.map Prod.fst).eraseDups
  /-- The node of the first call with a name is found. -/
  first : ∀ earlier name n later, calls = earlier ++ (name, n) :: later →
    name ∉ earlier.map Prod.fst → d.get? name = some n
  absent_iff : ∀ name, d.get? name = none ↔ name ∉ calls.map Prod.fst
  /-- The next call succeeds just when its name is new. -/
  accepts_iff : ∀ name n, (∃ e, d.insert name n = .ok e) ↔ name ∉ calls.map Prod.fst
  /-- A call that is refused hands back its node and changes nothing. -/
  refused : ∀ name n, name ∈ calls.map Prod.fst →
    d.insert name n = .error n ∧ d.inserted (name, n) = d

/-- **A run of insertions keeps the first under each name**, and refuses every other. -/
theorem keeps_ofInsertions (calls : List (String × Node)) : (ofInsertions calls).Keeps calls where
  nodup := nodup_names_ofInsertions calls
  names_eq := names_ofInsertions calls
  first := by
    rintro earlier name n later rfl hnew
    have hnone : get? ⟨earlier⟩ name = none := get?_eq_none_iff.mpr hnew
    rw [get?_ofInsertions, List.lookup_append, List.lookup_cons_self, ← get?, hnone, Option.none_or]
  absent_iff name := by rw [get?_eq_none_iff, mem_names_ofInsertions]
  accepts_iff name n := by rw [insert_isOk_iff, mem_names_ofInsertions]
  refused name n htaken := by
    have hmem : name ∈ (ofInsertions calls).names := mem_names_ofInsertions.mpr htaken
    exact ⟨insert_of_mem hmem n, inserted_of_mem hmem⟩

end PocketDesk.Directory
