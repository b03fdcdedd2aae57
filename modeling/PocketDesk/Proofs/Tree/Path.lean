import PocketDesk.Proofs.Text.Words
import PocketDesk.Tree.Path

/-! # The steps of a path expression

An expression may consist of slashes, `.` and `..` only. Following it can only go
up, so it ends at a location above the current one, or at the current one. A name
without a slash, on the other hand, leads one step further down from wherever the
expression before it leads. -/

namespace PocketDesk.Path

/-- Between the slashes there is nothing but empty names, `.` and `..`. -/
def OnlyDots (expression : String) : Prop :=
  ∀ name ∈ Text.fields (· == '/') expression.toList, name ∈ [[], ['.'], ['.', '.']]

instance (expression : String) : Decidable (OnlyDots expression) :=
  inferInstanceAs (Decidable (∀ name ∈ _, _))

theorem OnlyDots.not_isBlank {expression : String} (h : OnlyDots expression) :
    ∀ c ∈ expression.toList, Text.isBlank c = false := by
  intro c hc
  by_cases hslash : c = '/'
  · subst hslash
    decide
  · obtain ⟨w, hw, hcw⟩ : ∃ w ∈ Text.fields (· == '/') expression.toList, c ∈ w :=
      Text.exists_mem_fields hc (by simpa using hslash)
    have hdots := h w hw
    simp only [List.mem_cons, List.not_mem_nil, or_false] at hdots
    have hdot : c = '.' := by
      rcases hdots with rfl | rfl | rfl
      · cases hcw
      · simpa using hcw
      · simpa using hcw
    subst hdot
    decide

theorem OnlyDots.steps {expression : String} (h : OnlyDots expression) :
    ∀ name ∈ steps expression, name = ".." := by
  intro name hn
  obtain ⟨hm, hne⟩ := List.mem_filter.mp hn
  obtain ⟨w, hw, rfl⟩ := List.mem_map.mp hm
  have hdots := h w hw
  simp only [List.mem_cons, List.not_mem_nil, or_false] at hdots
  rcases hdots with rfl | rfl | rfl
  · exact absurd hne (by decide)
  · exact absurd hne (by decide)
  · rfl

theorem foldl_step_isPrefix {names : List String} (h : ∀ name ∈ names, name = "..")
    (l : Location) : (names.foldl step l).below <+: l.below := by
  induction names generalizing l with
  | nil => exact List.prefix_rfl
  | cons name names ih =>
    obtain ⟨rfl, hnames⟩ := List.forall_mem_cons.mp h
    have hup : (step l "..").below <+: l.below := by
      simpa [step, Location.parent] using List.dropLast_prefix l.below
    exact (ih hnames _).trans hup

/-- Such an expression leads to a location on the way to the current one. -/
theorem OnlyDots.normalize_isPrefix {expression : String} (h : OnlyDots expression)
    (current : Location) : (normalize current expression).below <+: current.below := by
  have hfold := fun l => foldl_step_isPrefix h.steps l
  unfold normalize
  split
  · exact (hfold .root).trans List.nil_prefix
  · exact hfold current

/-! ## From the root -/

theorem isAbsolute_iff {expression : String} :
    isAbsolute expression = true ↔ expression.toList.head? = some '/' := by
  unfold isAbsolute
  cases expression.toList with
  | nil => simp
  | cons c rest =>
    by_cases hc : c = '/'
    · simp [hc]
    · simp [hc]

/-- Where one stands makes no difference to an expression that starts at the root. -/
theorem normalize_of_isAbsolute {expression : String} (h : isAbsolute expression = true)
    (current other : Location) : normalize current expression = normalize other expression := by
  rw [normalize, normalize, if_pos h, if_pos h]

/-! ## One expression after another -/

theorem steps_append_slash (before rest : List Char) :
    steps (String.ofList (before ++ '/' :: rest)) =
      steps (String.ofList before) ++ steps (String.ofList rest) := by
  have hfields : Text.fields (· == '/') (before ++ '/' :: rest) =
      Text.fields (· == '/') before ++ Text.fields (· == '/') rest :=
    Text.fields_append_cons rfl before rest
  simp only [Path.steps, String.toList_ofList, hfields, List.map_append, List.filter_append]

/-- Following one expression and then another that goes on from there is following both, with a
slash between them. -/
theorem normalize_append_slash {first second : String} (hfirst : first ≠ "")
    (hsecond : isAbsolute second = false) (current : Location) :
    normalize current (first ++ "/" ++ second) = normalize (normalize current first) second := by
  have hjoined : first ++ "/" ++ second =
      String.ofList (first.toList ++ '/' :: second.toList) := by
    rw [← String.toList_inj]
    simp [String.toList_append]
  have hsteps : steps (first ++ "/" ++ second) = steps first ++ steps second := by
    rw [hjoined, steps_append_slash, String.ofList_toList, String.ofList_toList]
  have habsolute : isAbsolute (first ++ "/" ++ second) = isAbsolute first := by
    obtain ⟨c, rest, hchars⟩ := List.exists_cons_of_ne_nil (l := first.toList) (by simpa using hfirst)
    rw [Bool.eq_iff_iff, isAbsolute_iff, isAbsolute_iff, hjoined, String.toList_ofList, hchars,
      List.cons_append, List.head?_cons, List.head?_cons]
  have hrelative : normalize (normalize current first) second =
      (steps second).foldl step (normalize current first) := by
    rw [normalize, hsecond]
    rfl
  rw [hrelative, normalize, hsteps, habsolute, List.foldl_append]
  rfl

/-! ## One name more -/

/-- A name that a path expression takes as it stands. -/
def IsPlain (name : String) : Prop := name ≠ "" ∧ '/' ∉ name.toList ∧ name ≠ "." ∧ name ≠ ".."

variable {directory : List Char} {name : String}

theorem IsPlain.steps (hn : IsPlain name) : steps name = [name] := by
  obtain ⟨hempty, hslash, hdot, -⟩ := hn
  have hfields : Text.fields (· == '/') name.toList = [name.toList] :=
    Text.fields_eq_singleton fun c hc => by
      have hne : c ≠ '/' := fun h => hslash (h ▸ hc)
      simpa using hne
  simp [Path.steps, hfields, String.ofList_toList, hempty, hdot]

/-- A name is one more step behind a directory that ends in a slash, or behind nothing. -/
theorem steps_append_name (hd : ∀ c, directory.getLast? = some c → (c == '/') = true)
    (hn : IsPlain name) :
    steps (String.ofList directory ++ name) = steps (String.ofList directory) ++ [name] := by
  have hnothing : Path.steps (String.ofList []) = [] := by decide
  rcases List.eq_nil_or_concat directory with rfl | ⟨before, c, rfl⟩
  · have hwhole : String.ofList [] ++ name = name := String.empty_append
    rw [hnothing, hwhole, hn.steps, List.nil_append]
  · obtain rfl : c = '/' := by simpa using hd c (by simp)
    have hwhole : String.ofList (before.concat '/') ++ name =
        String.ofList (before ++ '/' :: name.toList) := by
      rw [← String.toList_inj]
      simp [String.toList_append]
    rw [hwhole, steps_append_slash, String.ofList_toList, hn.steps, List.concat_eq_append,
      steps_append_slash, hnothing, List.append_nil]

theorem isAbsolute_append_name (hn : IsPlain name) :
    isAbsolute (String.ofList directory ++ name) = isAbsolute (String.ofList directory) := by
  have hl : (String.ofList directory ++ name).toList = directory ++ name.toList := by
    simp [String.toList_append]
  rw [isAbsolute, isAbsolute, hl, String.toList_ofList]
  cases directory with
  | cons c rest =>
    by_cases hc : c = '/'
    · subst hc
      rfl
    · simp [hc]
  | nil =>
    cases hname : name.toList with
    | nil => rfl
    | cons c rest =>
      have hne : c ≠ '/' := by
        rintro rfl
        exact hn.2.1 (by rw [hname]; exact List.mem_cons_self)
      simp [hne]

/-- **A name behind a directory** names what is in it under that name. -/
theorem normalize_append_name (hd : ∀ c, directory.getLast? = some c → (c == '/') = true)
    (hn : IsPlain name) (current : Location) :
    normalize current (String.ofList directory ++ name) =
      (normalize current (String.ofList directory)).push name := by
  rw [normalize, steps_append_name hd hn, isAbsolute_append_name hn, List.foldl_append]
  simp only [List.foldl_cons, List.foldl_nil, step, if_neg hn.2.2.2]
  rfl

/-- Every step leads up or takes a name as it stands. -/
theorem eq_up_or_isPlain_of_mem_steps {expression : String} (h : name ∈ steps expression) :
    name = ".." ∨ IsPlain name := by
  obtain ⟨hfield, hsays⟩ := List.mem_filter.mp h
  obtain ⟨w, hw, rfl⟩ := List.mem_map.mp hfield
  obtain ⟨hempty, hdot⟩ : String.ofList w ≠ "" ∧ String.ofList w ≠ "." := by simpa using hsays
  have hslash : '/' ∉ (String.ofList w).toList := by
    intro hmem
    have hnot := Text.sep_eq_false_of_mem_fields hw (by simpa using hmem)
    simp at hnot
  by_cases hup : String.ofList w = ".."
  · exact .inl hup
  · exact .inr ⟨hempty, hslash, hdot, hup⟩

theorem foldl_step_of_ne_up {names : List String} (h : ∀ name ∈ names, name ≠ "..")
    (l : Location) : names.foldl step l = ⟨l.below ++ names⟩ := by
  induction names generalizing l with
  | nil => rw [List.append_nil]; rfl
  | cons name names ih =>
    obtain ⟨hname, hnames⟩ := List.forall_mem_cons.mp h
    rw [List.foldl_cons, step, if_neg hname, ih hnames, Location.push, List.append_assoc,
      List.singleton_append]

theorem IsPlain.normalize (hn : IsPlain name) (current : Location) :
    normalize current name = current.push name := by
  have hnothing : Path.normalize current (String.ofList []) = current := rfl
  have hwhole : String.ofList [] ++ name = name := String.empty_append
  have hnowhere : ∀ c, ([] : List Char).getLast? = some c → (c == '/') = true := by simp
  have hbehind := normalize_append_name hnowhere hn current
  rwa [hnothing, hwhole] at hbehind

end PocketDesk.Path
