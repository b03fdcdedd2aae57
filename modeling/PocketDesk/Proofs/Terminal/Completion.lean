import PocketDesk.Proofs.Text.Ending
import PocketDesk.Proofs.Text.LowerCase
import PocketDesk.Proofs.Tree.Lookup
import PocketDesk.Terminal.Completion

/-! # What completion offers

Completion and execution read a line each in their own way: completion cuts the last
word behind its last slash and looks at what is there, execution resolves the word as a
whole. They agree: a name is offered exactly when it begins as the word does and would
resolve in its place, and a verb exactly when it would be a command. -/

namespace PocketDesk

/-! ## Verbs -/

namespace Command

theorem mem_offered {verb : String} :
    verb ∈ offered ↔ verb ∈ DocPage.all.map DocPage.key ∨ verb ∈ verbs := by
  simp only [offered, List.mem_append, List.mem_filter]
  by_cases h : verb ∈ DocPage.all.map DocPage.key <;> simp [h]

theorem lowerCase_of_mem_offered {verb : String} (h : verb ∈ offered) :
    Text.lowerCase verb = verb := by
  have hlower : ∀ verb ∈ offered, verb.toList.all Char.isLower = true := by decide
  exact Text.lowerCase_eq_self (List.all_eq_true.mp (hlower verb h))

theorem nodup_offered : offered.Nodup := by decide

/-- A verb is offered unless there is no such command. -/
theorem parse_eq_unknown_iff {verb : String} {argument : Option String} {unknown : String} :
    parse verb argument = .unknown unknown ↔
      Text.lowerCase verb ∉ offered ∧ unknown = Text.lowerCase verb := by
  generalize hlower : Text.lowerCase verb = lower
  simp only [parse, hlower]
  cases hpage : DocPage.ofKey? lower with
  | some page =>
    have hkey : lower ∈ offered := by
      rw [mem_offered, ← DocPage.key_of_ofKey? hpage]
      exact .inl (List.mem_map_of_mem (by cases page <;> decide))
    simp [hkey]
  | none =>
    have hkey : lower ∉ DocPage.all.map DocPage.key := by
      simpa [DocPage.ofKey?] using hpage
    rw [mem_offered]
    simp only [hkey, false_or]
    unfold ofVerb
    split <;> simp_all [verbs, eq_comm]

theorem mem_offered_iff {verb : String} :
    verb ∈ offered ↔
      Text.lowerCase verb = verb ∧ ∀ argument unknown, parse verb argument ≠ .unknown unknown := by
  constructor
  · intro h
    have hlower := lowerCase_of_mem_offered h
    refine ⟨hlower, fun argument unknown hparse => ?_⟩
    obtain ⟨hnot, -⟩ := parse_eq_unknown_iff.mp hparse
    rw [hlower] at hnot
    exact hnot h
  · rintro ⟨hlower, hknown⟩
    by_contra h
    refine hknown none (Text.lowerCase verb) (parse_eq_unknown_iff.mpr ⟨?_, rfl⟩)
    rwa [hlower]

end Command

/-! ## Names -/

namespace Completion

theorem mem_beginningWith {start : List Char} {names : List String} {name : String} :
    name ∈ beginningWith start names ↔ name ∈ names ∧ start <+: name.toList := by
  simp [beginningWith]

/-- The only name that begins with `start` is the only one that begins with more of it. -/
theorem beginningWith_of_eq_singleton {start longer : List Char} {names : List String}
    {name : String} (h : beginningWith start names = [name]) (hlonger : start <+: longer)
    (hname : longer <+: name.toList) : beginningWith longer names = [name] := by
  have hfilter : beginningWith longer (beginningWith start names) = beginningWith longer names := by
    unfold beginningWith
    rw [List.filter_filter]
    refine List.filter_congr fun n _ => ?_
    by_cases hn : longer <+: n.toList
    · simp [hn, hlonger.trans hn]
    · simp [hn]
  rw [← hfilter, h]
  simp [beginningWith, hname]

/-- The names in the directory at the location that the path names. -/
theorem namesAt_eq (tree : Tree) (current : Location) (directory : List Char) :
    namesAt tree current directory =
      ((tree.directory? (Path.normalize current (String.ofList directory))).map
        Directory.names).getD [] := by
  have hnode : (if directory.isEmpty then tree.get? current
      else ((tree.resolve current (String.ofList directory)).toOption).map Prod.fst) =
      tree.get? (Path.normalize current (String.ofList directory)) := by
    cases directory with
    | nil => rfl
    | cons c rest =>
      cases hn : tree.get? (Path.normalize current (String.ofList (c :: rest))) with
      | none =>
        rw [Tree.resolve_of_get?_eq_none hn]
        rfl
      | some n =>
        rw [Tree.resolve_of_get?_eq_some hn]
        rfl
  simp only [namesAt, hnode, Tree.directory?]
  cases (tree.get? (Path.normalize current (String.ofList directory))).bind Node.asDirectory? <;> rfl

theorem mem_namesAt {tree : Tree} {current : Location} {directory : List Char} {name : String} :
    name ∈ namesAt tree current directory ↔
      ∃ d, tree.directory? (Path.normalize current (String.ofList directory)) = some d ∧
        name ∈ d.names := by
  rw [namesAt_eq]
  cases tree.directory? (Path.normalize current (String.ofList directory)) <;> simp

/-- They are the names that would resolve behind the path. -/
theorem exists_resolve_iff_mem_namesAt {tree : Tree} {current : Location} {directory : List Char}
    {name : String} (hd : ∀ c, directory.getLast? = some c → (c == '/') = true)
    (hn : Path.IsPlain name) :
    (∃ found, tree.resolve current (String.ofList directory ++ name) = .ok found) ↔
      name ∈ namesAt tree current directory := by
  rw [Tree.exists_resolve_append_name hd hn, mem_namesAt]

theorem isPlain_of_mem_namesAt {tree : Tree} (ht : tree.WellFormed) {current : Location}
    {directory : List Char} {name : String} (h : name ∈ namesAt tree current directory) :
    Path.IsPlain name := by
  obtain ⟨d, hd, hname⟩ := mem_namesAt.mp h
  exact (ht.directory? hd).isPlain hname

theorem nodup_namesAt {tree : Tree} (ht : tree.WellFormed) (current : Location)
    (directory : List Char) : (namesAt tree current directory).Nodup := by
  rw [namesAt_eq]
  cases hd : tree.directory? (Path.normalize current (String.ofList directory)) with
  | none => exact List.nodup_nil
  | some d => exact (ht.directory? hd).nodup_names

/-! ## Choices -/

/-- The answer is what there is to offer: nothing, the one name behind what is kept of the
buffer, or all the names. -/
structure Offers (answer : Completion) (kept : List Char) (names : List String) : Prop where
  nothing : answer = .nothing ↔ names = []
  single : ∀ buffer, answer = .single buffer ↔
    ∃ name, names = [name] ∧ buffer = String.ofList kept ++ name
  multiple : ∀ candidates, answer = .multiple candidates ↔
    candidates = names ∧ 2 ≤ names.length

variable {tree : Tree} {current : Location} {buffer : String} {head word kept start : List Char}
  {names : List String}

theorem complete_eq_nothing (hcut : Text.CutAtLast Text.isBlank buffer.toList head []) :
    complete tree current buffer = .nothing := by
  simp only [complete, ← hcut.eq.2, List.isEmpty_nil, if_true]

/-- Completing a word offers its candidates. -/
theorem complete_offers (hcut : Text.CutAtLast Text.isBlank buffer.toList head word)
    (hword : word ≠ []) :
    Offers (complete tree current buffer) (head ++ (candidates tree current head word).1)
      (candidates tree current head word).2 := by
  simp only [complete, ← hcut.eq.1, ← hcut.eq.2, List.isEmpty_iff, if_neg hword]
  generalize candidates tree current head word = candidates
  obtain ⟨kept, names⟩ := candidates
  match names with
  | [] => exact ⟨by simp, by simp, by simp⟩
  | [name] => exact ⟨by simp, by simp [eq_comm], by simp⟩
  | name :: other :: names => exact ⟨by simp, by simp, by simp [eq_comm]⟩

/-- What the word at the end of a buffer can become: one of the names that begin with `start`,
behind the part of the buffer that is kept. -/
inductive Choice (tree : Tree) (current : Location) :
    (kept start : List Char) → (names : List String) → Prop
  | verb {head word : List Char} (hcut : Text.CutAtLast Text.isBlank (head ++ word) head word)
      (hword : word ≠ []) (hfirst : ∀ c ∈ head, Text.isBlank c = true) :
      Choice tree current head word Command.offered
  | path {head word directory start : List Char}
      (hcut : Text.CutAtLast Text.isBlank (head ++ word) head word)
      (hword : word ≠ []) (hlater : ∃ c ∈ head, Text.isBlank c = false)
      (hslash : Text.CutAtLast (· == '/') word directory start) :
      Choice tree current (head ++ directory) start (namesAt tree current directory)

/-- **A choice is offered** as far as its names begin with what was typed. -/
theorem Choice.offers (h : Choice tree current kept start names)
    (hbuffer : buffer.toList = kept ++ start) :
    Offers (complete tree current buffer) kept (beginningWith start names) := by
  cases h with
  | verb hcut hword hfirst =>
    rw [← hbuffer] at hcut
    have hcandidates : candidates tree current kept start =
        ([], beginningWith start Command.offered) := by
      rw [candidates, Text.trim_eq_nil_iff.mpr hfirst, List.isEmpty_nil, if_pos rfl]
    have hoffers : Offers (complete tree current buffer) _ _ := complete_offers hcut hword
    rwa [hcandidates, List.append_nil] at hoffers
  | @path head word directory start hcut hword hlater hslash =>
    rw [List.append_assoc, hslash.append] at hbuffer
    rw [← hbuffer] at hcut
    have hlater' : Text.trim head ≠ [] := by
      obtain ⟨c, hc, hblank⟩ := hlater
      intro htrim
      rw [Text.trim_eq_nil_iff.mp htrim c hc] at hblank
      cases hblank
    have hslashes : (fun c : Char => decide (c ≠ '/')) = fun c => !(c == '/') := by
      funext c
      exact decide_not
    have hcandidates : candidates tree current head word =
        (directory, beginningWith start (namesAt tree current directory)) := by
      simp only [candidates, List.isEmpty_iff, if_neg hlater', hslashes, ← hslash.eq.1,
        ← hslash.eq.2]
    have hoffers : Offers (complete tree current buffer) _ _ := complete_offers hcut hword
    rwa [hcandidates] at hoffers

/-- Whatever is answered comes from a choice. -/
theorem exists_choice (h : complete tree current buffer ≠ .nothing) :
    ∃ kept start names, Choice tree current kept start names ∧ buffer.toList = kept ++ start := by
  obtain ⟨head, word, hcut⟩ := Text.exists_cutAtLast Text.isBlank buffer.toList
  have hword : word ≠ [] := by
    rintro rfl
    exact h (complete_eq_nothing hcut)
  have hhere : Text.CutAtLast Text.isBlank (head ++ word) head word := hcut.replace hcut.ending
  by_cases hfirst : ∀ c ∈ head, Text.isBlank c = true
  · exact ⟨head, word, Command.offered, .verb hhere hword hfirst, hcut.append.symm⟩
  · have hlater : ∃ c ∈ head, Text.isBlank c = false := by simpa using hfirst
    obtain ⟨directory, start, hslash⟩ := Text.exists_cutAtLast (· == '/') word
    refine ⟨head ++ directory, start, _, .path hhere hword hlater hslash, ?_⟩
    rw [List.append_assoc, hslash.append, hcut.append]

/-- The names of a choice can stand where a path has a name. -/
theorem Choice.slash_not_mem (h : Choice tree current kept start names) (ht : tree.WellFormed)
    {name : String} (hname : name ∈ names) : name ≠ "" ∧ '/' ∉ name.toList := by
  cases h with
  | verb hcut hword hfirst =>
    have hoffered : ∀ verb ∈ Command.offered, verb ≠ "" ∧ '/' ∉ verb.toList := by decide
    exact hoffered name hname
  | path hcut hword hlater hslash =>
    obtain ⟨hempty, hnot, -, -⟩ := isPlain_of_mem_namesAt ht hname
    exact ⟨hempty, hnot⟩

theorem Choice.not_isBlank (h : Choice tree current kept start names) :
    ∀ c ∈ start, Text.isBlank c = false := by
  cases h with
  | verb hcut hword hfirst => exact hcut.ending
  | path hcut hword hlater hslash =>
    intro c hc
    exact hcut.ending c (by rw [← hslash.append]; exact List.mem_append_right _ hc)

/-- Another start in its place leaves a choice what it is. -/
theorem Choice.replace (h : Choice tree current kept start names) {other : List Char}
    (hother : other ≠ []) (hblank : ∀ c ∈ other, Text.isBlank c = false)
    (hnot : '/' ∉ other) : Choice tree current kept other names := by
  cases h with
  | verb hcut hword hfirst => exact .verb (hcut.replace hblank) hother hfirst
  | @path head word directory start hcut hword hlater hslash =>
    have hplain : ∀ c ∈ other, (c == '/') = false := by
      intro c hc
      have hne : c ≠ '/' := fun h => hnot (h ▸ hc)
      simpa using hne
    have hword' : directory ++ other ≠ [] := fun h => hother (List.append_eq_nil_iff.mp h).2
    have hcut' := hcut.replace_in_ending hslash hblank
    exact .path hcut' hword' hlater (hslash.replace hplain)

/-- A single completion is the only name of a choice that begins as the word does. -/
theorem exists_choice_of_single {completed : String}
    (h : complete tree current buffer = .single completed) :
    ∃ kept start names name, Choice tree current kept start names ∧
      buffer.toList = kept ++ start ∧ beginningWith start names = [name] ∧
      completed = String.ofList kept ++ name := by
  have hsome : complete tree current buffer ≠ .nothing := by
    rw [h]
    exact Completion.noConfusion
  obtain ⟨kept, start, names, hchoice, hbuffer⟩ := exists_choice hsome
  obtain ⟨name, hname, hcompleted⟩ := ((hchoice.offers hbuffer).single completed).mp h
  exact ⟨kept, start, names, name, hchoice, hbuffer, hname, hcompleted⟩

/-- **Completion offers what would resolve.** The last word of a buffer stands behind its last
blank; without one there is nothing to complete. As the first word it can become the verbs that
begin with it, which are the lower-case ones that are commands. As a later word it stands in the
directory before its last slash and can become the names there that begin with what is behind it;
of the names that a path takes as they stand these are the ones that would resolve in its place,
and they come in the order of the directory. -/
theorem offers_what_resolves {m : Manifest} {tree : Tree} (ht : Tree.ofManifest m = .ok tree)
    (current : Location) (buffer : String) :
    ∃ head word, Text.CutAtLast Text.isBlank buffer.toList head word ∧
      (word = [] → complete tree current buffer = .nothing) ∧
      (word ≠ [] → (∀ c ∈ head, Text.isBlank c = true) → ∃ verbs : List String,
        verbs.Nodup ∧
        (∀ verb, verb ∈ verbs ↔ word <+: verb.toList ∧ Text.lowerCase verb = verb ∧
          ∀ argument unknown, Command.parse verb argument ≠ .unknown unknown) ∧
        Offers (complete tree current buffer) head verbs) ∧
      (word ≠ [] → (∃ c ∈ head, Text.isBlank c = false) → ∃ directory start names,
        Text.CutAtLast (· == '/') word directory start ∧
        names.Nodup ∧
        (∀ name, Path.IsPlain name → (name ∈ names ↔ start <+: name.toList ∧
          ∃ found, tree.resolve current (String.ofList directory ++ name) = .ok found)) ∧
        (∀ name ∈ names, Path.IsPlain name) ∧
        (∀ entries, tree.list? (Path.normalize current (String.ofList directory)) = some entries →
          names.Sublist (entries.map ListEntry.name)) ∧
        Offers (complete tree current buffer) (head ++ directory) names) := by
  have hwf := Tree.wellFormed_of_ofManifest ht
  obtain ⟨head, word, hcut⟩ := Text.exists_cutAtLast Text.isBlank buffer.toList
  refine ⟨head, word, hcut, ?_, ?_, ?_⟩
  · rintro rfl
    exact complete_eq_nothing hcut
  · intro hword hfirst
    have hchoice : Choice tree current head word Command.offered :=
      .verb (hcut.replace hcut.ending) hword hfirst
    refine ⟨beginningWith word Command.offered, Command.nodup_offered.filter _, ?_,
      hchoice.offers hcut.append.symm⟩
    intro verb
    rw [mem_beginningWith, Command.mem_offered_iff, and_comm]
  · intro hword hlater
    obtain ⟨directory, start, hslash⟩ := Text.exists_cutAtLast (· == '/') word
    have hchoice : Choice tree current (head ++ directory) start
        (namesAt tree current directory) :=
      .path (hcut.replace hcut.ending) hword hlater hslash
    have hbuffer : buffer.toList = head ++ directory ++ start := by
      rw [List.append_assoc, hslash.append, hcut.append]
    refine ⟨directory, start, beginningWith start (namesAt tree current directory), hslash,
      (nodup_namesAt hwf current directory).filter _, ?_, ?_, ?_, hchoice.offers hbuffer⟩
    · intro name hname
      rw [mem_beginningWith, exists_resolve_iff_mem_namesAt hslash.head hname, and_comm]
    · intro name hname
      exact isPlain_of_mem_namesAt hwf (mem_beginningWith.mp hname).1
    · intro entries hentries
      obtain ⟨d, hd, rfl⟩ := Option.map_eq_some_iff.mp hentries
      rw [Directory.map_name_listing, namesAt_eq, hd]
      exact List.filter_sublist

/-- Three directories in one. -/
def shelf : Tree :=
  ⟨⟨[("books", .directory [("ada", .directory []), ("alan", .directory []),
    ("bob", .directory [])])]⟩⟩

def shelfManifest : Manifest :=
  ⟨[{ name := "books", kind := "dir", children := [{ name := "ada", kind := "dir" },
    { name := "alan", kind := "dir" }, { name := "bob", kind := "dir" }] }]⟩

theorem offers_what_resolves_on_the_shelf :
    Tree.ofManifest shelfManifest = .ok shelf ∧
      ∃ names, (∀ name, Path.IsPlain name → (name ∈ names ↔ ['a'] <+: name.toList ∧
          ∃ found, shelf.resolve .root (String.ofList "books/".toList ++ name) = .ok found)) ∧
        names = ["ada", "alan"] := by
  have hbuild : Tree.ofManifest shelfManifest = .ok shelf := rfl
  obtain ⟨head, word, hcut, -, -, hlater⟩ := offers_what_resolves hbuild .root "cd books/a"
  obtain ⟨hhead, hword⟩ := hcut.eq
  obtain rfl : word = "books/a".toList := hword.trans (by decide)
  obtain rfl : head = "cd ".toList := hhead.trans (by decide)
  obtain ⟨directory, start, names, hslash, -, hnames, -, -, hoffers⟩ :=
    hlater (by decide) ⟨'c', by decide, by decide⟩
  obtain ⟨hdirectory, hstart⟩ := hslash.eq
  obtain rfl : start = ['a'] := hstart.trans (by decide)
  obtain rfl : directory = "books/".toList := hdirectory.trans (by decide)
  have hanswer : complete shelf .root "cd books/a" = .multiple ["ada", "alan"] := by decide
  exact ⟨hbuild, names, hnames, ((hoffers.multiple _).mp hanswer).1.symm⟩

end Completion

end PocketDesk
