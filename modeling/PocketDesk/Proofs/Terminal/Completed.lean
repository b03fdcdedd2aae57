import PocketDesk.Proofs.Terminal.Complaint
import PocketDesk.Proofs.Terminal.Completion

/-! # Lines that were completed

A buffer with a single completion keeps every character that was typed and gets some more.
The completed buffer has that same completion: the only name that began with what was typed
is still the only one. And it can be submitted: the completed word is read back as a verb that
is a command, or as a path that leads somewhere. -/

namespace PocketDesk

/-! ## Messages -/

namespace CommandError

variable {command path kind : String}

/-- That nothing was found is told by how the message ends. -/
theorem append_ne_message_notFound {front reason : String}
    (hending : " a directory".toList <:+ reason.toList) :
    front ++ reason ≠ (notFound command path).message := by
  intro h
  have hchars : front.toList ++ reason.toList =
      (command ++ ": " ++ path).toList ++ ": No such file or directory".toList := by
    rw [← String.toList_append, h, ← String.toList_append]
    rfl
  have hhere : " a directory".toList <:+ front.toList ++ reason.toList :=
    hending.trans (List.suffix_append _ _)
  have hthere : "or directory".toList <:+ front.toList ++ reason.toList := by
    rw [hchars]
    have hnotFound : "or directory".toList <:+ ": No such file or directory".toList := by decide
    exact hnotFound.trans (List.suffix_append _ _)
  have hsame := List.suffix_of_suffix_length_le hhere hthere (by decide)
  exact absurd hsame (by decide)

theorem message_unsupportedKind_ne :
    (unsupportedKind kind).message ≠ (notFound "open" path).message := by
  intro h
  have hopen : (notFound "open" path).message =
      "open" ++ ": " ++ path ++ ": No such file or directory" := rfl
  have hkind : (unsupportedKind kind).message = "Cannot open file type: " ++ kind := rfl
  rw [hopen, hkind] at h
  have hfirst := congrArg (fun text : String => text.toList.head?) h
  simp at hfirst

end CommandError

namespace Command

variable {tree : Tree} {current : Location} {path : String} {found : Node × Location}

/-- Where the path leads somewhere, neither `cd` nor `open` fails to find it. -/
theorem Fails.message_ne_notFound {verb : String} (hverb : verb ∈ ["cd", "open"])
    (hfound : tree.resolve current path = .ok found) {e : CommandError}
    (h : Fails tree current (parse verb (some path)) e) (other : String) :
    e.message ≠ (CommandError.notFound verb other).message := by
  simp only [List.mem_cons, List.not_mem_nil, or_false] at hverb
  rcases hverb with rfl | rfl
  · have hparse : parse "cd" (some path) = .changeDirectory (some path) := rfl
    rw [hparse] at h
    cases h with
    | nowhere hnot => cases hfound.symm.trans hnot
    | notADirectory hok hnode => exact CommandError.append_ne_message_notFound (by decide)
  · have hparse : parse "open" (some path) = .openPath (some path) := rfl
    rw [hparse] at h
    cases h with
    | missing hnot => cases hfound.symm.trans hnot
    | isADirectory hok => exact CommandError.append_ne_message_notFound (by decide)
    | unsupportedKind hok => exact CommandError.message_unsupportedKind_ne

theorem notFound_not_mem_output {verb : String} (hverb : verb ∈ ["cd", "open"])
    (hfound : tree.resolve current path = .ok found) {H : Type} [WindowHost H] (host : H)
    (other : String) : .error (CommandError.notFound verb other).message ∉
      ((parse verb (some path)).execute tree current host).1.output := by
  intro herror
  obtain ⟨e, hfails, hmessage⟩ := fails_of_error herror
  exact hfails.message_ne_notFound hverb hfound other hmessage.symm

theorem argument_of_parse {verb : String} {argument : Option String}
    (h : parse verb argument = .changeDirectory (some path) ∨
      parse verb argument = .openPath (some path)) : argument = some path := by
  unfold parse at h
  cases hpage : DocPage.ofKey? (Text.lowerCase verb) with
  | some page => simp [hpage] at h
  | none =>
    simp only [hpage, ofVerb] at h
    split at h <;> simp_all

/-- A verb alone fails only when there is no such command. -/
theorem Fails.exists_eq_unknown {verb : String} {e : CommandError}
    (h : Fails tree current (parse verb none) e) : ∃ unknown, parse verb none = .unknown unknown := by
  generalize hcommand : parse verb none = command at h
  cases h with
  | unknown unknown => exact ⟨unknown, rfl⟩
  | nowhere hnot => cases argument_of_parse (.inl hcommand)
  | notADirectory hok hnode => cases argument_of_parse (.inl hcommand)
  | missing hnot => cases argument_of_parse (.inr hcommand)
  | isADirectory hok => cases argument_of_parse (.inr hcommand)
  | unsupportedKind hok => cases argument_of_parse (.inr hcommand)

end Command

/-! ## Completed words -/

namespace Completion

variable {tree : Tree} {current : Location} {kept start : List Char} {names : List String}
  {name : String}

/-- A single completion is its own completion, as long as no blank comes in. -/
theorem complete_of_single (ht : tree.WellFormed) (hchoice : Choice tree current kept start names)
    (hname : beginningWith start names = [name])
    (hblank : ∀ c ∈ name.toList, Text.isBlank c = false) :
    complete tree current (String.ofList kept ++ name) = .single (String.ofList kept ++ name) := by
  have hmem : name ∈ beginningWith start names := by simp [hname]
  obtain ⟨hin, hstart⟩ := mem_beginningWith.mp hmem
  obtain ⟨hne, hnot⟩ := hchoice.slash_not_mem ht hin
  have hagain := hchoice.replace (by simpa using hne) hblank hnot
  have hbuffer : (String.ofList kept ++ name).toList = kept ++ name.toList := by
    simp [String.toList_append]
  have honly := beginningWith_of_eq_singleton hname hstart List.prefix_rfl
  exact ((hagain.offers hbuffer).single _).mpr ⟨name, honly, rfl⟩

theorem Choice.of_words_eq_singleton (h : Choice tree current kept start names) {word : List Char}
    (hwords : Text.words (kept ++ start) = [word]) :
    Text.CutAtLast Text.isBlank (kept ++ start) kept start ∧
      (∀ c ∈ kept, Text.isBlank c = true) ∧ names = Command.offered := by
  cases h with
  | verb hcut hword hfirst => exact ⟨hcut, hfirst, rfl⟩
  | @path head last directory start hcut hword hlater hslash =>
    rw [List.append_assoc, hslash.append, hcut.words_of_ne_nil hword] at hwords
    have hhead : Text.words head ++ [last] = [] ++ [word] := hwords
    obtain ⟨c, hc, hnot⟩ := hlater
    rw [Text.words_eq_nil_iff.mp (List.append_inj' hhead rfl).1 c hc] at hnot
    cases hnot

theorem Choice.of_words_eq_pair (h : Choice tree current kept start names)
    {first second : List Char} (hwords : Text.words (kept ++ start) = [first, second]) :
    ∃ head directory, kept = head ++ directory ∧ Text.words head = [first] ∧
      Text.CutAtLast Text.isBlank (head ++ second) head second ∧
      Text.CutAtLast (· == '/') second directory start ∧
      names = namesAt tree current directory := by
  cases h with
  | verb hcut hword hfirst =>
    rw [hcut.words_eq_singleton hword hfirst] at hwords
    cases hwords
  | @path head word directory start hcut hword hlater hslash =>
    rw [List.append_assoc, hslash.append, hcut.words_of_ne_nil hword] at hwords
    have hboth : Text.words head ++ [word] = [first] ++ [second] := hwords
    obtain ⟨hfirst, hsecond⟩ := List.append_inj' hboth rfl
    obtain rfl := List.singleton_inj.mp hsecond
    exact ⟨head, directory, rfl, hfirst, hcut, hslash, rfl⟩

end Completion

theorem InputLine.parse?_completed {head word directory start verb : List Char} {name : String}
    (hcut : Text.CutAtLast Text.isBlank (head ++ word) head word)
    (hslash : Text.CutAtLast (· == '/') word directory start) (hverb : Text.words head = [verb])
    (hname : name ≠ "") (hblank : ∀ c ∈ name.toList, Text.isBlank c = false) :
    parse? (String.ofList (head ++ directory) ++ name) =
      some ⟨Text.lowerCase (String.ofList verb), some (String.ofList directory ++ name)⟩ := by
  have hline : (String.ofList (head ++ directory) ++ name).toList =
      head ++ (directory ++ name.toList) := by
    simp [String.toList_append]
  have hargument : String.ofList (directory ++ name.toList) = String.ofList directory ++ name := by
    rw [String.ofList_append, String.ofList_toList]
  have hwords : Text.words (String.ofList (head ++ directory) ++ name).toList =
      [verb, directory ++ name.toList] := by
    have hne : directory ++ name.toList ≠ [] := by simp [hname]
    rw [hline, (hcut.replace_in_ending hslash hblank).words_of_ne_nil hne, hverb]
    rfl
  simp only [parse?, hwords, hargument]

namespace Shell

variable {s : Shell}

/-- A line that is a verb on offer is a command, and fails in nothing. -/
theorem asked?_of_offered {line verb : String} (hwords : Text.words line.toList = [verb.toList])
    (hverb : verb ∈ Command.offered) :
    (∃ command, asked? line = some command ∧ ∀ unknown, command ≠ .unknown unknown) ∧
      ∀ (H : Type) [WindowHost H] (host : H) (text : String), .error text ∉ s.added line host := by
  obtain ⟨hlower, hknown⟩ := Command.mem_offered_iff.mp hverb
  have hline : asked? line = some (Command.parse verb none) := by
    simp only [asked?, InputLine.parse?, hwords, String.ofList_toList, hlower, Option.map_some]
  refine ⟨⟨_, hline, hknown none⟩, ?_⟩
  intro H _ host text herror
  obtain ⟨command, e, hcommand, hfails, -⟩ := fails_of_mem_added herror
  obtain rfl := Option.some.inj (hline.symm.trans hcommand)
  obtain ⟨unknown, hunknown⟩ := hfails.exists_eq_unknown
  exact hknown none unknown hunknown

theorem notFound_not_mem_added {line verb path : String} {found : Node × Location}
    (hline : InputLine.parse? line = some ⟨verb, some path⟩) (hverb : verb ∈ ["cd", "open"])
    (hfound : s.tree.resolve s.current path = .ok found) {H : Type} [WindowHost H] (host : H)
    (other : String) : .error (CommandError.notFound verb other).message ∉ s.added line host := by
  intro herror
  have hasked : asked? line = some (Command.parse verb (some path)) := by
    rw [asked?, hline, Option.map_some]
  rcases eq_or_mem_of_mem_added herror with heq | ⟨command, hcommand, hmem⟩
  · cases heq
  · obtain rfl := Option.some.inj (hasked.symm.trans hcommand)
    exact Command.notFound_not_mem_output hverb hfound host other hmem

/-- **A completed line finds what was completed.** A single completion appends to the buffer. When
what it appends holds no blank, which is when the completed word holds none, the completed buffer
is its own single completion, and it can be submitted. Was it a single word, then it asks for a
command that there is, and no error comes of it. Were it two, a `cd` or `open` and a path, then
the path is read as it was completed, it leads somewhere, and the command does not fail to find
it. -/
theorem finds_what_was_completed {m : Manifest} {tree : Tree} (ht : Tree.ofManifest m = .ok tree)
    (hs : Reachable tree s) {buffer completed : String}
    (h : s.complete buffer = .single completed) :
    ∃ added, completed = buffer ++ added ∧
      ((∀ c ∈ added.toList, Text.isBlank c = false) →
        s.complete completed = .single completed ∧
        (∀ word, Text.words buffer.toList = [word] →
          (∃ command, asked? completed = some command ∧
            ∀ unknown, command ≠ .unknown unknown) ∧
          ∀ (H : Type) [WindowHost H] (host : H) (text : String),
            .error text ∉ s.added completed host) ∧
        (∀ first second, Text.words buffer.toList = [first, second] →
          Text.lowerCase (String.ofList first) ∈ ["cd", "open"] →
          InputLine.parse? completed = some ⟨Text.lowerCase (String.ofList first),
            some (String.ofList second ++ added)⟩ ∧
          (∃ found, tree.resolve s.current (String.ofList second ++ added) = .ok found) ∧
          ∀ (H : Type) [WindowHost H] (host : H) (path : String),
            .error (CommandError.notFound (Text.lowerCase (String.ofList first)) path).message ∉
              s.added completed host)) := by
  have hwf : s.tree.WellFormed := by
    rw [hs.tree_eq]
    exact Tree.wellFormed_of_ofManifest ht
  obtain ⟨kept, start, names, name, hchoice, hbuffer, hname, rfl⟩ :=
    Completion.exists_choice_of_single h
  have hmem : name ∈ Completion.beginningWith start names := by simp [hname]
  obtain ⟨hin, rest, hrest⟩ := Completion.mem_beginningWith.mp hmem
  refine ⟨String.ofList rest, ?_, ?_⟩
  · rw [← String.toList_inj]
    simp [String.toList_append, hbuffer, hrest]
  · intro hblank
    have hblankname : ∀ c ∈ name.toList, Text.isBlank c = false := by
      intro c hc
      rw [← hrest] at hc
      rcases List.mem_append.mp hc with hc | hc
      · exact hchoice.not_isBlank c hc
      · exact hblank c (by simpa using hc)
    refine ⟨Completion.complete_of_single hwf hchoice hname hblankname, ?_, ?_⟩
    · intro word hone
      rw [hbuffer] at hone
      obtain ⟨hcut, hfirst, rfl⟩ := hchoice.of_words_eq_singleton hone
      have hne : name.toList ≠ [] := by simpa using (hchoice.slash_not_mem hwf hin).1
      have hline : Text.words (String.ofList kept ++ name).toList = [name.toList] := by
        rw [String.toList_append, String.toList_ofList,
          (hcut.replace hblankname).words_eq_singleton hne hfirst]
      exact asked?_of_offered hline hin
    · intro first second htwo hverb
      rw [hbuffer] at htwo
      obtain ⟨head, directory, rfl, hfirst, hcut, hslash, rfl⟩ := hchoice.of_words_eq_pair htwo
      have hplain := Completion.isPlain_of_mem_namesAt hwf hin
      have hline := InputLine.parse?_completed hcut hslash hfirst hplain.1 hblankname
      obtain ⟨found, hfound⟩ :=
        (Completion.exists_resolve_iff_mem_namesAt hslash.head hplain).mpr hin
      have hpath : String.ofList second ++ String.ofList rest = String.ofList directory ++ name := by
        rw [← String.toList_inj]
        simp [String.toList_append, ← hslash.append, ← hrest]
      rw [hpath, ← hs.tree_eq]
      exact ⟨hline, ⟨found, hfound⟩, fun H _ host other =>
        notFound_not_mem_added hline hverb hfound host other⟩

theorem finds_what_was_completed_on_the_shelf :
    let s := Shell.start Completion.shelf
    Tree.ofManifest Completion.shelfManifest = .ok Completion.shelf ∧
      Reachable Completion.shelf s ∧
      s.complete "  CD books/b" = .single "  CD books/bob" ∧
      s.complete "  CD books/bob" = .single "  CD books/bob" ∧
      InputLine.parse? "  CD books/bob" = some ⟨"cd", some "books/bob"⟩ ∧
      (∃ found, Completion.shelf.resolve .root "books/bob" = .ok found) := by
  intro s
  have hbuild : Tree.ofManifest Completion.shelfManifest = .ok Completion.shelf := rfl
  have hs : Reachable Completion.shelf s := .start
  have hsingle : s.complete "  CD books/b" = .single "  CD books/bob" := by decide
  obtain ⟨added, hadded, hfinds⟩ := finds_what_was_completed hbuild hs hsingle
  obtain rfl : added = "ob" := by
    have hchars := congrArg String.toList hadded
    rw [String.toList_append] at hchars
    have hrest : "  CD books/b".toList ++ added.toList = "  CD books/b".toList ++ ['o', 'b'] :=
      hchars.symm.trans (by decide)
    exact String.toList_inj.mp (List.append_cancel_left hrest)
  have hblank : ∀ c ∈ "ob".toList, Text.isBlank c = false := by
    have hchars : "ob".toList = ['o', 'b'] := rfl
    rw [hchars]
    exact List.forall_mem_cons.mpr ⟨by decide, List.forall_mem_singleton.mpr (by decide)⟩
  obtain ⟨hagain, -, htwo⟩ := hfinds hblank
  have hwords : Text.words "  CD books/b".toList = [['C', 'D'], "books/b".toList] := by decide
  obtain ⟨hline, hfound, -⟩ := htwo _ _ hwords (by decide)
  have hlower : Text.lowerCase (String.ofList ['C', 'D']) = "cd" := by decide
  have hpath : String.ofList "books/b".toList ++ "ob" = "books/bob" := by decide
  rw [hlower, hpath] at hline
  rw [hpath] at hfound
  exact ⟨hbuild, hs, hsingle, hagain, hline, hfound⟩

end Shell

end PocketDesk
