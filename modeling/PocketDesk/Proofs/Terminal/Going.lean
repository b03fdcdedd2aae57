import PocketDesk.Proofs.Terminal.Standing

/-! # Going from place to place

A `cd` succeeds exactly when its path leads to a directory, and then goes there. Paths lead
on from one another, so two of them that are followed in turn come to the same place as the
two with a slash between them. A name leads down by one, and from there `..` leads back. -/

namespace PocketDesk.Shell

variable {H : Type} [WindowHost H] {s : Shell}

/-- The line takes the session to `l`, and the log gets the line and no complaint. -/
structure Goes (s : Shell) (line : String) (host : H) (l : Location) : Prop where
  current : (s.submit line host).1.current = l
  log : (s.submit line host).1.log = s.log.push (.command s.prompt line)

/-- Two lines more are not one line more. -/
theorem log_ne_of_prints (line printed : Line) (log : Log) :
    log.extend [line, printed] ≠ log.push line := by
  intro h
  have hnext := congrArg Log.next h
  rw [Log.next_extend, Log.next_push] at hnext
  simp at hnext

/-- **A `cd` succeeds exactly to the directory** that its path names. -/
theorem goes_changeDirectory_iff (path : String)
    (hblank : ∀ c ∈ path.toList, Text.isBlank c = false) (hpath : path ≠ "") (host : H)
    (l : Location) :
    s.Goes ("cd " ++ path) host l ↔
      l = Path.normalize s.current path ∧ s.tree.isDirectory l = true := by
  have hline := asked?_changeDirectory hblank hpath
  rcases Command.runChangeDirectory_cases s.tree s.current path with ⟨e, hrun, hdir⟩ | ⟨-, hdir⟩
  · refine iff_of_false ?_ ?_
    · rintro ⟨-, hlog⟩
      rw [submit_of_asked hline] at hlog
      simp only [Command.execute, hrun] at hlog
      exact log_ne_of_prints _ _ _ hlog
    · rintro ⟨rfl, hdir'⟩
      cases hdir.symm.trans hdir'
  · obtain ⟨hcurrent, hlog⟩ := submit_changeDirectory hline hdir host
    constructor
    · intro h
      obtain rfl := hcurrent.symm.trans h.current
      exact ⟨rfl, hdir⟩
    · rintro ⟨rfl, -⟩
      exact ⟨hcurrent, hlog⟩

/-- **`cd` composes.** Wherever a session stands: when two paths are followed one after the other,
each without a complaint, and the second does not start at the root, then the two with a slash
between them are followed from the start to the same place; and when a name by itself is followed,
`..` leads back to where the session stood. The hosts make no difference. -/
theorem goes_on_and_back {tree : Tree} (hs : Reachable tree s) (host next other : H) :
    (∀ first second : String, first ≠ "" → second ≠ "" →
      (∀ c ∈ first.toList, Text.isBlank c = false) →
      (∀ c ∈ second.toList, Text.isBlank c = false) → second.toList.head? ≠ some '/' →
      ∀ middle last, s.Goes ("cd " ++ first) host middle →
        (s.submit ("cd " ++ first) host).1.Goes ("cd " ++ second) next last →
        s.Goes ("cd " ++ (first ++ "/" ++ second)) other last) ∧
    (∀ name : String, Path.IsPlain name → (∀ c ∈ name.toList, Text.isBlank c = false) →
      ∀ inside, s.Goes ("cd " ++ name) host inside →
        (s.submit ("cd " ++ name) host).1.Goes "cd .." next s.current) := by
  constructor
  · intro first second hfirst hsecond hblank₁ hblank₂ hrelative middle last hgoes₁ hgoes₂
    have htree := tree_submit s ("cd " ++ first) host
    rw [goes_changeDirectory_iff second hblank₂ hsecond, htree, hgoes₁.current] at hgoes₂
    obtain ⟨rfl, -⟩ := (goes_changeDirectory_iff first hblank₁ hfirst host middle).mp hgoes₁
    have hnot : Path.isAbsolute second = false := by
      rw [Bool.eq_false_iff, ne_eq, Path.isAbsolute_iff]
      exact hrelative
    have hblank : ∀ c ∈ (first ++ "/" ++ second).toList, Text.isBlank c = false := by
      intro c hc
      simp only [String.toList_append, List.mem_append] at hc
      rcases hc with (hc | hc) | hc
      · exact hblank₁ c hc
      · obtain rfl : c = '/' := by simpa using hc
        decide
      · exact hblank₂ c hc
    have hboth : first ++ "/" ++ second ≠ "" := by simp
    rw [goes_changeDirectory_iff _ hblank hboth, Path.normalize_append_slash hfirst hnot]
    exact hgoes₂
  · intro name hname hblank inside hgoes
    have htree := tree_submit s ("cd " ++ name) host
    have hup : ∀ c ∈ "..".toList, Text.isBlank c = false := by simp [Text.isBlank]
    have hback : s.current = Path.normalize (s.current.push name) ".." :=
      (Location.parent_push s.current name).symm
    obtain ⟨hinside, -⟩ := (goes_changeDirectory_iff name hblank hname.1 host inside).mp hgoes
    rw [hname.normalize] at hinside
    rw [show "cd .." = "cd " ++ ".." from rfl, goes_changeDirectory_iff ".." hup (by decide), htree,
      hgoes.current, hinside, ← hback]
    exact ⟨rfl, hs.tree_eq ▸ hs.isDirectory⟩

/-- From one level down, over the root, and back again. -/
theorem goes_on_and_back_over_the_root :
    let s := (Call.apply (.submit "cd a") (.start twoLevels) Recorder.empty).1
    Reachable twoLevels s ∧ s.current = ⟨["a"]⟩ ∧
      s.Goes "cd ../.." Recorder.empty .root ∧
      (s.submit "cd ../.." Recorder.empty).1.Goes "cd ./a//b" Recorder.empty ⟨["a", "b"]⟩ ∧
      s.Goes "cd ../.././a//b" Recorder.empty ⟨["a", "b"]⟩ ∧
      s.Goes "cd b" Recorder.empty ⟨["a", "b"]⟩ ∧
      (s.submit "cd b" Recorder.empty).1.Goes "cd .." Recorder.empty ⟨["a"]⟩ := by
  intro s
  have hs : Reachable twoLevels s := .call _ _ .start
  have hcurrent : s.current = ⟨["a"]⟩ := by decide
  have hname : Path.IsPlain "b" := by unfold Path.IsPlain; decide
  have hup : ∀ c ∈ "../..".toList, Text.isBlank c = false := by simp [Text.isBlank]
  have hdown : ∀ c ∈ "./a//b".toList, Text.isBlank c = false := by simp [Text.isBlank]
  have hinto : ∀ c ∈ "b".toList, Text.isBlank c = false := by simp [Text.isBlank]
  have hover : s.Goes "cd ../.." Recorder.empty .root :=
    (goes_changeDirectory_iff "../.." hup (by decide) _ _).mpr (by decide)
  have hon : (s.submit "cd ../.." Recorder.empty).1.Goes "cd ./a//b" Recorder.empty ⟨["a", "b"]⟩ :=
    (goes_changeDirectory_iff "./a//b" hdown (by decide) _ _).mpr (by decide)
  have hinside : s.Goes "cd b" Recorder.empty ⟨["a", "b"]⟩ :=
    (goes_changeDirectory_iff "b" hinto (by decide) _ _).mpr (by decide)
  obtain ⟨hcomposes, hreturns⟩ :=
    goes_on_and_back hs Recorder.empty Recorder.empty Recorder.empty
  have hboth := hcomposes "../.." "./a//b" (by decide) (by decide) hup hdown (by decide) _ _ hover
    hon
  have hback := hreturns "b" hname hinto _ hinside
  rw [hcurrent] at hback
  exact ⟨hs, hcurrent, hover, hon, hboth, hinside, hback⟩

end PocketDesk.Shell
