import PocketDesk.Proofs.Terminal.Log
import PocketDesk.Proofs.Text.LowerCase
import PocketDesk.Proofs.Text.Words
import PocketDesk.Terminal.Shell

/-! # What a submitted line asks for

A line asks for one command or, when it is blank, for none. Submitting a line
is following that command's outcome: only an outcome that says where to go moves
the session, and what the log gets is the line itself and then the output. -/

namespace PocketDesk

namespace InputLine

variable {verb : String} (hv : ∀ c ∈ verb.toList, Text.isBlank c = false) (hverb : verb ≠ "")
include hv hverb

/-- Of what stands behind the verb the first word counts. -/
theorem parse?_verb (rest : String) :
    parse? (verb ++ " " ++ rest) = some ⟨Text.lowerCase verb, Text.firstWord? rest⟩ := by
  have hwords : Text.words (verb ++ " " ++ rest).toList = verb.toList :: Text.words rest.toList := by
    have hl : (verb ++ " " ++ rest).toList = verb.toList ++ ' ' :: rest.toList := by
      simp [String.toList_append]
    rw [hl, Text.words_append_cons (by decide), Text.words_eq_singleton hv (by simpa using hverb)]
    rfl
  simp only [parse?, hwords, Text.firstWord?]
  cases Text.words rest.toList <;> simp [String.ofList_toList]

/-- A verb and an argument without blanks are read back as they were typed. -/
theorem parse?_verb_argument {argument : String}
    (ha : ∀ c ∈ argument.toList, Text.isBlank c = false) (hargument : argument ≠ "") :
    parse? (verb ++ " " ++ argument) = some ⟨Text.lowerCase verb, some argument⟩ := by
  rw [parse?_verb hv hverb, Text.firstWord?_eq_self ha hargument]

end InputLine

namespace Shell

/-- The command that a line asks for; a blank line asks for nothing. -/
def asked? (line : String) : Option Command :=
  (InputLine.parse? line).map fun input => Command.parse input.verb input.argument

/-- A verb in small letters asks for its command, with the first word behind it. -/
theorem asked?_verb (verb : String) (hv : ∀ c ∈ verb.toList, c.isLower = true) (hverb : verb ≠ "")
    (rest : String) :
    asked? (verb ++ " " ++ rest) = some (Command.parse verb (Text.firstWord? rest)) := by
  have hblank := fun c hc => Text.not_isBlank_of_isLower (hv c hc)
  rw [asked?, InputLine.parse?_verb hblank hverb, Option.map_some, Text.lowerCase_eq_self hv]

theorem asked?_cd (rest : String) :
    asked? ("cd " ++ rest) = some (.changeDirectory (Text.firstWord? rest)) :=
  asked?_verb "cd" (by simp) (by decide) rest

theorem asked?_open (rest : String) :
    asked? ("open " ++ rest) = some (.openPath (Text.firstWord? rest)) :=
  asked?_verb "open" (by simp) (by decide) rest

section Path

variable {path : String} (h : ∀ c ∈ path.toList, Text.isBlank c = false) (hpath : path ≠ "")
include h hpath

theorem asked?_changeDirectory : asked? ("cd " ++ path) = some (.changeDirectory (some path)) := by
  rw [asked?_cd, Text.firstWord?_eq_self h hpath]

theorem asked?_openPath : asked? ("open " ++ path) = some (.openPath (some path)) := by
  rw [asked?_open, Text.firstWord?_eq_self h hpath]

end Path

variable {H : Type} [WindowHost H]

theorem submit_of_asked {line : String} {command : Command} (h : asked? line = some command)
    (s : Shell) (host : H) :
    s.submit line host =
      ((s.echo line).follow (command.execute s.tree s.current host).1,
        (command.execute s.tree s.current host).2) := by
  obtain ⟨input, hinput, rfl⟩ := Option.map_eq_some_iff.mp h
  simp [submit, hinput]

theorem submit_of_not_asked {line : String} (h : asked? line = none) (s : Shell) (host : H) :
    s.submit line host = ({ s with history := s.history.park }, host) := by
  have hinput : InputLine.parse? line = none := Option.map_eq_none_iff.mp h
  simp [submit, hinput]

theorem tree_submit (s : Shell) (line : String) (host : H) : (s.submit line host).1.tree = s.tree := by
  cases h : asked? line with
  | none => rw [submit_of_not_asked h]
  | some command =>
    rw [submit_of_asked h]
    rfl

/-- A session stays where it is, or goes where the command's outcome says. -/
theorem current_submit (s : Shell) (line : String) (host : H) :
    (s.submit line host).1.current = s.current ∨
      ∃ command : Command, (command.execute s.tree s.current host).1.navigate =
        some (s.submit line host).1.current := by
  cases h : asked? line with
  | none =>
    left
    rw [submit_of_not_asked h]
  | some command =>
    rw [submit_of_asked h]
    cases hn : (command.execute s.tree s.current host).1.navigate with
    | none =>
      left
      simp [follow, echo, hn]
    | some l =>
      right
      exact ⟨command, by simp [follow, hn]⟩

/-! ## What the log gets -/

theorem capacity_submit (s : Shell) (line : String) (host : H) :
    (s.submit line host).1.log.capacity = s.log.capacity := by
  cases h : asked? line with
  | none => rw [submit_of_not_asked h]
  | some command =>
    rw [submit_of_asked h]
    simp only [follow, Log.capacity_extend]
    split
    · exact s.log.capacity_push _
    · exact s.log.capacity_push _

/-- The lines that submitting a line adds to the log, those that are there afterwards. -/
def added (s : Shell) (line : String) (host : H) : List Line :=
  (s.submit line host).1.log.since s.log.next

theorem added_of_not_asked {line : String} (h : asked? line = none) (s : Shell) (host : H) :
    s.added line host = [] := by
  rw [added, submit_of_not_asked h, Log.since_eq_rtake, Nat.sub_self, List.rtake_zero]

theorem added_of_clear {line : String} (h : asked? line = some .clear) (s : Shell) (host : H) :
    s.added line host = [] := by
  rw [added, submit_of_asked h]
  exact List.drop_nil

/-- The line as it was entered, and the output of its command. -/
def transcript (s : Shell) (line : String) (outcome : Outcome) : List Line :=
  .command s.prompt line :: outcome.output

theorem log_follow_echo (s : Shell) (line : String) {outcome : Outcome}
    (h : outcome.clear = false) :
    ((s.echo line).follow outcome).log = s.log.extend (s.transcript line outcome) := by
  simp [follow, h, echo, transcript, Log.extend]

/-- Unless the command clears the log, the lines are those of its transcript. -/
theorem added_of_asked {line : String} {command : Command} (h : asked? line = some command)
    (s : Shell) (host : H) (hclear : (command.execute s.tree s.current host).1.clear = false) :
    s.added line host =
      (s.transcript line (command.execute s.tree s.current host).1).rtake s.log.capacity := by
  rw [added, submit_of_asked h, log_follow_echo s line hclear, Log.since_extend]

end Shell

end PocketDesk
