import PocketDesk.Page.Console
import PocketDesk.Proofs.Terminal.Completion
import PocketDesk.Proofs.Terminal.Standing

/-! # Suggestions are never stale

What stands under the input field was found for the text in it, at the place where the
session stood. Every event that may change one of the two takes the suggestions away or
looks for new ones; the rest of the events change nothing at all. -/

namespace PocketDesk.Page.Console

/-- What happens to an input field. -/
inductive Event where
  | press (key : Key)
  /-- The field has another text now. -/
  | type (text : String)
  deriving DecidableEq, Repr

def Event.apply {H : Type} [WindowHost H] : Event → Console → H → Console × H
  | .press key, c, host => c.press key host
  | .type text, c, host => (c.type text, host)

/-- What events can lead to, each of them with a host of its own, from a field that was put before a
session on the tree. -/
inductive Reachable (tree : Tree) : Console → Prop
  | mount {s : Shell} (hs : Shell.Reachable tree s) : Reachable tree (.mount s)
  | event {c : Console} {H : Type} [WindowHost H] (e : Event) (host : H)
      (hc : Reachable tree c) : Reachable tree (e.apply c host).1

variable {H : Type} [WindowHost H] {tree : Tree}

/-- To the session an event is one call, or nothing. -/
theorem Event.shell_apply (e : Event) (c : Console) (host : H) :
    (e.apply c host).1.shell = c.shell ∨
      ∃ call : Shell.Call, (e.apply c host).1.shell = (call.apply c.shell host).1 := by
  cases e with
  | type text => exact .inl rfl
  | press key =>
    cases key with
    | tab | abandon | other => exact .inl rfl
    | enter => exact .inr ⟨.submit c.field.buffer, rfl⟩
    | up => exact .inr ⟨.previous, rfl⟩
    | down => exact .inr ⟨.next, rfl⟩
    | clearLog => exact .inr ⟨.submit "clear", rfl⟩

theorem Reachable.shell {c : Console} (hc : c.Reachable tree) : Shell.Reachable tree c.shell := by
  induction hc with
  | mount hs => exact hs
  | @event c _ _ e host _ ih =>
    rcases e.shell_apply c host with hsame | ⟨call, hcall⟩
    · rw [hsame]
      exact ih
    · rw [hcall]
      exact .call call host ih

/-! ## Suggestions -/

/-- The suggestions, if there are any, are what completing the text offers now. -/
def UpToDate (c : Console) : Prop :=
  c.field.suggestions ≠ [] → c.shell.complete c.field.buffer = .multiple c.field.suggestions

/-- Only asking for a completion can bring suggestions, and only an idle key leaves them. -/
theorem Event.suggestions_apply {e : Event} (htab : e ≠ .press .tab) (hother : e ≠ .press .other)
    (c : Console) (host : H) : (e.apply c host).1.field.suggestions = [] := by
  cases e with
  | type text => rfl
  | press key =>
    cases key with
    | tab => exact absurd rfl htab
    | other => exact absurd rfl hother
    | enter | up | down | clearLog | abandon => rfl

/-- What asking for a completion does to the field. -/
theorem completed_spec (c : Console) :
    (∀ buffer, c.shell.complete c.field.buffer = .single buffer → c.completed = ⟨buffer, []⟩) ∧
    (∀ candidates, c.shell.complete c.field.buffer = .multiple candidates →
      c.completed = ⟨c.field.buffer, candidates⟩) ∧
    (c.shell.complete c.field.buffer = .nothing → c.completed = ⟨c.field.buffer, []⟩) := by
  unfold completed
  cases c.shell.complete c.field.buffer with
  | nothing => simp
  | single buffer => simp
  | multiple candidates => simp

theorem upToDate_completed (c : Console) : UpToDate { c with field := c.completed } := by
  intro hne
  obtain ⟨hsingle, hmultiple, hnothing⟩ := c.completed_spec
  cases hanswer : c.shell.complete c.field.buffer with
  | nothing => exact absurd (congrArg InputField.suggestions (hnothing hanswer)) hne
  | single buffer => exact absurd (congrArg InputField.suggestions (hsingle buffer hanswer)) hne
  | multiple candidates => simp only [hmultiple candidates hanswer, hanswer]

theorem UpToDate.apply {c : Console} (h : c.UpToDate) (e : Event) (host : H) :
    (e.apply c host).1.UpToDate := by
  by_cases htab : e = .press .tab
  · subst htab
    exact upToDate_completed c
  · by_cases hother : e = .press .other
    · subst hother
      exact h
    · exact fun hne => absurd (Event.suggestions_apply htab hother c host) hne

theorem Reachable.upToDate {c : Console} (hc : c.Reachable tree) : c.UpToDate := by
  induction hc with
  | mount hs => exact fun hne => absurd rfl hne
  | event e host _ ih => exact ih.apply e host

/-- Only a single completion changes the text. -/
theorem complete_of_completed_ne {c : Console} (h : c.completed.buffer ≠ c.field.buffer) :
    c.shell.complete c.field.buffer = .single c.completed.buffer := by
  obtain ⟨hsingle, hmultiple, hnothing⟩ := c.completed_spec
  cases hanswer : c.shell.complete c.field.buffer with
  | nothing => exact absurd (congrArg InputField.buffer (hnothing hanswer)) h
  | single buffer => rw [hsingle buffer hanswer]
  | multiple candidates => exact absurd (congrArg InputField.buffer (hmultiple _ hanswer)) h

/-- **Suggestions are never stale.** Whatever happened to an input field since it was put before a
session: when there are suggestions under it, completing its text where the session stands now
offers exactly these. The tab key changes the text only to the single completion there is; it
shows what there is to choose from, and the session and the desktop do not notice it. -/
theorem suggestions_upToDate {c : Console} (hc : c.Reachable tree) :
    Shell.Reachable tree c.shell ∧
    (c.field.suggestions ≠ [] →
      Completion.complete tree c.shell.current c.field.buffer = .multiple c.field.suggestions) ∧
    ∀ (H : Type) [WindowHost H] (host : H),
      let after := (c.press .tab host).1
      let answer := Completion.complete tree c.shell.current c.field.buffer
      (after.field.buffer ≠ c.field.buffer → answer = .single after.field.buffer) ∧
      (∀ completed, answer = .single completed → after.field = ⟨completed, []⟩) ∧
      (∀ candidates, answer = .multiple candidates → after.field = ⟨c.field.buffer, candidates⟩) ∧
      (answer = .nothing → after.field = ⟨c.field.buffer, []⟩) ∧
      after.shell = c.shell ∧ (c.press .tab host).2 = host := by
  have hcomplete : Completion.complete tree c.shell.current c.field.buffer =
      c.shell.complete c.field.buffer := by rw [Shell.complete, hc.shell.tree_eq]
  rw [hcomplete]
  obtain ⟨hsingle, hmultiple, hnothing⟩ := c.completed_spec
  refine ⟨hc.shell, hc.upToDate, fun H _ host => ?_⟩
  exact ⟨complete_of_completed_ne, hsingle, hmultiple, hnothing, rfl, rfl⟩

theorem suggestions_upToDate_in_a_directory :
    let typed := (Event.apply (.type "cd books") (.mount (.start Completion.shelf)) Recorder.empty).1
    let moved := (Event.apply (.press .enter) typed Recorder.empty).1
    let asked := (Event.apply (.type "open a") moved Recorder.empty).1
    let c := (Event.apply (.press .tab) asked Recorder.empty).1
    c.Reachable Completion.shelf ∧ c.field = ⟨"open a", ["ada", "alan"]⟩ ∧
      c.shell.current = ⟨["books"]⟩ ∧
      Completion.complete Completion.shelf ⟨["books"]⟩ "open a" = .multiple ["ada", "alan"] := by
  intro typed moved asked c
  have hc : c.Reachable Completion.shelf :=
    .event _ _ (.event _ _ (.event _ _ (.event _ _ (.mount .start))))
  have hfield : c.field = ⟨"open a", ["ada", "alan"]⟩ := by decide
  have hcurrent : c.shell.current = ⟨["books"]⟩ := by decide
  obtain ⟨-, hdate, -⟩ := suggestions_upToDate hc
  rw [hfield, hcurrent] at hdate
  exact ⟨hc, hfield, hcurrent, hdate (by decide)⟩

end PocketDesk.Page.Console
