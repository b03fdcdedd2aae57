import PocketDesk.Proofs.Terminal.Standing
import PocketDesk.Proofs.Text.Ending

/-! # A session told by its history

Every call is either in the history or without effect on anything but the history's
cursor. Since every submitted line puts the cursor behind the newest entry, where it
stood before makes no difference to what follows; so a session, and the host it was
given, come out the same when only the entries of the history are submitted again. -/

namespace PocketDesk

namespace Shell

variable {H : Type} [WindowHost H]

/-! ## Blank lines -/

def isBlank (line : String) : Bool := line.toList.all Text.isBlank

/-- A line asks for a command unless it is blank. -/
theorem asked?_eq_none_iff {line : String} : asked? line = none ↔ isBlank line = true := by
  rw [isBlank, List.all_eq_true, ← Text.words_eq_nil_iff, asked?, Option.map_eq_none_iff,
    InputLine.parse?]
  cases Text.words line.toList with
  | nil => exact iff_of_true rfl rfl
  | cons verb words =>
    have hwords : verb :: words ≠ [] := List.cons_ne_nil verb words
    cases words with
    | nil => exact iff_of_false (Option.some_ne_none _) hwords
    | cons argument words => exact iff_of_false (Option.some_ne_none _) hwords

/-! ## The cursor of the history -/

/-- The session with the history's cursor behind the newest entry. -/
def parked (s : Shell) : Shell := { s with history := s.history.park }

theorem submit_of_isBlank {line : String} (h : isBlank line = true) (s : Shell) (host : H) :
    s.submit line host = (s.parked, host) :=
  submit_of_not_asked (asked?_eq_none_iff.mpr h) s host

/-- Where the cursor stood makes no difference to a submitted line. -/
theorem submit_parked (s : Shell) (line : String) (host : H) :
    s.parked.submit line host = s.submit line host := by
  cases h : asked? line with
  | none => rw [submit_of_not_asked h, submit_of_not_asked h]; rfl
  | some command => rw [submit_of_asked h, submit_of_asked h]; rfl

/-- Submitting a line, blank or not, leaves the cursor behind the newest entry. -/
theorem parked_submit (s : Shell) (line : String) (host : H) :
    (s.submit line host).1.parked = (s.submit line host).1 := by
  cases h : asked? line with
  | none => rw [submit_of_not_asked h]; rfl
  | some command => rw [submit_of_asked h]; rfl

theorem cursor_submit (s : Shell) (line : String) (host : H) :
    (s.submit line host).1.history.cursor = (s.submit line host).1.history.size :=
  congrArg (fun s : Shell => s.history.cursor) (parked_submit s line host).symm

theorem entries_submit {line : String} (h : isBlank line = false) (s : Shell) (host : H) :
    (s.submit line host).1.history.entries = s.history.entries ++ [line] := by
  cases hasked : asked? line with
  | none =>
    rw [asked?_eq_none_iff.mp hasked] at h
    cases h
  | some command =>
    rw [submit_of_asked hasked]
    rfl

/-! ## Calls -/

namespace Call

def line? : Call → Option String
  | .submit line => some line
  | .previous | .next | .complete _ => none

/-- The call enters nothing: it submits a blank line or none. -/
def IsIdle (c : Call) : Prop := ∀ line, c.line? = some line → isBlank line = true

def entered (calls : List Call) : List String :=
  (calls.filterMap line?).filter fun line => !isBlank line

variable {c : Call}

theorem isIdle_or_exists (c : Call) :
    c.IsIdle ∨ ∃ line, c = .submit line ∧ isBlank line = false := by
  cases c with
  | submit line =>
    cases hblank : isBlank line with
    | true =>
      refine .inl fun line' hline => ?_
      rwa [← Option.some.inj hline]
    | false => exact .inr ⟨line, rfl, hblank⟩
  | previous => exact .inl nofun
  | next => exact .inl nofun
  | complete buffer => exact .inl nofun

theorem IsIdle.entered_cons (h : c.IsIdle) (calls : List Call) :
    entered (c :: calls) = entered calls := by
  cases c with
  | submit line =>
    have hblank : isBlank line = true := h line rfl
    simp [entered, line?, hblank]
  | previous => rfl
  | next => rfl
  | complete buffer => rfl

theorem entered_cons_submit {line : String} (h : isBlank line = false) (calls : List Call) :
    entered (.submit line :: calls) = line :: entered calls := by
  simp [entered, line?, h]

/-- A call that enters nothing moves the cursor, at most. -/
theorem IsIdle.apply (h : c.IsIdle) (s : Shell) (host : H) :
    (c.apply s host).2 = host ∧ (c.apply s host).1.parked = s.parked := by
  cases c with
  | submit line =>
    rw [Call.apply, submit_of_isBlank (h line rfl)]
    exact ⟨rfl, rfl⟩
  | previous =>
    refine ⟨rfl, ?_⟩
    simp only [Call.apply, Shell.previous, History.previous]
    split <;> rfl
  | next =>
    refine ⟨rfl, ?_⟩
    simp only [Call.apply, Shell.next, History.next]
    split <;> rfl
  | complete buffer => exact ⟨rfl, rfl⟩

theorem IsIdle.entries_apply (h : c.IsIdle) (s : Shell) (host : H) :
    (c.apply s host).1.history.entries = s.history.entries :=
  calc (c.apply s host).1.history.entries
    _ = (c.apply s host).1.parked.history.entries := rfl
    _ = s.parked.history.entries := by rw [(h.apply s host).2]

def applyAll (calls : List Call) (s : Shell) (host : H) : Shell × H :=
  match calls with
  | [] => (s, host)
  | c :: calls => applyAll calls (c.apply s host).1 (c.apply s host).2

theorem entries_applyAll (calls : List Call) (s : Shell) (host : H) :
    (applyAll calls s host).1.history.entries = s.history.entries ++ entered calls := by
  induction calls generalizing s host with
  | nil => exact (List.append_nil _).symm
  | cons c calls ih =>
    rw [applyAll, ih]
    rcases c.isIdle_or_exists with hidle | ⟨line, rfl, hline⟩
    · rw [hidle.entries_apply, hidle.entered_cons]
    · rw [Call.apply, entries_submit hline, entered_cons_submit hline, List.append_assoc]
      rfl

/-- **Calls come to what their entered lines come to**, but for where the cursor stands. -/
theorem submitAll_entered (calls : List Call) (s : Shell) (host : H) :
    s.parked.submitAll (entered calls) host =
      ((applyAll calls s host).1.parked, (applyAll calls s host).2) := by
  -- the cursor is set aside on both sides, so that browsing drops out of the induction
  induction calls generalizing s host with
  | nil => rfl
  | cons c calls ih =>
    have hrest := ih (c.apply s host).1 (c.apply s host).2
    rw [applyAll, ← hrest]
    rcases c.isIdle_or_exists with hidle | ⟨line, rfl, hline⟩
    · obtain ⟨hhost, hshell⟩ := hidle.apply s host
      rw [hidle.entered_cons, hhost, hshell]
    · have hparked : (Call.apply (.submit line) s host).1.parked = (s.submit line host).1 :=
        parked_submit s line host
      rw [entered_cons_submit hline, submitAll, submit_parked, hparked]
      rfl

end Call

/-- **A session is determined by what was entered.** Whatever calls a new session was put through:
its history is the lines that were submitted and are not blank, in order and as they were typed.
Submitting these again to a new session with a host as it was at the start gives the same location,
the same log, the same history and the same host. A call that submits no line, or a blank one,
leaves everything as it is but the history's cursor, and every submitted line puts the cursor behind
the newest entry. -/
theorem determined_by_history {H : Type} [WindowHost H] (tree : Tree) (calls : List Call)
    (host : H) :
    let session := Call.applyAll calls (.start tree) host
    let again := (Shell.start tree).submitAll session.1.history.entries host
    session.1.history.entries =
      (calls.filterMap Call.line?).filter (fun line => !isBlank line) ∧
    (again.1.current = session.1.current ∧ again.1.log = session.1.log ∧
      again.1.history.entries = session.1.history.entries ∧ again.2 = session.2) ∧
    (∀ (c : Call) (s : Shell) (host : H), c.IsIdle →
      (c.apply s host).2 = host ∧
      (c.apply s host).1 = { s with history := (c.apply s host).1.history } ∧
      (c.apply s host).1.history.entries = s.history.entries) ∧
    (∀ (s : Shell) (line : String) (host : H),
      (s.submit line host).1.history.cursor = (s.submit line host).1.history.size) := by
  intro session again
  have hentries : session.1.history.entries = Call.entered calls :=
    Call.entries_applyAll calls (.start tree) host
  have hagain : again = (session.1.parked, session.2) := by
    have hstart : (Shell.start tree).parked = .start tree := rfl
    have hreplay := Call.submitAll_entered calls (.start tree) host
    rwa [hstart, ← hentries] at hreplay
  refine ⟨hentries, ?_, ?_, cursor_submit⟩
  · rw [hagain]
    exact ⟨rfl, rfl, rfl, rfl⟩
  · intro c s host hidle
    obtain ⟨hhost, hshell⟩ := hidle.apply s host
    refine ⟨hhost, ?_, hidle.entries_apply s host⟩
    exact congrArg (fun t : Shell => { t with history := (c.apply s host).1.history }) hshell

end Shell

end PocketDesk
