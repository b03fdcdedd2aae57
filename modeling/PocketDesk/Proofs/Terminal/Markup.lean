import PocketDesk.Desktop.Recorder
import PocketDesk.Page.ConsoleView
import PocketDesk.Proofs.Terminal.Shown
import PocketDesk.Proofs.Terminal.Standing

/-! # What the terminal shows as markup

Only rich lines are shown as markup; the text of every other line, of the prompt and
of the input field is shown as it is. A line becomes rich in one place alone, where a
documentation page is asked for, and what it holds is then the page. So whatever the
tree holds and whatever was typed, no text of either is ever taken for markup. -/

namespace PocketDesk

/-! ## Markup in a view -/

namespace Page

namespace View

mutual
/-- The markup texts in a view, in the order of the document. -/
def markups : View → List String
  | .text _ | .icon _ => []
  | .markup s => [s]
  | .element _ children => markupsOf children

def markupsOf : List View → List String
  | [] => []
  | v :: rest => v.markups ++ markupsOf rest
end

theorem markupsOf_eq_flatMap (views : List View) : markupsOf views = views.flatMap markups := by
  induction views with
  | nil => rfl
  | cons v views ih => rw [markupsOf, ih, List.flatMap_cons]

@[simp] theorem markups_text (s : String) : (View.text s).markups = [] := rfl

@[simp] theorem markups_el (tag : String) (classes : List String) (children : List View) :
    (el tag classes children).markups = children.flatMap markups :=
  markupsOf_eq_flatMap children

/-- Only the head of an element is changed by what is said of it. -/
theorem markups_mapHead (f : Head → Head) (v : View) : (v.mapHead f).markups = v.markups := by
  cases v <;> rfl

@[simp] theorem markups_withAttribute (v : View) (name : String) (value : AttributeValue) :
    (v.withAttribute name value).markups = v.markups := markups_mapHead _ v

@[simp] theorem markups_withTexts (v : View) (texts : List (String × String)) :
    (v.withTexts texts).markups = v.markups := markups_mapHead _ v

@[simp] theorem markups_withKey (v : View) (key : String) : (v.withKey key).markups = v.markups :=
  markups_mapHead _ v

@[simp] theorem markups_on (v : View) (trigger : Trigger) (deeds : List Deed) :
    (v.on trigger deeds).markups = v.markups := markups_mapHead _ v

end View

end Page

/-- The text of a line that is shown as markup. -/
def Line.markup? : Line → Option String
  | .rich markup => some markup
  | _ => none

namespace Page

/-- Where no view has markup, there is none in all of them together. -/
theorem flatMap_markups_eq_nil {α : Type} {view : α → View} (h : ∀ x, (view x).markups = [])
    (xs : List α) : (xs.map view).flatMap View.markups = [] := by
  rw [List.flatMap_map, List.flatMap_eq_nil_iff]
  exact fun x _ => h x

theorem markups_lineView (line : Line) : (lineView line).markups = line.markup?.toList := by
  cases line with
  | listing entries =>
    have hentry : ∀ e : ListEntry,
        (View.el "span" (entryClasses e.style) [.text e.displayName]).markups = [] := fun _ => by simp
    rw [lineView, View.markups_el]
    exact flatMap_markups_eq_nil hentry entries
  | rich markup => rfl
  | command prompt input => rfl
  | text s => rfl
  | muted s => rfl
  | error s => rfl
  | warning s => rfl
  | success s => rfl

theorem flatMap_markups_logView (log : Log) :
    (logView log).flatMap View.markups = log.lines.filterMap Line.markup? := by
  have hlines : log.numbered.map Prod.snd = log.lines := List.map_snd_zip (by simp)
  have hline : ∀ entry : Nat × Line,
      ((lineView entry.2).withKey ("line " ++ toString entry.1)).markups =
        entry.2.markup?.toList := by
    intro entry
    rw [View.markups_withKey, markups_lineView]
  rw [logView, List.flatMap_map]
  simp only [hline]
  rw [← hlines, List.filterMap_map, List.filterMap_eq_flatMap_toList]
  rfl

theorem markups_fieldView (prompt : String) (field : InputField) :
    (fieldView prompt field).markups = [] := by
  have hsuggestion : ∀ s : String, (View.el "span" ["suggestion"] [.text s]).markups = [] :=
    fun _ => by simp
  unfold fieldView suggestionsView
  split
  · simp
  · simp [flatMap_markups_eq_nil hsuggestion]

/-- **The terminal shows the rich lines as markup**, and nothing else of what it has. -/
theorem Console.markups_view (c : Console) :
    c.view.markups = c.shell.log.lines.filterMap Line.markup? := by
  simp [Console.view, flatMap_markups_logView, markups_fieldView]

end Page

/-! ## Rich lines -/

namespace Command

variable {H : Type} [WindowHost H]

/-- The rich lines of a command's output are the page, if it is the command for one. -/
theorem filter_isRich_output (command : Command) (tree : Tree) (current : Location)
    (host : H) : (command.execute tree current host).1.output.filter Line.isRich =
      match command with
      | .doc page => [.rich page.body]
      | _ => [] := by
  split
  · rfl
  · next hdoc =>
    rw [List.filter_eq_nil_iff]
    intro line hline hrich
    cases prints_of_mem_output hline with
    | page page => exact hdoc page rfl
    | status active => cases hrich
    | listing hentries => cases hrich
    | text hfound => cases hrich
    | doing hfound hstyle text => cases hrich
    | usage => cases hrich
    | failure hfails => cases hrich

end Command

namespace Shell

/-- The documentation page that a line asks for. -/
def page? (line : String) : Option DocPage :=
  match asked? line with
  | some (.doc page) => some page
  | _ => none

variable {H : Type} [WindowHost H]

/-- **The rich lines that a line shows** are the page it asks for, if any. -/
theorem filter_isRich_shown (s : Shell) (line : String) (host : H) :
    (s.shown line host).filter Line.isRich = (page? line).toList.map fun page => .rich page.body := by
  unfold shown page?
  cases asked? line with
  | none => rfl
  | some command =>
    have hechoed : (Line.command s.prompt line).isRich = false := rfl
    by_cases hclear : command = .clear
    · subst hclear
      rfl
    · simp only [if_neg hclear, List.filter_cons, hechoed, Command.filter_isRich_output]
      cases command <;> rfl

/-- In a whole run the rich lines are the pages that were asked for, in their order. -/
theorem filter_isRich_collect (s : Shell) (lines : List String) (host : H) :
    (s.collect shown lines host).filter Line.isRich =
      (lines.filterMap page?).map fun page => .rich page.body := by
  rw [filter_collect]
  induction lines generalizing s host with
  | nil => rfl
  | cons line lines ih =>
    rw [collect, ih, filter_isRich_shown]
    cases hpage : page? line with
    | none => simp [hpage]
    | some page => simp [hpage]

/-- A line of the log was there before, or it is shown by the line that was submitted. -/
theorem mem_lines_submit {s : Shell} {line : String} {host : H} {l : Line}
    (h : l ∈ (s.submit line host).1.log.lines) : l ∈ s.log.lines ∨ l ∈ s.shown line host := by
  by_cases hclear : asked? line = some .clear
  · rw [lines_submit_clear hclear] at h
    cases h
  · rw [log_submit hclear, Log.lines_extend] at h
    exact List.mem_append.mp (List.mem_of_mem_drop h)

/-- Every rich line of a log is a documentation page, as it was compiled in. -/
theorem Reachable.eq_page_of_isRich {tree : Tree} {s : Shell} (hs : Reachable tree s) {l : Line}
    (hl : l ∈ s.log.lines) (hrich : l.isRich = true) : ∃ page ∈ DocPage.all, l = .rich page.body := by
  induction hs with
  | start =>
    obtain rfl := List.mem_singleton.mp hl
    cases hrich
  | @call s H inst c host hs ih =>
    cases c with
    | submit line =>
      rcases mem_lines_submit hl with hbefore | hshown
      · exact ih hbefore
      · have hpage := List.mem_filter.mpr ⟨hshown, hrich⟩
        rw [filter_isRich_shown] at hpage
        obtain ⟨page, -, rfl⟩ := List.mem_map.mp hpage
        exact ⟨page, by cases page <;> decide, rfl⟩
    | previous => exact ih hl
    | next => exact ih hl
    | complete buffer => exact ih hl

/-- **No text of a visitor or of the tree is shown as markup.** Wherever calls, with whatever hosts,
led a session on any tree: every rich line of its log is a documentation page. The terminal shows the
rich lines as markup and nothing else, whatever stands in its field, so all markup in it is that of
pages. And whatever lines are submitted next, the rich ones among the lines that they show are the
pages that were asked for, in their order. -/
theorem only_pages_are_markup {tree : Tree} {s : Shell} (hs : Reachable tree s) :
    (∀ l ∈ s.log.lines, l.isRich = true → ∃ page ∈ DocPage.all, l = .rich page.body) ∧
    (∀ field, (Page.Console.mk s field).view.markups = s.log.lines.filterMap Line.markup?) ∧
    (∀ field, ∀ markup ∈ (Page.Console.mk s field).view.markups,
      ∃ page ∈ DocPage.all, markup = page.body) ∧
    (∀ (H : Type) [WindowHost H] (lines : List String) (host : H),
      (s.collect shown lines host).filter Line.isRich =
        (lines.filterMap page?).map fun page => .rich page.body) := by
  refine ⟨fun l hl hrich => hs.eq_page_of_isRich hl hrich, fun field => Page.Console.markups_view _,
    ?_, fun H _ lines host => filter_isRich_collect s lines host⟩
  intro field markup hmarkup
  rw [Page.Console.markups_view] at hmarkup
  obtain ⟨l, hl, hrich⟩ := List.mem_filterMap.mp hmarkup
  cases l with
  | rich body =>
    obtain rfl := Option.some.inj hrich
    obtain ⟨page, hpage, hbody⟩ := hs.eq_page_of_isRich hl rfl
    exact ⟨page, hpage, Line.rich.inj hbody⟩
  | command prompt input => cases hrich
  | text s => cases hrich
  | muted s => cases hrich
  | error s => cases hrich
  | warning s => cases hrich
  | success s => cases hrich
  | listing entries => cases hrich

/-- A text that would be a script, if it were markup. -/
def scripted : Tree := ⟨⟨[("<b>", .file .text "<script>alert(1)</script>")]⟩⟩

theorem only_pages_are_markup_beside_a_script :
    let opened := (Call.apply (.submit "open <b>") (.start scripted) Recorder.empty).1
    let s := (Call.apply (.submit "WhoAmI <i>") opened Recorder.empty).1
    Reachable scripted s ∧ .text "<script>alert(1)</script>" ∈ s.log.lines ∧
      ∀ field, (Page.Console.mk s field).view.markups = [DocPage.whoami.body] := by
  intro opened s
  have hs : Reachable scripted s := .call _ _ (.call _ _ .start)
  have hopen : asked? "open <b>" = some (.openPath (some "<b>")) := by decide
  have hpage : asked? "WhoAmI <i>" = some (.doc .whoami) := by decide
  have hs_eq : s = (((Shell.start scripted).submit "open <b>" Recorder.empty).1.submit
      "WhoAmI <i>" Recorder.empty).1 := rfl
  have hlines : s.log.lines =
      [ .success welcomeMessage, .command "root@gelo:~" "open <b>"
      , .text "<script>alert(1)</script>", .command "root@gelo:~" "WhoAmI <i>"
      , .rich DocPage.whoami.body ] := by
    rw [hs_eq, submit_of_asked hopen, submit_of_asked hpage]
    rfl
  obtain ⟨-, hshows, -, -⟩ := only_pages_are_markup hs
  refine ⟨hs, by simp [hlines], fun field => ?_⟩
  rw [hshows, hlines]
  rfl

end Shell

end PocketDesk
