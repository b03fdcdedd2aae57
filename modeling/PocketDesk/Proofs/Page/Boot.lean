import PocketDesk.Page.Visit
import PocketDesk.Proofs.Desktop.Startup
import PocketDesk.Proofs.Desktop.Storage

/-! # The boot screen

A visit begins with the boot screen, which nothing listens to: no element of it hears
a gesture, so only time leads on from there. All that time it leaves the session as
it was when the visit began, and its end is the one moment that greets the visitor. -/

namespace PocketDesk

namespace Page

/-! ## Views that hear nothing -/

namespace View

/-- No element of the view waits for a gesture. -/
inductive Idle : View → Prop
  | text (s : String) : Idle (.text s)
  | markup (s : String) : Idle (.markup s)
  | icon (i : Icon) : Idle (.icon i)
  | element {head : Head} {children : List View} (hhead : head.handlers = [])
      (hchildren : ∀ v ∈ children, Idle v) : Idle (.element head children)

theorem Idle.el {tag : String} {classes : List String} {children : List View}
    (h : ∀ v ∈ children, Idle v) : Idle (View.el tag classes children) := .element rfl h

/-- Whatever else is said of an element, without a handler it hears nothing. -/
theorem Idle.mapHead {f : Head → Head} (hf : ∀ head, (f head).handlers = head.handlers) {v : View}
    (h : v.Idle) : (v.mapHead f).Idle := by
  cases h with
  | text s => exact .text s
  | markup s => exact .markup s
  | icon i => exact .icon i
  | element hhead hchildren => exact .element ((hf _).trans hhead) hchildren

variable {v : View}

theorem Idle.withAttribute (h : v.Idle) (name : String) (value : AttributeValue) :
    (v.withAttribute name value).Idle := h.mapHead fun _ => by rfl

theorem Idle.withTexts (h : v.Idle) (texts : List (String × String)) : (v.withTexts texts).Idle :=
  h.mapHead fun _ => by rfl

theorem Idle.withKey (h : v.Idle) (key : String) : (v.withKey key).Idle := h.mapHead fun _ => by rfl

theorem Idle.child? (h : v.Idle) {s : Step} {child : View} (hchild : v.child? s = some child) :
    child.Idle := by
  obtain ⟨⟨found, position⟩, hfound, rfl⟩ := Option.map_eq_some_iff.mp hchild
  have hmem : found ∈ v.children := List.fst_mem_of_mem_zipIdx (List.mem_of_find?_eq_some hfound)
  cases h with
  | text s => cases hmem
  | markup s => cases hmem
  | icon i => cases hmem
  | element hhead hchildren => exact hchildren found hmem

theorem Idle.at? (h : v.Idle) {path : Path} {found : View} (hfound : v.at? path = some found) :
    found.Idle := by
  induction path generalizing found with
  | nil =>
    obtain rfl := Option.some.inj hfound
    exact h
  | cons s above ih =>
    obtain ⟨parent, hparent, hchild⟩ := Option.bind_eq_some_iff.mp hfound
    exact (ih hparent).child? hchild

theorem Idle.deeds (h : v.Idle) {head : Head} (hhead : v.head? = some head) (trigger : Trigger) :
    head.deeds trigger = [] := by
  cases h with
  | text s => cases hhead
  | markup s => cases hhead
  | icon i =>
    obtain rfl := Option.some.inj hhead
    rfl
  | element hnone hchildren =>
    obtain rfl := Option.some.inj hhead
    simp [Head.deeds, hnone]

end View

theorem idle_bootLineView (line : String) : (bootLineView line).Idle := by
  unfold bootLineView
  split
  · refine .el fun v hv => ?_
    simp only [List.mem_cons, List.not_mem_nil, or_false] at hv
    rcases hv with rfl | rfl | rfl
    · exact .text _
    · exact .el fun v hv => List.mem_singleton.mp hv ▸ .text _
    · exact .text _
  · exact .el fun v hv => List.mem_singleton.mp hv ▸ .text _

theorem idle_bootView (shown : Nat) : (bootView shown).Idle := by
  refine (View.Idle.el fun v hv => ?_).withAttribute _ _
  obtain ⟨line, -, rfl⟩ := List.mem_map.mp hv
  exact idle_bootLineView line

/-- Before the desktop is there the whole page hears nothing. -/
theorem idle_view? {p : Page} (hboot : p.isDesktop = false) {v : View} (hv : p.view? = some v) :
    v.Idle := by
  unfold isDesktop at hboot
  unfold view? at hv
  cases hstage : p.stage with
  | nowhere => simp [hstage] at hv
  | desktop clock => simp [hstage] at hboot
  | booting shown due =>
    simp only [hstage, parts, List.map_cons, List.map_nil, Option.some.injEq] at hv
    subst hv
    refine (View.Idle.el fun v hv => ?_).withTexts _
    rw [List.mem_singleton.mp hv]
    exact (idle_bootView shown).withKey _

/-! ## What follows from a change -/

/-- Whatever happened left the session, the stage and the time alone. -/
structure SameScene (p q : Page) : Prop where
  session : q.session = p.session
  stage : q.stage = p.stage
  now : q.now = p.now

namespace SameScene

variable {p q r : Page}

theorem refl (p : Page) : SameScene p p := ⟨rfl, rfl, rfl⟩

theorem trans (h : SameScene p q) (h' : SameScene q r) : SameScene p r :=
  ⟨h'.session.trans h.session, h'.stage.trans h.stage, h'.now.trans h.now⟩

theorem windows (h : SameScene p q) : q.windows = p.windows := congrArg Session.windows h.session

theorem isDesktop (h : SameScene p q) : q.isDesktop = p.isDesktop := by
  unfold Page.isDesktop
  rw [h.stage]

end SameScene

theorem sameScene_save (p : Page) : SameScene p p.save := by
  unfold save
  split <;> exact ⟨rfl, rfl, rfl⟩

theorem sameScene_beginRain (p : Page) : SameScene p p.beginRain := by
  unfold beginRain
  split <;> exact ⟨rfl, rfl, rfl⟩

theorem sameScene_begin (before p : Page) : SameScene p (begin before p) := by
  have hrain : SameScene p
      (if p.showsRain then (if before.showsRain then p else p.beginRain) else p.endRain) := by
    split
    · split
      · exact .refl p
      · exact sameScene_beginRain p
    · exact ⟨rfl, rfl, rfl⟩
  have hexplorer : ∀ q : Page, SameScene q
      (if q.shows filesWindow && !before.shows filesWindow then q.beginExplorer else q) := by
    intro q
    split <;> exact ⟨rfl, rfl, rfl⟩
  have hterminal : ∀ q : Page, SameScene q
      (if q.shows terminalWindow && !before.shows terminalWindow then q.beginTerminal else q) := by
    intro q
    split <;> exact ⟨rfl, rfl, rfl⟩
  exact (hrain.trans (hexplorer _)).trans (hterminal _)

theorem sameScene_prune (p : Page) : SameScene p p.prune := by
  unfold prune
  split <;> exact ⟨rfl, rfl, rfl⟩

theorem sameScene_settle (before p : Page) : SameScene p (settle before p) :=
  ((sameScene_save p).trans (sameScene_begin before p.save)).trans (sameScene_prune _)

/-! ## Gestures on the boot screen -/

theorem deedsAt_of_boot {p : Page} (hboot : p.isDesktop = false) (g : Gesture) (path : Path) :
    p.deedsAt g path = [] := by
  unfold deedsAt
  cases hhead : (p.view?.bind (·.at? path)).bind View.head? with
  | none => rfl
  | some head =>
    obtain ⟨found, hfound, hhead⟩ := Option.bind_eq_some_iff.mp hhead
    obtain ⟨v, hv, hat⟩ := Option.bind_eq_some_iff.mp hfound
    exact ((idle_view? hboot hv).at? hat).deeds hhead g.trigger

theorem bubble_of_boot {p : Page} (hboot : p.isDesktop = false) (g : Gesture) (path : Path) :
    p.bubble g path = p := by
  have hhear : ∀ path, p.hear g path = p := by
    intro path
    rw [hear, deedsAt_of_boot hboot]
  induction path with
  | nil => exact hhear []
  | cons s above ih => rw [bubble, hhear, ih]

theorem SameScene.bubble {p q : Page} (h : SameScene p q) (hboot : p.isDesktop = false)
    (g : Gesture) (path : Path) : SameScene p (q.bubble g path) := by
  rw [bubble_of_boot (h.isDesktop.trans hboot)]
  exact h

/-- A gesture may set something on an element, but nothing comes of it. -/
theorem sameScene_act {p : Page} (hboot : p.isDesktop = false) (place : View.Place) (act : Act) :
    SameScene p (p.act place act) := by
  have htouched : ∀ touches, SameScene p { p with touches } := fun _ => ⟨rfl, rfl, rfl⟩
  have htype : ∀ text, SameScene p (p.typeInto place text) :=
    fun _ => (htouched _).bubble hboot _ _
  cases act with
  | type text => exact htype text
  | key key => exact (SameScene.refl p).bubble hboot _ _
  | line text => exact (htype text).bubble hboot _ _
  | change => exact (htouched _).bubble hboot _ _
  | click => exact (SameScene.refl p).bubble hboot _ _
  | doubleClick => exact (SameScene.refl p).bubble hboot _ _
  | mouseDown => exact (SameScene.refl p).bubble hboot _ _

/-! ## Time -/

theorem sameScene_advanceRain (p : Page) (rain : Rain) : SameScene p (p.advanceRain rain) :=
  ⟨rfl, rfl, rfl⟩

/-- The page one millisecond later, before anything else follows from that. -/
def clocked (p : Page) : Page :=
  let p := { p with now := p.now + 1 }
  if p.stage.due?.any (· ≤ p.now) then p.advanceStage else p

theorem sameScene_tick (p : Page) : SameScene p.clocked p.tick := by
  have hsettled : ∀ (due : Bool) (q : Page), SameScene (if due then q.advanceStage else q)
      (if due then settle q q.advanceStage else q) := by
    intro due q
    cases due with
    | true => exact sameScene_settle q q.advanceStage
    | false => exact .refl q
  unfold tick clocked
  extract_lets q r
  have hr : SameScene (if q.stage.due?.any (· ≤ q.now) then q.advanceStage else q) r :=
    hsettled _ q
  refine hr.trans ?_
  split
  · split
    · exact sameScene_advanceRain r _
    · exact .refl r
  · exact .refl r

/-- The end of the boot screen. -/
theorem enterDesktop_spec (p : Page) :
    p.enterDesktop.windows = p.windows.afterBoot ∧ p.enterDesktop.stage = .desktop p.now ∧
      p.enterDesktop.now = p.now := by
  have henter : p.enterDesktop =
      if p.windows.openWindows.isEmpty then
        Page.use { p with stage := .desktop p.now }
          ({ p.session with windows := p.windows.afterBoot }, [])
      else { p with stage := .desktop p.now } := rfl
  rw [henter, Manager.afterBoot]
  cases p.windows.openWindows.isEmpty <;> exact ⟨rfl, rfl, rfl⟩

/-- What a tick does to the boot screen: nothing, until it brings the next line or, after the last
one, the desktop. -/
theorem clocked_of_booting {p : Page} {shown due : Nat} (hstage : p.stage = .booting shown due) :
    p.clocked.now = p.now + 1 ∧
    ((p.now + 1 < due ∧ p.clocked.session = p.session ∧ p.clocked.stage = .booting shown due) ∨
      (shown < bootLines.length ∧ p.clocked.session = p.session ∧
        ∃ next, p.clocked.stage = .booting (shown + 1) next) ∨
      (p.clocked.windows = p.windows.afterBoot ∧ p.clocked.isDesktop = true)) := by
  let q : Page := { p with now := p.now + 1 }
  have hq : q.stage = .booting shown due := hstage
  by_cases hdue : due ≤ p.now + 1
  · have hclocked : p.clocked = q.advanceStage := by
      show (if q.stage.due?.any (· ≤ q.now) then q.advanceStage else q) = _
      rw [hq]
      exact if_pos (decide_eq_true hdue)
    by_cases hshown : shown < bootLines.length
    · have hline : q.advanceStage = q.bootLine shown := by
        simp only [advanceStage, hq, if_pos hshown]
      rw [hclocked, hline]
      exact ⟨rfl, .inr (.inl ⟨hshown, rfl, _, rfl⟩)⟩
    · have henter : q.advanceStage = q.enterDesktop := by
        simp only [advanceStage, hq, if_neg hshown]
      obtain ⟨hwindows, hstage, hnow⟩ := q.enterDesktop_spec
      rw [hclocked, henter]
      refine ⟨hnow, .inr (.inr ⟨hwindows, ?_⟩)⟩
      rw [isDesktop, hstage]
  · have hclocked : p.clocked = q := by
      show (if q.stage.due?.any (· ≤ q.now) then q.advanceStage else q) = _
      rw [hq]
      exact if_neg (by simpa [Stage.due?] using hdue)
    rw [hclocked]
    exact ⟨rfl, .inl ⟨Nat.lt_of_not_le hdue, rfl, hstage⟩⟩

/-- Once the desktop is there a tick at most sets its clock. -/
theorem clocked_of_desktop {p : Page} {clock : Nat} (hstage : p.stage = .desktop clock) :
    p.clocked.session = p.session ∧ p.clocked.isDesktop = true := by
  let q : Page := { p with now := p.now + 1 }
  have hq : q.stage = .desktop clock := hstage
  have hadvance : q.advanceStage = { q with stage := .desktop q.now } := by
    simp only [advanceStage, hq]
  show (if q.stage.due?.any (· ≤ q.now) then q.advanceStage else q).session = p.session ∧
    (if q.stage.due?.any (· ≤ q.now) then q.advanceStage else q).isDesktop = true
  rw [hadvance]
  split
  · exact ⟨rfl, rfl⟩
  · refine ⟨rfl, ?_⟩
    rw [isDesktop, hq]

/-- **One tick.** The windows change in the tick that brings the desktop, and in no other. -/
theorem windows_tick (p : Page) :
    (p.isDesktop = true → p.tick.isDesktop = true) ∧
    p.tick.windows =
      if p.tick.isDesktop && !p.isDesktop then p.windows.afterBoot else p.windows := by
  have htick := p.sameScene_tick
  rw [htick.isDesktop, htick.windows]
  cases hstage : p.stage with
  | nowhere =>
    have hnow : p.clocked = { p with now := p.now + 1 } := by simp [clocked, hstage, Stage.due?]
    have hnone : p.isDesktop = false := by rw [isDesktop, hstage]
    rw [hnow, hnone]
    refine ⟨(absurd · Bool.false_ne_true), ?_⟩
    rw [Bool.not_false, Bool.and_true]
    exact (if_neg (ne_true_of_eq_false hnone)).symm
  | booting shown due =>
    have hboot : p.isDesktop = false := by rw [isDesktop, hstage]
    rw [hboot]
    obtain ⟨-, ⟨-, hsession, hnext⟩ | ⟨-, hsession, next, hnext⟩ | ⟨hwindows, hdesktop⟩⟩ :=
      clocked_of_booting hstage
    · simp [isDesktop, hnext, windows, hsession]
    · simp [isDesktop, hnext, windows, hsession]
    · simp [hdesktop, hwindows]
  | desktop clock =>
    have hdesktop : p.isDesktop = true := by rw [isDesktop, hstage]
    obtain ⟨hsession, hafter⟩ := clocked_of_desktop hstage
    simp [hdesktop, hafter, windows, hsession]

/-! ## Up to the desktop -/

/-- The windows of a visit that began with those of `m`: greeted since the desktop is there, and as
they were until then. -/
def Greeted (m : Manager) (p : Page) : Prop := p.windows = if p.isDesktop then m.afterBoot else m

variable {m : Manager} {p : Page}

theorem Greeted.tick (h : Greeted m p) : Greeted m p.tick := by
  obtain ⟨hstays, hwindows⟩ := p.windows_tick
  unfold Greeted at h ⊢
  rw [hwindows, h]
  cases hbefore : p.isDesktop with
  | true => simp [hstays hbefore]
  | false => simp

theorem Greeted.wait (h : Greeted m p) (ms : Nat) : Greeted m (p.wait ms) := by
  induction ms with
  | zero => exact h
  | succ ms ih => exact ih.tick

theorem Greeted.sameScene {q : Page} (h : Greeted m p) (hq : SameScene p q) : Greeted m q := by
  unfold Greeted
  rw [hq.windows, hq.isDesktop]
  exact h

/-- **One step of a visit** that begins before the desktop is there. -/
theorem Greeted.visit (h : Greeted m p) (hboot : p.isDesktop = false) (s : VisitStep) :
    Greeted m (p.visit s).1 := by
  let q : Page := { p with report := {} }
  have hq : SameScene p q := ⟨rfl, rfl, rfl⟩
  cases s with
  | wait ms => exact (h.sameScene hq).wait ms
  | act target act =>
    rw [Page.visit]
    split
    · exact h.sameScene (hq.trans (sameScene_act (hq.isDesktop.trans hboot) _ act))
    · exact h.sameScene hq

/-- The pages to which a visit leads up to the first one with the desktop, whatever the visitor
does. -/
inductive UpToDesktop (p : Page) : Page → Prop
  | refl : UpToDesktop p p
  | visit {q : Page} (hq : UpToDesktop p q) (hboot : q.isDesktop = false) (s : VisitStep) :
      UpToDesktop p (q.visit s).1

theorem UpToDesktop.greeted {q : Page} (hq : p.UpToDesktop q) (h : Greeted m p) :
    Greeted m q := by
  induction hq with
  | refl => exact h
  | visit _ hboot s ih => exact ih.visit hboot s

/-- The boot screen comes to an end. -/
theorem exists_wait_isDesktop (p : Page) {shown due : Nat} (hstage : p.stage = .booting shown due) :
    ∃ ms, (p.wait ms).isDesktop = true := by
  have htick := p.sameScene_tick
  have hlater : ∀ ms, (p.tick.wait ms).isDesktop = true → ∃ ms, (p.wait ms).isDesktop = true := by
    intro ms hms
    refine ⟨1 + ms, ?_⟩
    rw [wait_add]
    exact hms
  -- before the last line there is always another line, or a moment less to wait for the next one
  obtain ⟨hnow, ⟨hdue, -, hnext⟩ | ⟨hshown, -, next, hnext⟩ | ⟨-, hdesktop⟩⟩ :=
    clocked_of_booting hstage
  · obtain ⟨ms, hms⟩ := exists_wait_isDesktop p.tick (htick.stage.trans hnext)
    exact hlater ms hms
  · obtain ⟨ms, hms⟩ := exists_wait_isDesktop p.tick (htick.stage.trans hnext)
    exact hlater ms hms
  · exact ⟨1, htick.isDesktop.trans hdesktop⟩
termination_by (bootLines.length - shown, due - p.now)
decreasing_by
  · rw [htick.now, hnow]
    exact Prod.Lex.right _ (by omega)
  · exact Prod.Lex.left _ _ (by omega)

/-! ## From the start -/

theorem start_of_rooted {s : Surroundings} (hs : s.rooted = true) (storage : Storage)
    (chance : Chance) :
    (start s storage chance).windows = (Manager.start storage).1 ∧
      ∃ due, (start s storage chance).stage = .booting 1 due := by
  obtain ⟨q, hstart, hwindows, hstage⟩ : ∃ q : Page, start s storage chance = q.save ∧
      q.windows = (Manager.start storage).1 ∧ ∃ due, q.stage = .booting 1 due := by
    simp only [start, if_pos hs]
    exact ⟨_, rfl, rfl, _, rfl⟩
  have hsave := q.sameScene_save
  rw [hstart, hsave.windows, hsave.stage]
  exact ⟨hwindows, hstage⟩

/-- **A visit starts with all that was saved, or with none of it.** Without a text, or with one that
is no snapshot, the desktop is fresh; from any other text it holds what the snapshot says. While the
boot screen is there the windows stay that way, whatever the visitor does. It does come to an end,
and then the read-me window is opened if no window is open, in front of all others where the
places in the snapshot leave room for that. -/
theorem boots_as_saved (stored : Option String) (s : Surroundings) (chance : Chance) :
    let m := (Manager.start ⟨stored, none⟩).1
    ((∀ text, stored = some text → ∃ fault, Snapshot.ofJson text = .error fault) → m = .fresh) ∧
    (∀ text snapshot, stored = some text → Snapshot.ofJson text = .ok snapshot → m.Holds snapshot ∧
      ((∀ e ∈ snapshot.windows, e.zIndex.toNat + 1 < UInt32.size) →
        m.counter.toNat + 1 < UInt32.size)) ∧
    (s.rooted = true →
      let page := start s ⟨stored, none⟩ chance
      (∃ ms, (page.visit (.wait ms)).1.isDesktop = true) ∧
      ∀ p, page.UpToDesktop p → p.windows = if p.isDesktop then m.afterBoot else m) ∧
    m.Greets m.afterBoot := by
  intro m
  have hcounted : m.Counted := Manager.counted_start _
  refine ⟨?_, ?_, ?_, Manager.greets_afterBoot hcounted⟩
  · intro hfault
    refine Manager.start_of_not_load fun snapshot hload => ?_
    obtain ⟨text, hstored, hread⟩ := Storage.load_eq_ok_some_iff.mp hload
    obtain ⟨fault, hfault⟩ := hfault text hstored
    rw [hread] at hfault
    cases hfault
  · intro text snapshot hstored hread
    have hload := Storage.load_eq_ok_some_iff.mpr ⟨text, hstored, hread⟩
    have hm : m = Manager.fresh.restore snapshot := Manager.start_of_load hload
    have hholds : m.Holds snapshot := hm ▸ Manager.holds_restore snapshot
    exact ⟨hholds, hholds.room⟩
  · intro hrooted page
    obtain ⟨hwindows, due, hstage⟩ := start_of_rooted hrooted ⟨stored, none⟩ chance
    have hboot : page.isDesktop = false := by rw [isDesktop, hstage]
    refine ⟨exists_wait_isDesktop { page with report := {} } hstage, fun p hp => hp.greeted ?_⟩
    rw [Greeted, hwindows, hboot]
    rfl

/-- A snapshot that opens a window far in front and takes that back in a later entry. -/
def takenBack : Snapshot :=
  ⟨[ ⟨filesWindow, true, false, 900⟩, ⟨⟨"solitaire"⟩, true, false, 5000⟩
   , ⟨filesWindow, false, true, 3⟩ ], ⟨false, true⟩⟩

theorem boots_as_saved_taken_back :
    let m := (Manager.start ⟨some takenBack.toJson, none⟩).1
    m.get? filesWindow = some ⟨filesWindow, "File Explorer", false, true, 3, none⟩ ∧
      m.counter = 900 ∧ m.soundEnabled = false ∧ m.effectActive matrixEffect = true ∧
      ∃ p, (start {} ⟨some takenBack.toJson, none⟩ (.ofList [])).UpToDesktop p ∧
        p.isDesktop = true ∧
        p.windows.focused?.map (fun w => (w.id, w.zIndex)) = some (readmeWindow, 901) := by
  intro m
  let storage : Storage := ⟨some takenBack.toJson, none⟩
  obtain ⟨-, hloaded, hpages, -⟩ := boots_as_saved (some takenBack.toJson) {} (.ofList [])
  obtain ⟨hholds, -⟩ := hloaded _ takenBack rfl (Snapshot.ofJson_toJson takenBack)
  obtain ⟨⟨ms, hdesktop⟩, hwindows⟩ := hpages rfl
  obtain ⟨-, due, hstage⟩ := start_of_rooted (s := {}) rfl storage (.ofList [])
  have hreached := UpToDesktop.visit .refl (by rw [isDesktop, hstage]) (.wait ms)
  have hknown : m = Manager.fresh.restore
      ⟨takenBack.windows.filter fun e => e.id ∈ registry.map Prod.fst, takenBack.settings⟩ :=
    hholds.known
  refine ⟨?_, ?_, hholds.sound, hholds.effects matrixEffect, _, hreached, hdesktop, ?_⟩
  · rw [hknown]
    decide
  · rw [hknown]
    decide
  · rw [hwindows _ hreached, hdesktop, if_pos rfl, hholds.known]
    decide

end Page

end PocketDesk
