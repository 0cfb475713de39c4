import CriticalCss.Proofs.Browser.Course
import CriticalCss.Proofs.Dialogue.Pool
import CriticalCss.Run

/-!
# Courses of a run

A run gets a browser, does its work, and gives the browser back; if there is no browser it ends
where it begins (`Run.Passage`). The work is to get the stylesheet (`course_cssText_iff_of_file`
for one that is a file) and to evaluate the pages, each of which takes a course of its own
(`course_body_iff`).
-/

namespace CriticalCss

open Dialogue

/-! ## The browser of a run -/

namespace Session

variable {t : List Event} {outcome : Except Fault Unit × Session}

/-- What is done quietly succeeds, as far as the browser reports what goes wrong. -/
theorem course_quietly_iff_of_reports {x : Action Fault Unit} (reports : x.Reports)
    (honest : ∀ own, x.run.Course t own → ∀ e ∈ t, Event.IsOfBrowser e)
    {outcome : Except Fault Unit} :
    x.quietly.run.Course t outcome ↔ outcome = .ok () ∧ ∃ own, x.run.Course t own := by
  have passes : ∀ own, x.run.Course t own → Action.quiet own = .ok () := by
    intro own course
    refine Action.quiet_eq_ok fun fault failed => ?_
    obtain ⟨e, mem, is⟩ := reports t fault (failed ▸ course)
    exact honest own course e mem fault is
  rw [Action.course_quietly_iff]
  constructor
  · rintro ⟨own, course, rfl⟩
    exact ⟨passes own course, own, course⟩
  · rintro ⟨rfl, own, course⟩
    exact ⟨own, course, (passes own course).symm⟩

theorem course_close_idle_iff :
    idle.close.Course t outcome ↔ t = [] ∧ outcome = (.ok (), idle) :=
  course_pure_iff

/-- Without a browser, what drives it is stopped. -/
theorem course_close_started_iff (honest : ∀ e ∈ t, Event.IsReported e) :
    (close ⟨true, false⟩).Course t outcome ↔
      outcome = (.ok (), idle) ∧ ∃ stopped, t = [⟨.stop, stopped⟩] := by
  have reports : (BrowserCall.stop.make : Action Fault Unit).Reports :=
    fun _ _ course => Action.exists_fault_of_course_make course rfl
  constructor
  · intro course
    obtain ⟨_, _, _, rfl, passed, course⟩ := course_bind_iff.1 course
    obtain ⟨rfl, rfl⟩ := course_pure_iff.1 passed
    rw [List.nil_append] at honest ⊢
    obtain ⟨first, _, rest, rfl, own, later⟩ := course_bind_iff.1 course
    have before := (List.forall_mem_append.1 honest).1
    obtain ⟨rfl, stopped, own⟩ := (course_quietly_iff_of_reports reports fun _ made =>
      Action.isOfBrowser_of_course_make (c := .stop) trivial made before).1 own
    obtain ⟨rfl, rfl⟩ := course_pure_iff.1 later
    exact ⟨rfl, stopped, (List.append_nil first).symm ▸ Action.course_make_iff.1 own⟩
  · rintro ⟨rfl, stopped, rfl⟩
    have stopping := (course_quietly_iff_of_reports reports fun _ made =>
      Action.isOfBrowser_of_course_make (c := .stop) trivial made honest).2
        ⟨rfl, stopped, Action.course_make_iff.2 rfl⟩
    exact course_bind_iff.2 ⟨[], .ok (), _, rfl, .done _,
      course_bind_iff.2 ⟨_, .ok (), [], rfl, stopping, .done _⟩⟩

/-- The browser is closed before what drives it is stopped. -/
theorem course_close_launched_iff (honest : ∀ e ∈ t, Event.IsReported e) :
    (close ⟨true, true⟩).Course t outcome ↔
      outcome = (.ok (), idle) ∧
        ∃ closed stopped, t = [⟨.closeBrowser, closed⟩, ⟨.stop, stopped⟩] := by
  have reports : (BrowserCall.closeBrowser.make : Action Fault Unit).Reports :=
    fun _ _ course => Action.exists_fault_of_course_make course rfl
  constructor
  · intro course
    obtain ⟨first, _, rest, rfl, own, later⟩ := course_bind_iff.1 course
    obtain ⟨before, after⟩ := List.forall_mem_append.1 honest
    obtain ⟨rfl, closed, own⟩ := (course_quietly_iff_of_reports reports fun _ made =>
      Action.isOfBrowser_of_course_make (c := .closeBrowser) trivial made before).1 own
    obtain ⟨rfl, stopped, rfl⟩ := (course_close_started_iff after).1 later
    obtain rfl := Action.course_make_iff.1 own
    exact ⟨rfl, closed, stopped, rfl⟩
  · rintro ⟨rfl, closed, stopped, rfl⟩
    obtain ⟨before, after⟩ := List.forall_mem_cons.1 honest
    have alone := List.forall_mem_singleton.2 before
    have closing := (course_quietly_iff_of_reports reports fun _ made =>
      Action.isOfBrowser_of_course_make (c := .closeBrowser) trivial made alone).2
        ⟨rfl, closed, Action.course_make_iff.2 rfl⟩
    exact course_bind_iff.2 ⟨[_], .ok (), [_], rfl, closing,
      (course_close_started_iff after).2 ⟨rfl, stopped, rfl⟩⟩

/-- What is running is closed when the launch fails. -/
theorem course_abandon_iff {s : Session} {fault : Fault} (reported : fault.isOfBrowser = true)
    (closes : ∀ outcome, s.close.Course t outcome → outcome = (.ok (), idle))
    {result : Except SessionError Unit × Session} :
    (s.abandon fault).Course t result ↔
      result = (.error (.notLaunched fault), idle) ∧ s.close.Course t (.ok (), idle) := by
  unfold abandon
  rw [if_pos reported, course_bind_iff]
  constructor
  · rintro ⟨first, outcome, rest, rfl, own, later⟩
    have ended : rest = [] := by
      obtain ⟨_ | _, _⟩ := outcome <;> exact (course_pure_iff.1 later).1
    subst ended
    rw [List.append_nil] at closes ⊢
    obtain rfl := closes outcome own
    exact ⟨(course_pure_iff.1 later).2, own⟩
  · rintro ⟨rfl, closed⟩
    exact ⟨t, _, [], (List.append_nil t).symm, closed, .done _⟩

theorem course_launch_iff {b : BrowserOptions} (honest : ∀ e ∈ t, Event.IsReported e)
    {result : Except SessionError Unit × Session} :
    (idle.launch b).Course t result ↔
      (∃ fault, t = [⟨.start, .error fault⟩] ∧ result = (.error (.notLaunched fault), idle)) ∨
      (∃ fault stopped, t = [⟨.start, .ok ()⟩,
          ⟨.launch b.headless b.executablePath, .error fault⟩, ⟨.stop, stopped⟩] ∧
        result = (.error (.notLaunched fault), idle)) ∨
      (t = [⟨.start, .ok ()⟩, ⟨.launch b.headless b.executablePath, .ok ()⟩] ∧
        result = (.ok (), ⟨true, true⟩)) := by
  unfold launch
  rw [course_bind_iff]
  constructor
  · rintro ⟨first, started, rest, rfl, own, later⟩
    obtain rfl := Action.course_make_iff.1 own
    obtain ⟨first, behind⟩ := List.forall_mem_cons.1 honest
    cases started with
    | error fault =>
      obtain ⟨rfl, closed⟩ := (course_abandon_iff (first trivial fault rfl)
        fun _ course => (course_close_idle_iff.1 course).2).1 later
      obtain ⟨rfl, -⟩ := course_close_idle_iff.1 closed
      exact .inl ⟨fault, rfl, rfl⟩
    | ok _ =>
      obtain ⟨_, launched, rest, rfl, launching, ending⟩ := course_bind_iff.1 later
      obtain rfl := Action.course_make_iff.1 launching
      obtain ⟨second, after⟩ := List.forall_mem_cons.1 behind
      cases launched with
      | error fault =>
        obtain ⟨rfl, closed⟩ := (course_abandon_iff (second trivial fault rfl)
          fun _ course => ((course_close_started_iff after).1 course).1).1 ending
        obtain ⟨-, stopped, rfl⟩ := (course_close_started_iff after).1 closed
        exact .inr (.inl ⟨fault, stopped, rfl, rfl⟩)
      | ok _ =>
        obtain ⟨rfl, rfl⟩ := course_pure_iff.1 ending
        exact .inr (.inr ⟨rfl, rfl⟩)
  · rintro (⟨fault, rfl, rfl⟩ | ⟨fault, stopped, rfl, rfl⟩ | ⟨rfl, rfl⟩)
    · refine ⟨[_], .error fault, [], rfl, Action.course_make_iff.2 rfl, ?_⟩
      exact (course_abandon_iff (honest _ List.mem_cons_self trivial fault rfl)
        fun _ course => (course_close_idle_iff.1 course).2).2
          ⟨rfl, course_close_idle_iff.2 ⟨rfl, rfl⟩⟩
    · obtain ⟨-, honest⟩ := List.forall_mem_cons.1 honest
      obtain ⟨second, honest⟩ := List.forall_mem_cons.1 honest
      refine ⟨[_], .ok (), [_, _], rfl, Action.course_make_iff.2 rfl, .ask ?_⟩
      exact (course_abandon_iff (second trivial fault rfl)
        fun _ course => ((course_close_started_iff honest).1 course).1).2
          ⟨rfl, (course_close_started_iff honest).2 ⟨rfl, stopped, rfl⟩⟩
    · exact ⟨[_], .ok (), [_], rfl, Action.course_make_iff.2 rfl, .ask (.done _)⟩

end Session

/-! ## A run from its beginning to its end -/

namespace Run

variable {d : Pool.Discipline BrowserCall} {o : RunOptions} {s : Session} {t : List Event}

/-- The ways a run can go. -/
inductive Passage (d : Pool.Discipline BrowserCall) (o : RunOptions) :
    List Event → Except RunError RunResult → Prop
  | notStarted (fault : Fault) :
    Passage d o [⟨.start, .error fault⟩] (.error (.session (.notLaunched fault)))
  | notLaunched (fault : Fault) (stopped : BrowserCall.stop.Answer) :
    Passage d o
      [⟨.start, .ok ()⟩, ⟨.launch o.browser.headless o.browser.executablePath, .error fault⟩,
        ⟨.stop, stopped⟩]
      (.error (.session (.notLaunched fault)))
  | served {inner : List Event} {outcomes : Except RunError (List (Except UrlFailure PageResult))}
    (closed : BrowserCall.closeBrowser.Answer) (stopped : BrowserCall.stop.Answer) :
    (body d o ⟨true, true⟩).run.Course inner outcomes →
    Passage d o
      (⟨.start, .ok ()⟩ :: ⟨.launch o.browser.headless o.browser.executablePath, .ok ()⟩ ::
        (inner ++ [⟨.closeBrowser, closed⟩, ⟨.stop, stopped⟩]))
      (outcomes.bind (conclude o))

theorem isReported_of_mem_launched (o : RunOptions) : ∀ e ∈ ([⟨.start, .ok ()⟩,
    ⟨.launch o.browser.headless o.browser.executablePath, .ok ()⟩] : List Event),
    Event.IsReported e := by
  simp [Event.IsReported, Event.IsOfBrowser, Event.fault?]

/-- A run whose browser is there does its work and gives the browser back. -/
theorem course_under_of_body {inner : List Event}
    {outcomes : Except RunError (List (Except UrlFailure PageResult))}
    {closed : BrowserCall.closeBrowser.Answer} {stopped : BrowserCall.stop.Answer}
    (honest : ∀ e ∈ ([⟨.closeBrowser, closed⟩, ⟨.stop, stopped⟩] : List Event), Event.IsReported e)
    (work : (body d o ⟨true, true⟩).run.Course inner outcomes) :
    (under d o).Course
      (⟨.start, .ok ()⟩ :: ⟨.launch o.browser.headless o.browser.executablePath, .ok ()⟩ ::
        (inner ++ [⟨.closeBrowser, closed⟩, ⟨.stop, stopped⟩]))
      (outcomes.bind (conclude o)) := by
  rw [under, course_bind_iff]
  refine ⟨[_, _], _, _, rfl, (Session.course_launch_iff (isReported_of_mem_launched o)).2
    (.inr (.inr ⟨rfl, rfl⟩)), ?_⟩
  have closing := (Session.course_close_launched_iff honest).2 ⟨rfl, closed, stopped, rfl⟩
  exact work.bind (course_bind_iff.2 ⟨_, _, [], rfl, closing, .done _⟩)

/-- **A run gets a browser, does its work and gives the browser back.** -/
theorem course_under_iff (honest : ∀ e ∈ t, Event.IsReported e)
    {outcome : Except RunError RunResult} :
    (under d o).Course t outcome ↔ Passage d o t outcome := by
  constructor
  · intro course
    rw [under] at course
    obtain ⟨first, launched, rest, rfl, own, later⟩ := course_bind_iff.1 course
    obtain ⟨before, after⟩ := List.forall_mem_append.1 honest
    obtain ⟨fault, rfl, rfl⟩ | ⟨fault, stopped, rfl, rfl⟩ | ⟨rfl, rfl⟩ :=
      (Session.course_launch_iff before).1 own
    · obtain ⟨rfl, rfl⟩ := course_pure_iff.1 later
      exact .notStarted fault
    · obtain ⟨rfl, rfl⟩ := course_pure_iff.1 later
      exact .notLaunched fault stopped
    · obtain ⟨inner, outcomes, _, rfl, work, leaving⟩ := course_bind_iff.1 later
      obtain ⟨last, _, _, rfl, closing, ending⟩ := course_bind_iff.1 leaving
      obtain ⟨rfl, closed, stopped, rfl⟩ := (Session.course_close_launched_iff
        (List.forall_mem_append.1 (List.forall_mem_append.1 after).2).1).1 closing
      obtain ⟨rfl, rfl⟩ := course_pure_iff.1 ending
      exact .served closed stopped work
  · intro passage
    cases passage with
    | notStarted fault =>
      exact course_bind_iff.2 ⟨_, _, [], rfl,
        (Session.course_launch_iff honest).2 (.inl ⟨fault, rfl, rfl⟩), .done _⟩
    | notLaunched fault stopped =>
      exact course_bind_iff.2 ⟨_, _, [], rfl,
        (Session.course_launch_iff honest).2 (.inr (.inl ⟨fault, stopped, rfl, rfl⟩)), .done _⟩
    | @served inner outcomes closed stopped work =>
      obtain ⟨-, honest⟩ := List.forall_mem_cons.1 honest
      obtain ⟨-, honest⟩ := List.forall_mem_cons.1 honest
      exact course_under_of_body (List.forall_mem_append.1 honest).2 work

/-! ## The stylesheet -/

theorem cssText_of_text {css : String} (given : o.css = some css) (text : namesFile css = false) :
    cssText o s = pure css := by
  simp [cssText, given, text]

/-- The outcome of reading the file of the stylesheet. -/
def fileOutcome (path : FilePath) : (BrowserCall.fileText path).Answer → Except RunError String
  | .error fault => .error (fileError path fault)
  | .ok text => if Text.isBlankText text.toList then .error (.blank path) else .ok text

theorem course_cssText_iff_of_file {css : String} (given : o.css = some css)
    (file : namesFile css = true) {outcome : Except RunError String} :
    (cssText o s).run.Course t outcome ↔
      ∃ answer, t = [⟨.fileText (cssPath o css), answer⟩] ∧
        outcome = fileOutcome (cssPath o css) answer := by
  unfold cssText
  simp only [given, file, if_true]
  rw [Action.course_bind_iff]
  have judged : ∀ {rest : List Event} {text : String},
      (if Text.isBlankText text.toList then throw (.blank (cssPath o css)) else pure text :
        Action RunError String).run.Course rest outcome ↔
        rest = [] ∧ outcome = fileOutcome (cssPath o css) (.ok text) := by
    intro rest text
    by_cases blank : Text.isBlankText text.toList = true
    · rw [fileOutcome, if_pos blank, if_pos blank]
      exact Action.course_throw_iff
    · rw [fileOutcome, if_neg blank, if_neg blank]
      exact Action.course_pure_iff
  constructor
  · rintro (⟨e, own, rfl⟩ | ⟨first, text, rest, rfl, own, later⟩)
    all_goals
      obtain ⟨answer, made, same⟩ := Action.course_rephrase_iff.1 own
      obtain rfl := Action.course_make_iff.1 made
      cases answer <;> cases same
    · exact ⟨_, rfl, rfl⟩
    · obtain ⟨rfl, rfl⟩ := judged.1 later
      exact ⟨_, rfl, rfl⟩
  · rintro ⟨fault | text, rfl, rfl⟩
    · exact .inl ⟨_, Action.course_rephrase_iff.2 ⟨_, Action.course_make_iff.2 rfl, rfl⟩, rfl⟩
    · exact .inr ⟨[_], text, [], rfl, Action.course_rephrase_iff.2
        ⟨_, Action.course_make_iff.2 rfl, rfl⟩, judged.2 ⟨rfl, rfl⟩⟩

/-! ## The pages -/

/-- The evaluation of a page, of which the failure is put in the words of the run. -/
theorem course_attempt_iff {sheet : Stylesheet} {url : String}
    {outcome : Except UrlFailure PageResult} :
    (attempt o s sheet url).Course t outcome ↔
      ∃ own, (evaluate o s sheet url).run.Course t own ∧
        outcome = own.mapError (UrlFailure.mk url) := by
  rw [attempt, course_bind_iff]
  constructor
  · rintro ⟨first, e | page, rest, rfl, own, later⟩
    all_goals
      obtain ⟨rfl, rfl⟩ := course_pure_iff.1 later
      exact ⟨_, (List.append_nil first).symm ▸ own, rfl⟩
  · rintro ⟨own, course, rfl⟩
    refine ⟨t, own, [], (List.append_nil t).symm, course, ?_⟩
    cases own <;> exact .done _

/-- The pages are evaluated behind the stylesheet, if there is one. -/
theorem course_body_iff {outcomes : Except RunError (List (Except UrlFailure PageResult))} :
    (body d o s).run.Course t outcomes ↔
      (∃ e, (cssText o s).run.Course t (.error e) ∧ outcomes = .error e) ∨
        ∃ first css rest values, t = first ++ rest ∧ (cssText o s).run.Course first (.ok css) ∧
          (evaluateAll d o s (sheetOfText css)).Course rest values ∧ outcomes = .ok values := by
  rw [body, Action.course_bind_iff]
  refine or_congr_right <| exists_congr fun first => exists_congr fun css =>
    exists_congr fun rest => ?_
  have lifted : (ExceptT.lift (evaluateAll d o s (sheetOfText css)) :
      Action RunError _).run.Course rest outcomes ↔
        ∃ values, (evaluateAll d o s (sheetOfText css)).Course rest values ∧
          outcomes = .ok values := by
    change (Except.ok <$> evaluateAll d o s (sheetOfText css)).Course rest outcomes ↔ _
    rw [map_eq_pure_bind, course_bind_iff]
    constructor
    · rintro ⟨_, values, _, rfl, own, later⟩
      obtain ⟨rfl, rfl⟩ := course_pure_iff.1 later
      exact ⟨values, (List.append_nil _).symm ▸ own, rfl⟩
    · rintro ⟨values, own, rfl⟩
      exact ⟨rest, values, [], (List.append_nil rest).symm, own, .done _⟩
  rw [lifted]
  constructor
  · rintro ⟨rfl, own, values, later, rfl⟩
    exact ⟨values, rfl, own, later, rfl⟩
  · rintro ⟨values, rfl, own, later, rfl⟩
    exact ⟨rfl, own, values, later, rfl⟩

end Run

end CriticalCss
