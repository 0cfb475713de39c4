import CriticalCss.Proofs.Browser.Course
import CriticalCss.Proofs.Dialogue.Interleaving
import CriticalCss.Run
import Mathlib.Data.List.Nodup

/-!
# Contexts are given back

What one evaluation does to a browser is a row of contexts, each opened, used and closed before
the next one is opened (`Tidy`). In a tidy row every context that was opened is closed, once, and
no page is used behind the end of its context. These facts do not depend on the order in which
the rows of several evaluations are interleaved, as long as the browser makes new contexts and
pages every time (`Fresh`): evaluations cannot touch each other's pages.
-/

namespace CriticalCss

open Dialogue

/-! ## What events do to contexts and pages -/

/-- The page that a call is about, once it is open. -/
def BrowserCall.page? : BrowserCall → Option Nat
  | .openDevtools page | .disableCache page | .intercept page _ | .listen page _
  | .goto page _ _ | .setContent page _ _ | .stopLoading page _ | .awaitIdle page _
  | .delay page _ | .screenshot page _ | .probe page _ | .liveCss page => some page
  | _ => none

/-- The call is about the page, or about neither pages nor contexts. -/
def BrowserCall.IsUse (page : Nat) : BrowserCall → Prop
  | .fileText _ | .pause => True
  | c => c.page? = some page

namespace Event

/-- The context that the browser opened. -/
def opened? : Event → Option Nat
  | ⟨.newContext _, .ok context⟩ => some context
  | _ => none

/-- The page that the browser opened, with its context. -/
def openedPage? : Event → Option (Nat × Nat)
  | ⟨.newPage context, .ok page⟩ => some (context, page)
  | _ => none

/-- The context that the browser was asked to close. -/
def closed? : Event → Option Nat
  | ⟨.closeContext context, _⟩ => some context
  | _ => none

end Event

theorem BrowserCall.IsUse.openedPage? {e : Event} {page : Nat} (use : e.question.IsUse page) :
    e.opened? = none ∧ e.closed? = none ∧ e.openedPage? = none := by
  obtain ⟨c, answer⟩ := e
  cases c <;> first | exact ⟨rfl, rfl, rfl⟩ | cases use

theorem BrowserCall.IsUse.page?_eq {c : BrowserCall} {page p : Nat} (use : c.IsUse page)
    (about : c.page? = some p) : p = page := by
  cases c <;> first | exact (Option.some.inj (about.symm.trans use)) | cases about

/-! ## Tidy rows -/

/-- What is done while a context is open: a page is opened in it, or a page is used that was
opened in it. -/
def Inside (context : Nat) (t : List Event) : Prop :=
  ∀ e ∈ t, e.question = .newPage context ∨
    ∃ page, ⟨.newPage context, .ok page⟩ ∈ t ∧ e.question.IsUse page

/-- What is done between contexts: nothing that needs one. -/
inductive Event.IsIdle : Event → Prop
  | refused (look : ContextLook) (fault : Fault) : IsIdle ⟨.newContext look, .error fault⟩
  | paused (answer : BrowserCall.pause.Answer) : IsIdle ⟨.pause, answer⟩
  | read (path : FilePath) (answer : (BrowserCall.fileText path).Answer) :
    IsIdle ⟨.fileText path, answer⟩

/-- Contexts are opened, used and closed one after another. -/
inductive Tidy : List Event → Prop
  | nil : Tidy []
  | idle {e : Event} {t : List Event} : e.IsIdle → Tidy t → Tidy (e :: t)
  | context {look : ContextLook} {context : Nat} {inner t : List Event}
    {answer : (BrowserCall.closeContext context).Answer} : Inside context inner → Tidy t →
    Tidy (⟨.newContext look, .ok context⟩ :: (inner ++ ⟨.closeContext context, answer⟩ :: t))

namespace Tidy

variable {t first rest : List Event}

theorem append (before : Tidy first) (after : Tidy rest) : Tidy (first ++ rest) := by
  induction before with
  | nil => exact after
  | idle quiet _ ih => exact .idle quiet ih
  | context inside _ ih =>
    rw [List.cons_append, List.append_assoc, List.cons_append]
    exact .context inside ih

end Tidy

/-- What has been done when a page is open, in a context that is open too. -/
def Holds (page : Page) (t : List Event) : Prop :=
  ∃ done look inner, t = done ++ ⟨.newContext look, .ok page.context⟩ :: inner ∧ Tidy done ∧
    Inside page.context inner ∧ ⟨.newPage page.context, .ok page.number⟩ ∈ inner

theorem Holds.after {page : Page} {first rest : List Event} (holds : Holds page rest)
    (before : Tidy first) : Holds page (first ++ rest) := by
  obtain ⟨done, look, inner, rfl, tidy, inside, own⟩ := holds
  exact ⟨first ++ done, look, inner, (List.append_assoc ..).symm, before.append tidy, inside, own⟩

/-- A page that is used and closed leaves a tidy row. -/
theorem Holds.tidy {page : Page} {first rest : List Event} (holds : Holds page first)
    (uses : ∀ e ∈ rest, e.question.IsUse page.number)
    (answer : (BrowserCall.closeContext page.context).Answer) :
    Tidy (first ++ (rest ++ [⟨.closeContext page.context, answer⟩])) := by
  obtain ⟨done, look, inner, rfl, tidy, inside, own⟩ := holds
  have both : Inside page.context (inner ++ rest) := by
    intro e mem
    rcases List.mem_append.1 mem with early | late
    · exact (inside e early).imp_right fun ⟨p, opened, use⟩ =>
        ⟨p, List.mem_append_left rest opened, use⟩
    · exact .inr ⟨_, List.mem_append_left rest own, uses e late⟩
  have closed : Tidy (⟨.newContext look, .ok page.context⟩ ::
      ((inner ++ rest) ++ [⟨.closeContext page.context, answer⟩])) := .context both .nil
  simpa only [List.append_assoc, List.cons_append] using tidy.append closed

/-! ## Using a page -/

namespace Action

variable {ε ε' α β : Type} {page : Nat} {a : α} {x : Action ε α}

/-- All that the action does with the browser is to use the page. -/
def Uses (page : Nat) (x : Action ε α) : Prop :=
  ∀ t outcome, x.run.Course t outcome → ∀ e ∈ t, e.question.IsUse page

theorem uses_pure (a : α) : (pure a : Action ε α).Uses page := by
  intro t outcome course e mem
  obtain ⟨rfl, -⟩ := course_pure_iff.1 course
  cases mem

theorem uses_throw (e : ε) : (throw e : Action ε α).Uses page := by
  intro t outcome course e mem
  obtain ⟨rfl, -⟩ := course_throw_iff.1 course
  cases mem

theorem uses_make {c : BrowserCall} (use : c.IsUse page) : c.make.Uses page := by
  intro t outcome course e mem
  obtain rfl := course_make_iff.1 course
  obtain rfl := List.mem_singleton.1 mem
  exact use

theorem Uses.bind {f : α → Action ε β} (uses : x.Uses page) (later : ∀ a, (f a).Uses page) :
    (x >>= f).Uses page := by
  intro t outcome course e mem
  obtain ⟨_, own, -⟩ | ⟨first, a, rest, rfl, own, rest'⟩ := course_bind_iff.1 course
  · exact uses _ _ own e mem
  · exact (List.mem_append.1 mem).elim (uses _ _ own e) (later a _ _ rest' e)

theorem Uses.rephrase (uses : x.Uses page) (f : ε → ε') : (x.rephrase f).Uses page := by
  intro t outcome course
  obtain ⟨own, course, -⟩ := course_rephrase_iff.1 course
  exact uses t own course

theorem Uses.tryCatch {f : ε → Action ε α} (uses : x.Uses page) (later : ∀ e, (f e).Uses page) :
    (MonadExcept.tryCatch x f : Action ε α).Uses page := by
  intro t outcome course e mem
  obtain ⟨a, own, -⟩ | ⟨first, e', rest, rfl, own, rest'⟩ := course_tryCatch_iff.1 course
  · exact uses _ _ own e mem
  · exact (List.mem_append.1 mem).elim (uses _ _ own e) (later e' _ _ rest' e)

end Action

namespace Page

variable (o : RunOptions) (page : Page) (url : String)

theorem uses_navigate : (page.navigate o url).Uses page.number := by
  unfold navigate
  split
  · exact Action.uses_throw _
  · refine ((Action.uses_make ?_).rephrase _).bind fun html => (Action.uses_make ?_).rephrase _
    · trivial
    · rfl
  · exact (Action.uses_make (by exact rfl)).rephrase _

theorem uses_comeToRest : (page.comeToRest o).Uses page.number := by
  have waits : (page.awaitRest o).Uses page.number :=
    (Action.uses_make (by exact rfl)).bind fun _ => Action.uses_make (by exact rfl)
  refine (waits.tryCatch fun fault => ?_).rephrase _
  cases fault with
  | timeout => exact Action.uses_pure ()
  | _ => exact Action.uses_throw _

theorem uses_settle : (page.settle o).Uses page.number := by
  refine (page.uses_comeToRest o).bind fun _ => ?_
  split
  · exact Action.uses_pure _
  · exact (Action.uses_make (by exact rfl)).rephrase _

theorem uses_screenshot : (page.screenshot o url).Uses page.number :=
  ((Action.uses_make (by exact rfl)).rephrase _).bind fun _ => Action.uses_pure _

theorem uses_probe (selectors : List String) : (page.probe selectors).Uses page.number := by
  refine ((Action.uses_make (by exact rfl)).rephrase _).bind fun answers => ?_
  intro t outcome course e mem
  obtain ⟨rfl, -⟩ := Dialogue.course_pure_iff.1 course
  cases mem

end Page

/-! ## Opening a page -/

namespace Page

variable {o : RunOptions} {t : List Event}

/-- What is done with a new page before it is handed over. -/
def setUp (o : RunOptions) (number : Nat) : Action Fault Unit := do
  (if o.browser.isCacheEnabled then pure () else do
    (BrowserCall.openDevtools number).make
    (BrowserCall.disableCache number).make)
  (if o.blockRequests.isEmpty then pure () else
    (BrowserCall.intercept number o.blockRequests).make)
  (if o.printBrowserConsole then do
    (BrowserCall.listen number "console").make.total
    (BrowserCall.listen number "pageerror").make.total
  else pure ())

theorem prepare_eq (o : RunOptions) (context : Nat) :
    prepare o context = (do
      let number ← (BrowserCall.newPage context).make
      setUp o number
      return ⟨context, number⟩) := by
  unfold prepare setUp
  refine congrArg _ (funext fun number => ?_)
  cases o.browser.isCacheEnabled <;> cases o.blockRequests.isEmpty <;>
    cases o.printBrowserConsole <;> simp

theorem uses_setUp (o : RunOptions) (number : Nat) : (setUp o number).Uses number := by
  unfold setUp
  refine Action.Uses.bind ?_ fun _ => Action.Uses.bind ?_ fun _ => ?_
  · split
    · exact Action.uses_pure ()
    · exact (Action.uses_make (by exact rfl)).bind fun _ => Action.uses_make (by exact rfl)
  · split
    · exact Action.uses_pure ()
    · exact Action.uses_make (by exact rfl)
  · split
    · exact ((Action.uses_make (by exact rfl)).rephrase _).bind fun _ =>
        (Action.uses_make (by exact rfl)).rephrase _
    · exact Action.uses_pure ()

theorem reports_setUp (o : RunOptions) (number : Nat) : (setUp o number).Reports := by
  unfold setUp
  refine Action.Reports.bind ?_ fun _ => Action.Reports.bind ?_ fun _ => ?_
  · split
    · exact Action.reports_pure ()
    · exact Action.Reports.bind (fun _ _ course => Action.exists_fault_of_course_make course rfl)
        fun _ _ _ course => Action.exists_fault_of_course_make course rfl
  · split
    · exact Action.reports_pure ()
    · exact fun _ _ course => Action.exists_fault_of_course_make course rfl
  · split
    · exact (Action.reports_total _).bind fun _ => Action.reports_total _
    · exact Action.reports_pure ()

theorem reports_prepare (o : RunOptions) (context : Nat) : (prepare o context).Reports := by
  rw [prepare_eq]
  exact Action.Reports.bind (fun _ _ course => Action.exists_fault_of_course_make course rfl)
    fun number => (reports_setUp o number).bind fun _ => Action.reports_pure _

/-- Getting a page ready opens it and does nothing but use it. -/
theorem inside_of_course_prepare {context : Nat} {outcome : Except Fault Page}
    (course : (prepare o context).run.Course t outcome) :
    Inside context t ∧ ∀ page, outcome = .ok page →
      page.context = context ∧ ⟨.newPage context, .ok page.number⟩ ∈ t := by
  rw [prepare_eq] at course
  obtain ⟨fault, own, rfl⟩ | ⟨_, number, rest, rfl, own, later⟩ := Action.course_bind_iff.1 course
  · obtain rfl := Action.course_make_iff.1 own
    exact ⟨fun e mem => .inl (by rw [List.mem_singleton.1 mem]), nofun⟩
  obtain rfl := Action.course_make_iff.1 own
  have opened :
      (⟨.newPage context, .ok number⟩ : Event) ∈ [⟨.newPage context, .ok number⟩] ++ rest :=
    List.mem_cons_self
  refine ⟨fun e mem => ?_, ?_⟩
  · rcases List.mem_cons.1 mem with rfl | mem
    · exact .inl rfl
    · have uses := (uses_setUp o number).bind fun _ => Action.uses_pure (⟨context, number⟩ : Page)
      exact .inr ⟨number, opened, uses _ _ later e mem⟩
  · rintro page rfl
    obtain ⟨_, -, no⟩ | ⟨_, _, _, -, -, ended⟩ := Action.course_bind_iff.1 later
    · cases no
    · obtain ⟨-, same⟩ := Action.course_pure_iff.1 ended
      cases same
      exact ⟨rfl, opened⟩

/-- Closing a context is one call. -/
theorem course_closeContext_iff {context : Nat} {outcome : Except Fault Unit} :
    (BrowserCall.closeContext context).make.quietly.run.Course t outcome ↔
      ∃ answer, t = [⟨.closeContext context, answer⟩] ∧ outcome = Action.quiet answer := by
  rw [Action.course_quietly_iff]
  exact exists_congr fun answer => and_congr_left' Action.course_make_iff

/-- Closing a page closes its context. -/
theorem course_close_iff {page : Page} {outcome : Except PageError Unit} :
    page.close.run.Course t outcome ↔
      ∃ answer, t = [⟨.closeContext page.context, answer⟩] ∧
        outcome = (Action.quiet answer).mapError .passed := by
  rw [close, Action.course_rephrase_iff]
  simp only [course_closeContext_iff]
  constructor
  · rintro ⟨_, ⟨answer, rfl, rfl⟩, rfl⟩
    exact ⟨answer, rfl, rfl⟩
  · rintro ⟨answer, rfl, rfl⟩
    exact ⟨_, ⟨answer, rfl, rfl⟩, rfl⟩

/-- What opening a page leaves: the page, or nothing that is open. -/
def Leaves {ε : Type} (t : List Event) : Except ε Page → Prop
  | .ok page => Holds page t
  | .error _ => Tidy t

theorem Leaves.after {ε : Type} {first rest : List Event} {outcome : Except ε Page}
    (leaves : Leaves rest outcome) (before : Tidy first) : Leaves (first ++ rest) outcome := by
  cases outcome with
  | ok page => exact Holds.after leaves before
  | error e => exact before.append leaves

theorem leaves_of_course_openOnce {outcome : Except Fault Page}
    (course : (openOnce o).run.Course t outcome) (honest : ∀ e ∈ t, Event.IsOfBrowser e) :
    Leaves t outcome := by
  obtain ⟨fault, own, rfl⟩ | ⟨_, context, rest, rfl, own, later⟩ := Action.course_bind_iff.1 course
  · obtain rfl := Action.course_make_iff.1 own
    exact .idle (.refused _ fault) .nil
  obtain rfl := Action.course_make_iff.1 own
  obtain ⟨page, own, rfl⟩ | ⟨first, fault, rest, rfl, own, later⟩ :=
    Action.course_tryCatch_iff.1 later
  · obtain ⟨inside, opens⟩ := inside_of_course_prepare own
    obtain ⟨rfl, opened⟩ := opens page rfl
    exact ⟨[], _, rest, rfl, .nil, inside, opened⟩
  · obtain ⟨inside, -⟩ := inside_of_course_prepare own
    have reported : fault.isOfBrowser = true := by
      obtain ⟨e, mem, is⟩ := reports_prepare o context first fault own
      exact honest e (List.mem_append_right _ (List.mem_append_left _ mem)) fault is
    rw [if_pos reported] at later
    -- however the closing ends, it is one call, and what failed is passed on
    obtain ⟨answer, rfl, e, rfl⟩ : ∃ answer, rest = [⟨.closeContext context, answer⟩] ∧
        ∃ e, outcome = .error e := by
      obtain ⟨e, own, rfl⟩ | ⟨_, _, _, rfl, own, thrown⟩ := Action.course_bind_iff.1 later
      all_goals obtain ⟨answer, rfl, -⟩ := course_closeContext_iff.1 own
      · exact ⟨answer, rfl, e, rfl⟩
      · obtain ⟨rfl, rfl⟩ := Action.course_throw_iff.1 thrown
        exact ⟨answer, rfl, fault, rfl⟩
    exact .context inside .nil

theorem leaves_of_course_openPage {outcome : Except PageError Page}
    (course : (openPage o).run.Course t outcome) (honest : ∀ e ∈ t, Event.IsOfBrowser e) :
    Leaves t outcome := by
  obtain ⟨own, tried, rfl⟩ := Action.course_rephrase_iff.1 course
  have leaves : (∀ e ∈ t, Event.IsOfBrowser e) → Leaves t own := by
    refine course_retry (P := fun t own => (∀ e ∈ t, Event.IsOfBrowser e) → Leaves t own)
      leaves_of_course_openOnce ?_ tried
    intro first e pausing rest outcome failed waiting later honest
    obtain ⟨before, honest⟩ := List.forall_mem_append.1 honest
    obtain ⟨_, after⟩ := List.forall_mem_append.1 honest
    have quiet : Tidy pausing := by
      obtain ⟨_, answer, rest, rfl, asked, ended⟩ := Dialogue.course_bind_iff.1
        (map_eq_pure_bind (m := Talk) _ _ ▸ waiting)
      obtain ⟨rfl, -⟩ := Dialogue.course_pure_iff.1 ended
      obtain rfl := Action.course_make_iff.1 asked
      exact .idle (.paused answer) .nil
    exact Leaves.after (Leaves.after (later after) quiet) (leaves_of_course_openOnce failed before)
  cases own with
  | ok page => exact leaves honest
  | error fault => exact leaves honest

/-- A page that is opened, only used, and closed leaves a tidy row. -/
theorem tidy_of_course_ending {α : Type} {use : Page → Action PageError α}
    (uses : ∀ page, (use page).Uses page.number) {outcome : Except PageError α}
    (course : (openPage o >>= fun page => Action.ending page.close (use page)).run.Course t outcome)
    (honest : ∀ e ∈ t, Event.IsOfBrowser e) : Tidy t := by
  obtain ⟨e, own, rfl⟩ | ⟨first, page, _, rfl, own, later⟩ := Action.course_bind_iff.1 course
  · exact leaves_of_course_openPage own honest
  obtain ⟨used, _, closing, _, rfl, usage, closed, rfl⟩ := Action.course_ending_iff.1 later
  obtain ⟨answer, rfl, -⟩ := course_close_iff.1 closed
  have holds : Holds page first :=
    leaves_of_course_openPage own (List.forall_mem_append.1 honest).1
  exact holds.tidy (uses page _ _ usage) answer

theorem tidy_of_course_collectStylesheets {url : String} {outcome : Except PageError String}
    (course : (collectStylesheets o url).run.Course t outcome)
    (honest : ∀ e ∈ t, Event.IsOfBrowser e) : Tidy t := by
  refine tidy_of_course_ending (fun page => ?_) course honest
  refine (page.uses_navigate o url).bind fun _ => ?_
  exact ((Action.uses_make (by exact rfl)).rephrase _).bind fun css => Action.uses_pure _

end Page

/-! ## What tidy rows release -/

/-- The browser makes new contexts and new pages every time. -/
structure Fresh (t : List Event) : Prop where
  contexts : (t.filterMap Event.opened?).Nodup
  pages : ((t.filterMap Event.openedPage?).map (·.2)).Nodup

theorem Fresh.context_eq {t : List Event} (fresh : Fresh t) {context other page : Nat}
    (here : ⟨.newPage context, .ok page⟩ ∈ t) (there : ⟨.newPage other, .ok page⟩ ∈ t) :
    context = other := by
  have listed : ∀ {c}, (⟨.newPage c, .ok page⟩ : Event) ∈ t →
      (c, page) ∈ t.filterMap Event.openedPage? :=
    fun mem => List.mem_filterMap.2 ⟨_, mem, rfl⟩
  exact (Prod.mk.inj (List.inj_on_of_nodup_map fresh.pages (listed here) (listed there) rfl)).1

/-- The event opens the context, opens a page in it, or is about a page that `t` opened in it. -/
def Event.Touches (t : List Event) (context : Nat) (e : Event) : Prop :=
  e.opened? = some context ∨ e.question = .newPage context ∨
    ∃ page, ⟨.newPage context, .ok page⟩ ∈ t ∧ e.question.page? = some page

/-- The later event does not touch a context that the earlier one closes. -/
def Event.Spares (t : List Event) (earlier later : Event) : Prop :=
  ∀ context, earlier.closed? = some context → ¬ later.Touches t context

theorem Inside.quiet {context : Nat} {t : List Event} (inside : Inside context t) {e : Event}
    (mem : e ∈ t) : e.opened? = none ∧ e.closed? = none := by
  rcases inside e mem with isNew | ⟨page, -, use⟩
  · obtain ⟨c, answer⟩ := e
    dsimp only at isNew
    subst isNew
    exact ⟨rfl, rfl⟩
  · exact ⟨use.openedPage?.1, use.openedPage?.2.1⟩

theorem Event.IsIdle.quiet {e : Event} (idle : e.IsIdle) :
    e.opened? = none ∧ e.closed? = none ∧ ∀ t context, ¬ e.Touches t context := by
  cases idle
  all_goals exact ⟨rfl, rfl, fun t context => by rintro (no | no | ⟨_, -, no⟩) <;> cases no⟩

section Row

variable {look : ContextLook} {context : Nat} {inner t : List Event}
  {answer : (BrowserCall.closeContext context).Answer}

theorem Inside.opened_row (inside : Inside context inner) :
    (⟨.newContext look, .ok context⟩ :: (inner ++ ⟨.closeContext context, answer⟩ :: t)).filterMap
      Event.opened? = context :: t.filterMap Event.opened? := by
  have none : inner.filterMap Event.opened? = [] :=
    List.filterMap_eq_nil_iff.2 fun e mem => (inside.quiet mem).1
  simp [List.filterMap_cons, Event.opened?, none]

theorem Inside.closed_row (inside : Inside context inner) :
    (⟨.newContext look, .ok context⟩ :: (inner ++ ⟨.closeContext context, answer⟩ :: t)).filterMap
      Event.closed? = context :: t.filterMap Event.closed? := by
  have none : inner.filterMap Event.closed? = [] :=
    List.filterMap_eq_nil_iff.2 fun e mem => (inside.quiet mem).2
  simp [List.filterMap_cons, Event.closed?, none]

/-- What is done while a context is open touches no other. -/
theorem Inside.context_eq {whole : List Event} (inside : Inside context inner)
    (fresh : Fresh whole) (within : inner ⊆ whole) {e : Event} (mem : e ∈ inner) {other : Nat}
    (touches : e.Touches whole other) : other = context := by
  rcases touches with opens | isNew | ⟨page, opened, about⟩
  · exact nomatch (inside.quiet mem).1.symm.trans opens
  · rcases inside e mem with own | ⟨page, -, use⟩
    · cases own.symm.trans isNew
      rfl
    · rw [isNew] at use
      cases use
  · rcases inside e mem with own | ⟨page', opened', use⟩
    · rw [own] at about
      cases about
    · cases use.page?_eq about
      exact fresh.context_eq opened (within opened')

end Row

namespace Tidy

variable {t whole : List Event}

/-- Tidy rows close what they open. -/
theorem perm (tidy : Tidy t) : (t.filterMap Event.closed?).Perm (t.filterMap Event.opened?) := by
  induction tidy with
  | nil => exact .nil
  | idle idle _ ih =>
    rw [List.filterMap_cons_none idle.quiet.1, List.filterMap_cons_none idle.quiet.2.1]
    exact ih
  | context inside _ ih =>
    rw [inside.opened_row, inside.closed_row]
    exact ih.cons _

/-- Tidy rows touch only contexts that they open. -/
theorem mem_opened_of_touches (tidy : Tidy t) (fresh : Fresh whole) (part : t ⊆ whole) {e : Event}
    (mem : e ∈ t) {context : Nat} (touches : e.Touches whole context) :
    context ∈ t.filterMap Event.opened? := by
  induction tidy with
  | nil => cases mem
  | idle idle _ ih =>
    rw [List.filterMap_cons_none idle.quiet.1]
    rcases List.mem_cons.1 mem with rfl | mem
    · exact (idle.quiet.2.2 _ _ touches).elim
    · exact ih (List.subset_of_cons_subset part) mem
  | context inside _ ih =>
    rw [inside.opened_row]
    obtain ⟨-, part⟩ := List.cons_subset.1 part
    obtain ⟨within, part⟩ := List.append_subset.1 part
    obtain ⟨-, behind⟩ := List.cons_subset.1 part
    rcases List.mem_cons.1 mem with rfl | mem
    · rcases touches with opens | no | ⟨_, -, no⟩
      · cases opens
        exact List.mem_cons_self
      all_goals cases no
    rcases List.mem_append.1 mem with mem | mem
    · exact inside.context_eq fresh within mem touches ▸ List.mem_cons_self
    rcases List.mem_cons.1 mem with rfl | mem
    · rcases touches with no | no | ⟨_, -, no⟩ <;> cases no
    · exact List.mem_cons_of_mem _ (ih behind mem)

/-- In a tidy row nothing touches a context behind its end. -/
theorem pairwise_spares (tidy : Tidy t) (fresh : Fresh whole) (part : t ⊆ whole)
    (distinct : (t.filterMap Event.opened?).Nodup) : t.Pairwise (Event.Spares whole) := by
  induction tidy with
  | nil => exact .nil
  | idle idle _ ih =>
    rw [List.filterMap_cons_none idle.quiet.1] at distinct
    refine .cons (fun later _ context closes => ?_) (ih (List.subset_of_cons_subset part) distinct)
    cases idle.quiet.2.1.symm.trans closes
  | @context _ context inner t answer inside tidy ih =>
    rw [inside.opened_row, List.nodup_cons] at distinct
    obtain ⟨-, part⟩ := List.cons_subset.1 part
    obtain ⟨-, part⟩ := List.append_subset.1 part
    obtain ⟨-, behind⟩ := List.cons_subset.1 part
    have quiet : ∀ e ∈ inner, ∀ later, Event.Spares whole e later := by
      intro e mem later context closes
      cases (inside.quiet mem).2.symm.trans closes
    refine .cons (fun _ _ _ no => nomatch no) (List.pairwise_append.2 ⟨?_, .cons ?_ ?_, ?_⟩)
    · exact List.pairwise_of_forall_mem_list fun e mem later _ => quiet e mem later
    · rintro later mem _ ⟨⟩ touches
      exact distinct.1 (tidy.mem_opened_of_touches fresh behind mem touches)
    · exact ih behind distinct.2
    · exact fun e mem later _ => quiet e mem later

end Tidy

namespace BrowserCall

variable {c : BrowserCall}

theorem IsUse.not_isOfSession {page : Nat} (use : c.IsUse page) : ¬ c.IsOfSession := by
  cases c <;> first | exact id | cases use

theorem IsOfSession.quiet {e : Event} (session : e.question.IsOfSession) :
    e.opened? = none ∧ e.closed? = none ∧ ∀ t context, ¬ e.Touches t context := by
  obtain ⟨c, answer⟩ := e
  cases c
  all_goals first
    | exact False.elim session
    | exact ⟨rfl, rfl, fun t context => by rintro (no | no | ⟨_, -, no⟩) <;> cases no⟩

variable {t : List Event} (session : ∀ e ∈ t, e.question.IsOfSession)
include session

theorem IsOfSession.filterMap_opened? : t.filterMap Event.opened? = [] :=
  List.filterMap_eq_nil_iff.2 fun e mem => (session e mem).quiet.1

theorem IsOfSession.filterMap_closed? : t.filterMap Event.closed? = [] :=
  List.filterMap_eq_nil_iff.2 fun e mem => (session e mem).quiet.2.1

theorem IsOfSession.spares {whole : List Event} {e : Event} (mem : e ∈ t) (other : Event) :
    Event.Spares whole e other ∧ Event.Spares whole other e := by
  refine ⟨fun context closes => ?_, fun context _ => (session e mem).quiet.2.2 whole context⟩
  cases (session e mem).quiet.2.1.symm.trans closes

end BrowserCall

/-- Tidy rows leave the browser as a whole alone. -/
theorem Tidy.not_isOfSession {t : List Event} (tidy : Tidy t) {e : Event} (mem : e ∈ t) :
    ¬ e.question.IsOfSession := by
  induction tidy with
  | nil => cases mem
  | idle idle _ ih =>
    rcases List.mem_cons.1 mem with rfl | mem
    · cases idle <;> exact id
    · exact ih mem
  | context inside _ ih =>
    rcases List.mem_cons.1 mem with rfl | mem
    · exact id
    rcases List.mem_append.1 mem with mem | mem
    · rcases inside e mem with isNew | ⟨page, -, use⟩
      · rw [isNew]
        exact id
      · exact use.not_isOfSession
    rcases List.mem_cons.1 mem with rfl | mem
    · exact id
    · exact ih mem

/-- **Rows that are tidy each are tidy together.** However they are interleaved, every context
that is opened is closed once, and is not touched behind its end. -/
theorem Interleaves.releases {parts : List (List Event)} {t whole : List Event}
    (mixed : Interleaves parts t) (tidy : ∀ part ∈ parts, Tidy part) (fresh : Fresh whole)
    (within : t ⊆ whole) (distinct : (t.filterMap Event.opened?).Nodup) :
    (t.filterMap Event.closed?).Perm (t.filterMap Event.opened?) ∧
      t.Pairwise (Event.Spares whole) := by
  have listed : ∀ part ∈ parts, part ⊆ t := fun part inside e mem =>
    mixed.mem_iff.2 ⟨part, inside, mem⟩
  have gathered : ∀ f : Event → Option Nat,
      (t.filterMap f).Perm (parts.flatMap (·.filterMap f)) := by
    intro f
    rw [List.flatMap_def, ← List.filterMap_flatten]
    exact mixed.perm.filterMap f
  obtain ⟨each, apart⟩ := List.nodup_flatMap.1 ((gathered Event.opened?).nodup_iff.1 distinct)
  refine ⟨?_, mixed.pairwise (fun part inside => ?_) ?_⟩
  · have each : (parts.flatMap (·.filterMap Event.closed?)).Perm
        (parts.flatMap (·.filterMap Event.opened?)) :=
      .flatMap_left parts fun part inside => (tidy part inside).perm
    exact (gathered _).trans (each.trans (gathered _).symm)
  · exact (tidy part inside).pairwise_spares fresh (fun e mem => within (listed part inside mem))
      (each part inside)
  · have spares : ∀ p ∈ parts, ∀ q ∈ parts,
        List.Disjoint (p.filterMap Event.opened?) (q.filterMap Event.opened?) →
        ∀ a ∈ p, ∀ b ∈ q, Event.Spares whole a b := by
      intro p inP q inQ apart a memA b memB context closes touches
      have here := (tidy p inP).perm.mem_iff.1 (List.mem_filterMap.2 ⟨a, memA, closes⟩)
      exact apart here ((tidy q inQ).mem_opened_of_touches fresh
        (fun e mem => within (listed q inQ mem)) memB touches)
    refine apart.imp_of_mem fun inP inQ apart a memA b memB => ⟨?_, ?_⟩
    · exact spares _ inP _ inQ apart a memA b memB
    · exact spares _ inQ _ inP (fun _ here there => apart there here) b memB a memA

end CriticalCss
