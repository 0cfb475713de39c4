import CriticalCss.Proofs.Browser.Release
import CriticalCss.Proofs.Options.Standard
import CriticalCss.Proofs.Run.Outcome

/-!
# What a run gives back

Whatever the browser fails with, and wherever: a run closes every context that it opens, once,
does nothing in a context behind its end, and in the end closes the browser and stops what drives
it, if it has them (`Run.givesBack_of_course_under`).
-/

namespace CriticalCss

open Dialogue

namespace Run

variable {d : Pool.Discipline BrowserCall} {o : RunOptions} {sheet : Stylesheet} {url : String}
  {t : List Event}

/-! ## The work of a run is tidy -/

theorem uses_measure (o : RunOptions) (sheet : Stylesheet) (url : String) (page : Page) :
    (measure o sheet url page).Uses page.number := by
  refine (page.uses_navigate o url).bind fun _ => (page.uses_settle o).bind fun _ => ?_
  have extraction : (extract (wishes o) page.probe sheet).Uses page.number := by
    unfold extract
    dsimp only
    split
    · exact (Action.uses_pure _).bind fun _ => Action.uses_pure _
    · exact (page.uses_probe _).bind fun _ => Action.uses_pure _
  dsimp only
  split
  · exact (page.uses_screenshot o url).bind fun _ => extraction
  · exact extraction

theorem tidy_of_course_evaluate {outcome : Except PageError PageResult}
    (course : (evaluate o ⟨true, true⟩ sheet url).run.Course t outcome)
    (honest : ∀ e ∈ t, Event.IsOfBrowser e) : Tidy t := by
  have course : ((Page.openPage o >>= fun page =>
      Action.ending page.close (measure o sheet url page)) >>= fun map =>
        pure (PageResult.ofMap o.dropKeyframes sheet (url, map)) :
      Action PageError PageResult).run.Course t outcome := by
    rw [LawfulMonad.bind_assoc]
    exact course
  obtain ⟨e, own, -⟩ | ⟨first, map, rest, rfl, own, later⟩ := Action.course_bind_iff.1 course
  · exact Page.tidy_of_course_ending (uses_measure o sheet url) own honest
  · obtain ⟨rfl, -⟩ := Action.course_pure_iff.1 later
    rw [List.append_nil] at honest ⊢
    exact Page.tidy_of_course_ending (uses_measure o sheet url) own honest

theorem tidy_of_course_cssText {outcome : Except RunError String}
    (course : (cssText o ⟨true, true⟩).run.Course t outcome)
    (honest : ∀ e ∈ t, Event.IsOfBrowser e) : Tidy t := by
  cases given : o.css with
  | none =>
    rw [cssText, given] at course
    obtain ⟨own, collected, -⟩ := Action.course_rephrase_iff.1 course
    exact Page.tidy_of_course_collectStylesheets collected honest
  | some css =>
    cases file : namesFile css with
    | true =>
      obtain ⟨answer, rfl, -⟩ := (course_cssText_iff_of_file given file).1 course
      exact .idle (.read _ answer) .nil
    | false =>
      rw [cssText_of_text given file] at course
      obtain ⟨rfl, -⟩ := Action.course_pure_iff.1 course
      exact .nil

/-- The work of a run interleaves tidy rows. -/
theorem exists_tidy_parts (places : d.limit ≠ some 0)
    {outcomes : Except RunError (List (Except UrlFailure PageResult))}
    (course : (body d o ⟨true, true⟩).run.Course t outcomes)
    (honest : ∀ e ∈ t, Event.IsOfBrowser e) :
    ∃ parts, (∀ part ∈ parts, Tidy part) ∧ Interleaves parts t := by
  obtain ⟨e, own, rfl⟩ | ⟨first, css, rest, values, rfl, own, later, rfl⟩ :=
    course_body_iff.1 course
  · refine ⟨[t], List.forall_mem_singleton.2 (tidy_of_course_cssText own honest), ?_⟩
    have alone : Interleaves [t] (t ++ []) := .append (.nil nofun)
    rwa [List.append_nil] at alone
  · obtain ⟨before, after⟩ := List.forall_mem_append.1 honest
    obtain ⟨outcomes, comes, mixed, -⟩ := exists_outcomes places later
    refine ⟨first :: outcomes.map (·.1), List.forall_mem_cons.2
      ⟨tidy_of_course_cssText own before, List.forall_mem_map.2 fun outcome mem => ?_⟩,
      mixed.append⟩
    have known : ∀ e ∈ outcome.1, Event.IsOfBrowser e := fun e inside =>
      after e (mixed.mem_iff.2 ⟨_, List.mem_map_of_mem mem, inside⟩)
    obtain ⟨url, -, attempted⟩ := comes.exists_url mem
    obtain ⟨own, evaluated, -⟩ := course_attempt_iff.1 attempted
    exact tidy_of_course_evaluate evaluated known

/-! ## The whole run -/

/-- All that a run got from the browser is given back. -/
structure GivesBack (t : List Event) : Prop where
  /-- Every context that is opened is closed, once. -/
  closed : ∀ context ∈ t.filterMap Event.opened?, (t.filterMap Event.closed?).count context = 1
  /-- Nothing else is closed. -/
  opened : ∀ context ∈ t.filterMap Event.closed?, context ∈ t.filterMap Event.opened?
  /-- No context, and no page in it, is touched behind its end. -/
  spared : t.Pairwise (Event.Spares t)
  /-- Behind everything else the browser is closed if it was launched, and what drives it is
  stopped if it was started. -/
  ended : ∃ work ends, t = work ++ ends ∧
    (∀ e ∈ work, e.question ≠ .closeBrowser ∧ e.question ≠ .stop) ∧
    ends.map (·.question) = (if t.any Event.launches then [.closeBrowser] else []) ++
      (if t.any Event.starts then [.stop] else [])

/-- Tidy rows between the calls that get the browser and those that give it back. -/
structure Frame where
  before : List Event
  inner : List Event
  after : List Event
  parts : List (List Event)
  tidy : ∀ part ∈ parts, Tidy part
  mixed : Interleaves parts inner
  first : ∀ e ∈ before, e.question = .start ∨ ∃ h p, e.question = .launch h p
  last : after.map (·.question) =
    (if (before ++ inner ++ after).any Event.launches then [.closeBrowser] else []) ++
      (if (before ++ inner ++ after).any Event.starts then [.stop] else [])

def Frame.events (f : Frame) : List Event :=
  f.before ++ f.inner ++ f.after

open BrowserCall in
/-- Calls about the browser as a whole around tidy work do no harm to it. -/
theorem Frame.givesBack (f : Frame) (fresh : Fresh f.events) : GivesBack f.events := by
  obtain ⟨before, inner, after, parts, tidy, mixed, first, last⟩ := f
  change Fresh (before ++ inner ++ after) at fresh
  change GivesBack (before ++ inner ++ after)
  have early : ∀ e ∈ before, e.question.IsOfSession := by
    intro e mem
    rcases first e mem with is | ⟨_, _, is⟩ <;> rw [is] <;> trivial
  have late : ∀ e ∈ after, e.question.IsOfSession := by
    intro e mem
    have known : e.question ∈ after.map (·.question) := List.mem_map_of_mem mem
    rw [last] at known
    rcases List.mem_append.1 known with known | known
    all_goals
      split at known
      · rw [List.mem_singleton.1 known]
        trivial
      · cases known
  have opened : (before ++ inner ++ after).filterMap Event.opened? =
      inner.filterMap Event.opened? := by
    rw [List.filterMap_append, List.filterMap_append, IsOfSession.filterMap_opened? early,
      IsOfSession.filterMap_opened? late, List.nil_append, List.append_nil]
  have closed : (before ++ inner ++ after).filterMap Event.closed? =
      inner.filterMap Event.closed? := by
    rw [List.filterMap_append, List.filterMap_append, IsOfSession.filterMap_closed? early,
      IsOfSession.filterMap_closed? late, List.nil_append, List.append_nil]
  have within : inner ⊆ before ++ inner ++ after := fun e mem =>
    List.mem_append_left _ (List.mem_append_right _ mem)
  have distinct : (inner.filterMap Event.opened?).Nodup := opened ▸ fresh.contexts
  -- calls about the browser as a whole open and close no context, so all comes down to the work
  obtain ⟨perm, apart⟩ := mixed.releases tidy fresh within distinct
  refine ⟨?_, ?_, ?_, before ++ inner, after, rfl, ?_, last⟩
  · intro context mem
    rw [opened] at mem
    rw [closed, perm.count_eq]
    exact List.count_eq_one_of_mem distinct mem
  · intro context mem
    rw [closed] at mem
    rw [opened]
    exact perm.mem_iff.1 mem
  · refine List.pairwise_append.2 ⟨List.pairwise_append.2 ⟨?_, apart, ?_⟩, ?_, ?_⟩
    · exact List.pairwise_of_forall_mem_list fun e mem other _ =>
        (IsOfSession.spares early mem other).1
    · exact fun e mem other _ => (IsOfSession.spares early mem other).1
    · exact List.pairwise_of_forall_mem_list fun e mem other _ =>
        (IsOfSession.spares late mem other).1
    · exact fun other _ e mem => (IsOfSession.spares late mem other).2
  · intro e mem
    rcases List.mem_append.1 mem with mem | mem
    · rcases first e mem with is | ⟨_, _, is⟩ <;> rw [is] <;> exact ⟨nofun, nofun⟩
    · obtain ⟨part, inside, mem⟩ := mixed.mem_iff.1 mem
      have work := (tidy part inside).not_isOfSession mem
      exact ⟨fun is => work (by rw [is]; trivial), fun is => work (by rw [is]; trivial)⟩

/-- A run is tidy work in a frame. -/
theorem exists_frame_of_course_under {outcome : Except RunError RunResult}
    (limit : d.limit = o.browser.concurrentTabs.map (·.1))
    (course : (under d o).Course t outcome) (honest : ∀ e ∈ t, Event.IsOfBrowser e) :
    ∃ f : Frame, f.events = t := by
  have idle : ∀ part ∈ ([] : List (List Event)), Tidy part := nofun
  cases (course_under_iff fun e mem _ => honest e mem).1 course with
  | notStarted fault =>
    have started : ∀ e ∈ ([⟨.start, .error fault⟩] : List Event),
        e.question = .start ∨ ∃ h p, e.question = .launch h p := by simp
    exact ⟨⟨_, [], [], _, idle, .nil nofun, started, rfl⟩, rfl⟩
  | notLaunched fault stopped =>
    have started : ∀ e ∈ ([⟨.start, .ok ()⟩,
        ⟨.launch o.browser.headless o.browser.executablePath, .error fault⟩] : List Event),
        e.question = .start ∨ ∃ h p, e.question = .launch h p := by simp
    exact ⟨⟨_, [], [⟨.stop, stopped⟩], _, idle, .nil nofun, started, rfl⟩, rfl⟩
  | @served inner _ closed stopped work =>
    obtain ⟨-, behind⟩ := List.forall_mem_cons.1 honest
    obtain ⟨-, behind⟩ := List.forall_mem_cons.1 behind
    obtain ⟨parts, tidy, mixed⟩ :=
      exists_tidy_parts (places_of_limit limit) work (List.forall_mem_append.1 behind).1
    have started : ∀ e ∈ ([⟨.start, .ok ()⟩,
        ⟨.launch o.browser.headless o.browser.executablePath, .ok ()⟩] : List Event),
        e.question = .start ∨ ∃ h p, e.question = .launch h p := by simp
    exact ⟨⟨_, inner, [⟨.closeBrowser, closed⟩, ⟨.stop, stopped⟩], parts, tidy, mixed, started,
      rfl⟩, rfl⟩

/-- **A run gives back what it got**, however it ends, whatever the browser fails with, and in
whatever order the pages take turns. -/
theorem givesBack_of_course_under {outcome : Except RunError RunResult}
    (limit : d.limit = o.browser.concurrentTabs.map (·.1))
    (course : (under d o).Course t outcome) (honest : ∀ e ∈ t, Event.IsOfBrowser e)
    (fresh : Fresh t) : GivesBack t := by
  obtain ⟨f, rfl⟩ := exists_frame_of_course_under limit course honest
  exact f.givesBack fresh

/-- A run that gets no context at first, cannot reach its page then, and whose browser is gone
when it is to be closed. -/
def unreachable : List Event :=
  let o := RunOptions.ofUrls "https://one/" []
  [⟨.start, .ok ()⟩, ⟨.launch true none, .ok ()⟩,
    ⟨.newContext (.ofOptions o), .error (.timeout "late")⟩, ⟨.pause, .ok ()⟩,
    ⟨.newContext (.ofOptions o), .ok 7⟩, ⟨.newPage 7, .ok 3⟩,
    ⟨.openDevtools 3, .ok ()⟩, ⟨.disableCache 3, .ok ()⟩, ⟨.intercept 3 o.blockRequests, .ok ()⟩,
    ⟨.goto 3 "https://one/" 30000, .error (.error "unreachable")⟩,
    ⟨.closeContext 7, .error (.timeout "busy")⟩,
    ⟨.closeBrowser, .error (.error "gone")⟩, ⟨.stop, .ok ()⟩]

theorem givesBack_unreachable :
    (run (.ofUrls "https://one/" [])).Course unreachable
        (.error (.noStylesheets "https://one/"
          (.navigation "https://one/" (.error "unreachable")))) ∧
      unreachable.filterMap Event.opened? = [7] ∧ GivesBack unreachable := by
  have course : (run (.ofUrls "https://one/" [])).Course unreachable
      (.error (.noStylesheets "https://one/"
        (.navigation "https://one/" (.error "unreachable")))) := by
    unfold unreachable
    repeat refine .ask ?_
    exact .done _
  have honest : ∀ e ∈ unreachable, Event.IsOfBrowser e := by
    simp [unreachable, Event.IsOfBrowser, Event.fault?, BrowserCall.fault?, Fault.isOfBrowser]
  exact ⟨course, rfl, givesBack_of_course_under rfl course honest ⟨by decide, by decide⟩⟩

end Run

end CriticalCss
