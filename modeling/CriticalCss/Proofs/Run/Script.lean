import CriticalCss.Browser.Script
import CriticalCss.Proofs.Run.Release
import Mathlib.Data.List.Range

/-!
# Runs with a script

A scripted browser answers as a browser may: it makes new contexts and pages every time, and fails
only with what its script says. So a program that is played against it takes a course, of which
the record keeps the calls, and what is shown of courses holds of the playback
(`Playback.exists_course_play`). A scripted run closes each context that was opened, once, and gives
back the browser (`Run.play_gives_back`).
-/

namespace CriticalCss

open Dialogue

/-! ## Scripts without other faults -/

/-- What goes wrong with a page is what a browser reports. -/
structure PageScript.IsReported (page : PageScript) : Prop where
  goto : ∀ fault ∈ page.gotoError, fault.isOfBrowser = true
  settle : ∀ fault ∈ page.settleError, fault.isOfBrowser = true
  idle : ∀ fault ∈ page.idleError, fault.isOfBrowser = true
  evaluate : ∀ fault ∈ page.evaluateError, fault.isOfBrowser = true
  liveCss : ∀ fault ∈ page.liveCssError, fault.isOfBrowser = true
  screenshot : ∀ fault ∈ page.screenshotError, fault.isOfBrowser = true
  close : ∀ fault ∈ page.closeError, fault.isOfBrowser = true

theorem PageScript.isReported_plain : PageScript.plain.IsReported :=
  ⟨nofun, nofun, nofun, nofun, nofun, nofun, nofun⟩

/-- What goes wrong in a script is what a browser reports. -/
structure BrowserScript.IsReported (script : BrowserScript) : Prop where
  launch : ∀ fault ∈ script.launchError, fault.isOfBrowser = true
  contexts : ∀ fault, some fault ∈ script.contextErrors → fault.isOfBrowser = true
  pages : ∀ fault, some fault ∈ script.pageErrors → fault.isOfBrowser = true
  shown : ∀ page ∈ script.pages, page.2.IsReported

theorem BrowserScript.IsReported.pageScript {script : BrowserScript} (reported : script.IsReported)
    (key : String) : (script.pageScript key).IsReported := by
  unfold BrowserScript.pageScript
  cases found : script.pages.lookup key with
  | none => exact PageScript.isReported_plain
  | some page => exact reported.shown _ (mem_of_lookup found)

namespace Playback

variable {script : BrowserScript} {t : List Event} {s : Playback}

/-- What is still to go wrong is what a browser reports. -/
structure IsReported (s : Playback) : Prop where
  contexts : ∀ fault, some fault ∈ s.contextErrors → fault.isOfBrowser = true
  pages : ∀ fault, some fault ∈ s.pageErrors → fault.isOfBrowser = true
  shown : ∀ page ∈ s.pages, page.script.IsReported

namespace IsReported

theorem start (reported : script.IsReported) : script.start.IsReported :=
  ⟨reported.contexts, reported.pages, List.forall_mem_nil _⟩

theorem scriptOf (reported : s.IsReported) (page : Nat) : (s.scriptOf page).IsReported := by
  unfold Playback.scriptOf
  cases found : s.pages[page]? with
  | none => exact PageScript.isReported_plain
  | some shown => exact reported.shown shown (List.mem_of_getElem? found)

theorem scriptIn (reported : s.IsReported) (context : Nat) : (s.scriptIn context).IsReported := by
  unfold Playback.scriptIn
  cases found : s.pages.find? (·.context = context) with
  | none => exact PageScript.isReported_plain
  | some shown => exact reported.shown shown (List.mem_of_find?_eq_some found)

theorem load (reported : s.IsReported) {page : Nat} {shown : PageScript} (own : shown.IsReported) :
    (s.load page shown).IsReported where
  contexts := reported.contexts
  pages := reported.pages
  shown := by
    change ∀ other ∈ s.pages.modify page fun other => { other with script := shown },
      other.script.IsReported
    intro other mem
    obtain ⟨i, inside, rfl⟩ := List.getElem_of_mem mem
    rw [List.getElem_modify]
    split
    · exact own
    · exact reported.shown _ (List.getElem_mem _)

/-- Behind any call, what is still to go wrong is what a browser reports. -/
theorem react (reported : s.IsReported) (honest : script.IsReported) (c : BrowserCall) :
    (Playback.react script c s).2.IsReported := by
  have contexts : ∀ fault, some fault ∈ s.contextErrors.drop 1 → fault.isOfBrowser = true :=
    fun fault mem => reported.contexts fault (List.mem_of_mem_drop mem)
  have pages : ∀ fault, some fault ∈ s.pageErrors.drop 1 → fault.isOfBrowser = true :=
    fun fault mem => reported.pages fault (List.mem_of_mem_drop mem)
  cases c with
  | newContext =>
    rw [Playback.react, openContext]
    split <;> exact ⟨contexts, reported.pages, reported.shown⟩
  | newPage context =>
    rw [Playback.react, openPage]
    split
    · exact ⟨reported.contexts, pages, reported.shown⟩
    · refine ⟨reported.contexts, pages, List.forall_mem_append.2 ⟨reported.shown, ?_⟩⟩
      exact List.forall_mem_singleton.2 PageScript.isReported_plain
  | goto page url => exact reported.load (honest.pageScript url)
  | setContent page html => exact reported.load (honest.pageScript html)
  | closeContext => exact ⟨reported.contexts, reported.pages, reported.shown⟩
  | _ => exact reported

end IsReported

theorem isOfBrowser_of_answer {α : Type} {own : Option Fault} {value : α} {fault : Fault}
    (reported : ∀ fault ∈ own, fault.isOfBrowser = true)
    (failed : answer own value = .error fault) : fault.isOfBrowser = true := by
  cases own with
  | none => cases failed
  | some other =>
    cases failed
    exact reported _ rfl

theorem isOfBrowser_of_head? {faults : List (Option Fault)} {fault : Fault}
    (reported : ∀ fault, some fault ∈ faults → fault.isOfBrowser = true)
    (first : faults.head?.join = some fault) : fault.isOfBrowser = true :=
  reported fault (List.mem_of_head? (Option.join_eq_some_iff.1 first))

/-- If a call fails, the browser says so. -/
theorem isOfBrowser_react (reported : s.IsReported) (honest : script.IsReported)
    (c : BrowserCall) : Event.IsOfBrowser ⟨c, (react script c s).1⟩ := by
  intro fault mem
  obtain ⟨failure, failed, is⟩ :
      ∃ failure, (react script c s).1 = .error failure ∧ c.fault? failure = some fault := by
    cases answered : (react script c s).1 with
    | ok value =>
      rw [Event.fault?, answered] at mem
      cases mem
    | error failure =>
      rw [Event.fault?, answered] at mem
      exact ⟨failure, rfl, mem⟩
  cases c with
  | launch =>
    cases is
    exact isOfBrowser_of_answer honest.launch failed
  | newContext =>
    cases is
    rw [react, openContext] at failed
    split at failed
    · cases failed
      exact isOfBrowser_of_head? reported.contexts ‹_›
    · cases failed
  | newPage =>
    cases is
    rw [react, openPage] at failed
    split at failed
    · cases failed
      exact isOfBrowser_of_head? reported.pages ‹_›
    · cases failed
  | goto page url =>
    cases is
    exact isOfBrowser_of_answer (honest.pageScript url).goto failed
  | setContent page html =>
    cases is
    exact isOfBrowser_of_answer (honest.pageScript html).goto failed
  | stopLoading page =>
    cases is
    exact isOfBrowser_of_answer (reported.scriptOf page).settle failed
  | awaitIdle page =>
    cases is
    exact isOfBrowser_of_answer (reported.scriptOf page).idle failed
  | screenshot page =>
    cases is
    exact isOfBrowser_of_answer (reported.scriptOf page).screenshot failed
  | probe page =>
    cases is
    exact isOfBrowser_of_answer (reported.scriptOf page).evaluate failed
  | liveCss page =>
    cases is
    exact isOfBrowser_of_answer (reported.scriptOf page).liveCss failed
  | closeContext context =>
    cases is
    exact isOfBrowser_of_answer (reported.scriptIn context).close failed
  | fileText => cases is
  | _ => cases failed

/-! ## The record -/

/-- The state keeps record of the events. New contexts and pages are numbered as they come. -/
structure Follows (t : List Event) (s : Playback) : Prop where
  record : s.record = (t.map (·.question)).reverse
  contexts : t.filterMap Event.opened? = List.range s.opened
  pages : (t.filterMap Event.openedPage?).map (·.2) = List.range s.pages.length
  closed : (t.filterMap Event.closed?).length = s.closed

namespace Follows

theorem start (script : BrowserScript) : Follows [] script.start :=
  ⟨rfl, rfl, rfl, rfl⟩

theorem calls (follows : Follows t s) : s.calls = t.map (·.question) := by
  rw [Playback.calls, follows.record, List.reverse_reverse]

theorem fresh (follows : Follows t s) : Fresh t :=
  ⟨follows.contexts ▸ List.nodup_range, follows.pages ▸ List.nodup_range⟩

/-- An event that opens and closes nothing is put on record, and nothing else changes. -/
theorem idle (follows : Follows t s) {e : Event} {after : Playback}
    (nothing : e.opened? = none ∧ e.openedPage? = none ∧ e.closed? = none)
    (record : after.record = e.question :: s.record) (opened : after.opened = s.opened)
    (pages : after.pages.length = s.pages.length) (closed : after.closed = s.closed) :
    Follows (t ++ [e]) after where
  record := by simp [record, follows.record]
  contexts := by simp [nothing, opened, follows.contexts]
  pages := by simp [nothing, pages, follows.pages]
  closed := by simp [nothing, closed, follows.closed]

theorem respond (follows : Follows t s) (script : BrowserScript) (c : BrowserCall) :
    Follows (t ++ [⟨c, (Playback.respond script c s).1⟩]) (Playback.respond script c s).2 := by
  cases c with
  | newContext look =>
    simp only [Playback.respond, react, openContext]
    split
    · exact follows.idle ⟨rfl, rfl, rfl⟩ rfl rfl rfl rfl
    · exact ⟨by simp [follows.record], by simp [Event.opened?, follows.contexts, List.range_succ],
        by simp [Event.openedPage?, follows.pages], by simp [Event.closed?, follows.closed]⟩
  | newPage context =>
    simp only [Playback.respond, react, openPage]
    split
    · exact follows.idle ⟨rfl, rfl, rfl⟩ rfl rfl rfl rfl
    · exact ⟨by simp [follows.record], by simp [Event.opened?, follows.contexts],
        by simp [Event.openedPage?, follows.pages, List.range_succ],
        by simp [Event.closed?, follows.closed]⟩
  | closeContext context =>
    change Follows _ { s with record := .closeContext context :: s.record, closed := s.closed + 1 }
    exact ⟨by simp [follows.record], by simp [Event.opened?, follows.contexts],
      by simp [Event.openedPage?, follows.pages], by simp [Event.closed?, follows.closed]⟩
  | goto | setContent =>
    exact follows.idle ⟨rfl, rfl, rfl⟩ rfl rfl (List.length_modify ..) rfl
  | _ => exact follows.idle ⟨rfl, rfl, rfl⟩ rfl rfl rfl rfl

end Follows

/-- What drives the browser can be started, and the browser is launched if the script says so. -/
structure Answers (script : BrowserScript) (e : Event) : Prop where
  starts : e.question = .start → e.starts = true
  launches : ∀ headless path, e.question = .launch headless path →
    e.launches = script.launchError.isNone

theorem answers_react (script : BrowserScript) (c : BrowserCall) (s : Playback) :
    Answers script ⟨c, (react script c s).1⟩ := by
  cases c with
  | start => exact ⟨fun _ => rfl, nofun⟩
  | launch headless path =>
    refine ⟨nofun, fun _ _ _ => ?_⟩
    rw [react]
    cases script.launchError <;> rfl
  | _ => exact ⟨nofun, nofun⟩

/-- What holds of the events of a playback and the state behind them. -/
structure Accords (script : BrowserScript) (t : List Event) (s : Playback) : Prop where
  follows : Follows t s
  honest : ∀ e ∈ t, Event.IsOfBrowser e
  answers : ∀ e ∈ t, Answers script e
  reported : s.IsReported

theorem Accords.start (reported : script.IsReported) : Accords script [] script.start :=
  ⟨.start script, List.forall_mem_nil _, List.forall_mem_nil _, .start reported⟩

theorem Accords.respond (accords : Accords script t s) (reported : script.IsReported)
    (c : BrowserCall) :
    Accords script (t ++ [⟨c, (Playback.respond script c s).1⟩])
      (Playback.respond script c s).2 := by
  have recorded : IsReported { s with record := c :: s.record } :=
    ⟨accords.reported.contexts, accords.reported.pages, accords.reported.shown⟩
  refine ⟨accords.follows.respond script c, List.forall_mem_append.2 ⟨accords.honest, ?_⟩,
    List.forall_mem_append.2 ⟨accords.answers, ?_⟩, recorded.react reported c⟩
  · exact List.forall_mem_singleton.2 (isOfBrowser_react recorded reported c)
  · exact List.forall_mem_singleton.2 (answers_react script c _)

/-- **A scripted browser takes a program along one of its courses**, in which it makes new contexts
and pages every time and fails with what a browser reports, and it keeps record of the calls. -/
theorem exists_course_play (reported : script.IsReported) {α : Type} (x : Talk α) :
    ∃ t, x.Course t (x.play script script.start).1 ∧
      Accords script t (x.play script script.start).2 :=
  exists_course_run (Playback.respond script) (Accords script)
    (fun _ _ c accords => accords.respond reported c) x (.start reported)

end Playback

/-! ## Scripted runs -/

/-- Each call that closes a context is one event that does. -/
theorem count_closeContext (t : List Event) (context : Nat) :
    (t.map (·.question)).count (.closeContext context) =
      (t.filterMap Event.closed?).count context := by
  induction t with
  | nil => rfl
  | cons e t ih =>
    obtain ⟨c, answer⟩ := e
    cases c with
    | closeContext other =>
      have closes : Event.closed? ⟨.closeContext other, answer⟩ = some other := rfl
      rw [List.map_cons, List.filterMap_cons_some closes, List.count_cons, List.count_cons, ih]
      simp
    | _ => rw [List.map_cons, List.count_cons_of_ne (by simp), List.filterMap_cons_none rfl, ih]

namespace Run

/-- Of a run in which the script decides on the start, both ends are known. -/
theorem any_of_course {script : BrowserScript} {d : Pool.Discipline BrowserCall} {o : RunOptions}
    {t : List Event} {outcome : Except RunError RunResult} (course : (under d o).Course t outcome)
    (honest : ∀ e ∈ t, Event.IsOfBrowser e) (answers : ∀ e ∈ t, Playback.Answers script e) :
    t.any Event.starts = true ∧ t.any Event.launches = script.launchError.isNone := by
  cases (course_under_iff fun e mem _ => honest e mem).1 course with
  | notStarted fault => cases (answers _ List.mem_cons_self).starts rfl
  | notLaunched fault stopped =>
    exact ⟨rfl, (answers _ (List.mem_cons_of_mem _ List.mem_cons_self)).launches _ _ rfl⟩
  | served closed stopped work =>
    exact ⟨rfl, (answers _ (List.mem_cons_of_mem _ List.mem_cons_self)).launches _ _ rfl⟩

/-- **A scripted run gives back what it got.** Its record closes each context that was opened, once,
and no other, and it ends with the calls that give back the browser. -/
theorem play_gives_back {script : BrowserScript} (reported : script.IsReported) (o : RunOptions) :
    let after := ((run o).play script script.start).2
    after.closed = after.opened ∧
      (∀ context, after.calls.count (.closeContext context) =
        if context < after.opened then 1 else 0) ∧
      ∃ work, after.calls =
          work ++ (if script.launchError.isNone then [.closeBrowser] else []) ++ [.stop] ∧
        ∀ c ∈ work, c ≠ .closeBrowser ∧ c ≠ .stop := by
  intro after
  obtain ⟨t, course, follows, honest, answers, -⟩ := Playback.exists_course_play reported (run o)
  obtain ⟨f, rfl⟩ := exists_frame_of_course_under rfl course honest
  have back := f.givesBack follows.fresh
  have counts : ∀ context, (f.events.filterMap Event.closed?).count context =
      if context < after.opened then 1 else 0 := by
    intro context
    split
    · refine back.closed context ?_
      rw [follows.contexts]
      exact List.mem_range.2 ‹_›
    · refine List.count_eq_zero.2 fun mem => ?_
      have opened := back.opened context mem
      rw [follows.contexts] at opened
      exact ‹¬_› (List.mem_range.1 opened)
  refine ⟨?_, fun context => ?_, ?_⟩
  · have perm : (f.events.filterMap Event.closed?).Perm (List.range after.opened) := by
      refine List.perm_iff_count.2 fun context => ?_
      rw [counts, List.count_range]
    rw [← follows.closed, perm.length_eq, List.length_range]
  · rw [follows.calls, count_closeContext, counts]
  · obtain ⟨started, launched⟩ := any_of_course course honest answers
    obtain ⟨work, ends, whole, inside, last⟩ := back.ended
    refine ⟨work.map (·.question), ?_, List.forall_mem_map.2 inside⟩
    rw [follows.calls, whole, List.map_append, last, started, launched, List.append_assoc]
    rfl

end Run

end CriticalCss
