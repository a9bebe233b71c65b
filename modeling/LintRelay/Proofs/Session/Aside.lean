import LintRelay.Proofs.Session.Alike
import LintRelay.Proofs.Session.Publication
import LintRelay.Proofs.Session.Table
import Mathlib.Data.Nat.Count

/-!
# What passes tasks by

A session is seen here by some of its tasks, those that lint one document; call them the *own*
tasks.  They are numbered by the own tasks that came before them (`place`).

What other tasks do *passes by* the own tasks (`Session.Aside`): these stand where they stood and
wait for the same calls, their document has the same place in the table, the desk is alike for it,
and no call is made in their name.  So it is when another task is added, is woken, is asked to
cancel, or has its end taken note of, and when the lint of another document is scheduled.
-/

namespace LintRelay

/-! ## Numbers of tasks -/

/-- The number of a task if only own tasks are counted. -/
def place (own : TaskId → Bool) (t : TaskId) : TaskId :=
  Nat.count (fun u => own u = true) t

variable {own : TaskId → Bool} {t u : TaskId}

/-- The own task that comes last is counted. -/
lemma place_succ_of_own (h : own t = true) : place own (t + 1) = place own t + 1 := by
  unfold place
  rw [Nat.count_succ, if_pos h]

/-- Any other task is not. -/
lemma place_succ_of_not_own (h : own t = false) : place own (t + 1) = place own t := by
  unfold place
  rw [Nat.count_succ, if_neg (Bool.eq_false_iff.1 h), Nat.add_zero]

/-- Own tasks have different numbers. -/
lemma place_inj (ht : own t = true) (hu : own u = true) : place own t = place own u ↔ t = u :=
  ⟨Nat.count_injective ht hu, congrArg (place own)⟩

namespace Session

/-! ## Sessions after what passes by -/

/-- Whether a task waits for a call that is held. -/
def waits (s : Session) (t : TaskId) : Bool :=
  s.waiting.any (·.task == t)

/-- A session in which nothing has happened that own tasks could notice. -/
structure Aside (own : TaskId → Bool) (uri : String) (s s' : Session) : Prop where
  desk : s.desk.Alike uri s'.desk
  size : place own s'.tasks.length = place own s.tasks.length
  task : ∀ t, own t = true → s'.tasks[t]? = s.tasks[t]?
  table : s'.table.lookup uri = s.table.lookup uri
  waits : ∀ t, own t = true → s'.waits t = s.waits t
  calls : s'.calls.filter (own ·.task) = s.calls.filter (own ·.task)
  runner : s'.runner = s.runner

variable {uri other : String} {s s' : Session} {document : Document} {g : Int} {w : Wake}

/-- Nothing passes own tasks by without being noticed. -/
lemma Aside.refl (own : TaskId → Bool) (uri : String) (s : Session) : Aside own uri s s where
  desk := .refl uri s.desk
  size := rfl
  task _ _ := rfl
  table := rfl
  waits _ _ := rfl
  calls := rfl
  runner := rfl

/-- What passes own tasks by can be joined. -/
lemma Aside.trans {s'' : Session} (h : Aside own uri s s') (h' : Aside own uri s' s'') :
    Aside own uri s s'' where
  desk := h.desk.trans h'.desk
  size := h'.size.trans h.size
  task t ht := (h'.task t ht).trans (h.task t ht)
  table := h'.table.trans h.table
  waits t ht := (h'.waits t ht).trans (h.waits t ht)
  calls := h'.calls.trans h.calls
  runner := h'.runner.trans h.runner

/-! ### Calls that are waited for -/

/-- A task that gives up its calls waits for none. -/
lemma any_filter_task_self (ws : List Waiting) (t : TaskId) :
    (ws.filter (·.task != t)).any (·.task == t) = false := by
  simp [List.any_filter]

/-- The others wait as they did. -/
lemma any_filter_task_of_ne (h : u ≠ t) (ws : List Waiting) :
    (ws.filter (·.task != t)).any (·.task == u) = ws.any (·.task == u) := by
  rw [List.any_filter]
  congr 1
  funext w
  by_cases hw : w.task = u
  · simp [hw, h]
  · simp [hw]

/-! ## What other tasks do -/

/-- The desk may be changed if it stays alike. -/
lemma aside_withDesk {d : Desk} (h : s.desk.Alike uri d) : Aside own uri s { s with desk := d } :=
  { Aside.refl own uri s with desk := h }

/-- Another task may be changed. -/
lemma aside_onTask (h : own t = false) (uri : String) (s : Session) (f : Task → Task) :
    Aside own uri s (s.onTask t f) :=
  { Aside.refl own uri s with
    size := by simp only [onTask, List.length_modify]
    task := fun u hu => by
      have hne : t ≠ u := by
        rintro rfl
        rw [h] at hu
        cases hu
      simp [onTask, hne] }

/-- Another task is added. -/
lemma aside_add (h : own s.tasks.length = false) (uri : String) (job : Job)
    (scheduledFor : Option String) : Aside own uri s (s.add job scheduledFor).1 :=
  { Aside.refl own uri s with
    size := by simpa [add] using place_succ_of_not_own h
    task := fun u hu => by
      rcases Nat.lt_trichotomy u s.tasks.length with hlt | rfl | hlt
      · exact getElem?_add_of_lt hlt
      · rw [h] at hu
        cases hu
      · rw [getElem?_add_of_gt hlt, List.getElem?_eq_none (Nat.le_of_lt hlt)] }

/-- Another task is asked to cancel. -/
lemma aside_cancel (h : own t = false) (uri : String) (s : Session) :
    Aside own uri s (s.cancel t) := by
  unfold cancel
  split
  · exact .refl own uri s
  · split
    · refine { Aside.refl own uri s with waits := fun u hu => any_filter_task_of_ne ?_ s.waiting }
      rintro rfl
      rw [h] at hu
      cases hu
    · exact aside_onTask h uri s _

/-- The former task of another document is superseded. -/
lemma aside_supersede (h : ∀ t, s.table.lookup other = some t → own t = false) (uri : String) :
    Aside own uri s (s.supersede other) := by
  unfold supersede
  split
  · exact .refl own uri s
  · next t hlookup =>
    split
    · exact .refl own uri s
    · exact (aside_cancel (h t hlookup) uri s).trans
        (aside_withDesk ((Desk.still_tell _ _).alike uri))

/-- The lint of a document in another language is scheduled. -/
lemma aside_schedule_foreign (h : own s.tasks.length = false) (uri : String)
    (hlanguage : document.languageId ≠ s.desk.settings.languageId) :
    Aside own uri s (s.schedule document).1 := by
  unfold schedule
  rw [if_pos (by simpa using hlanguage)]
  exact aside_add h uri _ _

/-- The lint of another document is scheduled. -/
lemma aside_schedule (h : own s.tasks.length = false) (hne : uri ≠ document.uri)
    (hentry : ∀ t, s.table.lookup document.uri = some t → own t = false) :
    Aside own uri s (s.schedule document).1 := by
  unfold schedule
  split
  · exact aside_add h uri _ _
  · have hadvanced : Aside own uri s ((s.supersede document.uri).onDesk (·.advance document.uri)) :=
      (aside_supersede hentry uri).trans (aside_withDesk (Desk.alike_advance_of_ne hne _))
    have hlength : own ((s.supersede document.uri).onDesk
        (·.advance document.uri)).tasks.length = false := (length_supersede s document.uri).symm ▸ h
    have hadded := hadvanced.trans (aside_add hlength uri
      (.lint document (some (((s.supersede document.uri).onDesk
        (·.advance document.uri)).desk.generation document.uri))) (some document.uri))
    exact { hadded with table := (Keyed.lookup_put_of_ne hne _ _).trans hadded.table }

/-- The end of another task is taken note of. -/
lemma aside_settle (hne : ∀ task other, s.tasks[t]? = some task → task.scheduledFor = some other →
    uri ≠ other) (own : TaskId → Bool) : Aside own uri s (s.settle t) := by
  unfold settle
  split
  · next other r cancelling htask =>
    have hremoved : Aside own uri s (if s.table.lookup other == some t then
        { s with table := Keyed.remove other s.table } else s) := by
      split
      · exact { Aside.refl own uri s with
          table := Keyed.lookup_remove_of_ne (hne _ other htask rfl) s.table }
      · exact .refl own uri s
    dsimp only
    split
    · exact hremoved.trans (aside_withDesk ((Desk.still_tell _ _).alike uri))
    · exact hremoved
  · exact .refl own uri s

/-! ### Other tasks that are woken -/

/-- A session in which no own task has made a call or waits for a new one. -/
structure Quiet (own : TaskId → Bool) (s s' : Session) : Prop where
  waits : ∀ t, own t = true → s'.waits t = s.waits t
  calls : s'.calls.filter (own ·.task) = s.calls.filter (own ·.task)

/-- It is quiet where no call is made and none is waited for. -/
lemma quiet_of_calls (hwaiting : s'.waiting = s.waiting) (hcalls : s'.calls = s.calls) :
    Quiet own s s' :=
  ⟨fun _ _ => by rw [waits, hwaiting, waits], by rw [hcalls]⟩

/-- Quiet can be joined. -/
lemma Quiet.trans {s'' : Session} (h : Quiet own s s') (h' : Quiet own s' s'') : Quiet own s s'' :=
  ⟨fun t ht => (h'.waits t ht).trans (h.waits t ht), h'.calls.trans h.calls⟩

/-- Another task makes a call. -/
lemma quiet_noting (h : own t = false) (s : Session) (r : Request) :
    Quiet own s (s.noting t r) where
  waits _ _ := rfl
  calls := by simp [noting, h]

/-- Another task waits for a call. -/
lemma quiet_holding (h : own t = false) (s : Session) (r : Request) (stage : Stage) (a : Answer) :
    Quiet own s (s.holding t r stage a) where
  waits u hu := by
    have hne : t ≠ u := by
      rintro rfl
      rw [h] at hu
      cases hu
    simp [holding, onTask, Session.waits, hne]
  calls := (quiet_noting h s r).calls

/-- Another task goes on behind its eligibility step. -/
lemma quiet_goOn (h : own t = false) (s : Session) (o : Onward) : Quiet own s (s.goOn t o) := by
  cases o with
  | ended r => exact quiet_of_calls rfl rfl
  | check document g =>
    rw [goOn_check]
    split
    · exact quiet_holding h s _ _ _
    · exact (quiet_noting h s _).trans (quiet_of_calls rfl rfl)

/-- Another task goes on behind the linter's answer about the files of the project. -/
lemma quiet_closeListing (h : own t = false) (s : Session) (p : Purpose) (a : Answer) :
    Quiet own s (s.closeListing t p a) := by
  have hdesk : Quiet own s (s.onDesk fun d => (d.listed p a).1) := quiet_of_calls rfl rfl
  rw [closeListing_eq]
  exact hdesk.trans (quiet_goOn h _ _)

/-- Another task goes on behind its first move. -/
lemma quiet_follow (h : own t = false) (s : Session) (o : Opening) :
    Quiet own s (s.follow t o) := by
  cases o with
  | onward o => exact quiet_goOn h s o
  | list p =>
    rw [follow_list]
    split
    · exact quiet_holding h s _ _ _
    · exact (quiet_noting h s _).trans (quiet_closeListing h _ p _)

/-- The same with moves at the desk before it. -/
lemma quiet_follow_withDesk (h : own t = false) (s : Session) (d : Desk) (o : Opening) :
    Quiet own s ({ s with desk := d }.follow t o) := by
  have hdesk : Quiet own s { s with desk := d } := quiet_of_calls rfl rfl
  exact hdesk.trans (quiet_follow h _ o)

/-- Another task begins. -/
lemma quiet_begin (h : own t = false) (s : Session) (job : Job) : Quiet own s (s.begin t job) := by
  cases job with
  | lint document given => exact quiet_follow_withDesk h s _ _
  | manifest => exact quiet_follow_withDesk h s _ _
  | eligible path => exact quiet_follow_withDesk h s _ _
  | drain =>
    unfold begin
    dsimp only
    split <;> exact quiet_of_calls rfl rfl

/-- Another task is woken. -/
lemma quiet_wake (h : own t = false) (s : Session) (w : Wake) : Quiet own s (s.wake t w).1 := by
  have hwaking := waking s t w
  generalize (s.wake t w).1 = s' at hwaking ⊢
  cases hwaking with
  | idle => exact quiet_of_calls rfl rfl
  | cancelled => exact quiet_of_calls rfl rfl
  | begun => exact quiet_begin h s _
  | listed => exact quiet_closeListing h s _ _
  | checked => exact quiet_of_calls rfl rfl

/-- The work of another task passes by if the desk stays alike. -/
lemma Works.aside (h : Works t s s') (hown : own t = false) (hquiet : Quiet own s s')
    (hdesk : s.desk.Alike uri s'.desk) : Aside own uri s s' where
  desk := hdesk
  size := by rw [h.size]
  task u hu := h.others u (by
    rintro rfl
    rw [hown] at hu
    cases hu)
  table := by rw [h.table]
  waits := hquiet.waits
  calls := hquiet.calls
  runner := h.runner

/-- A turn at the lint of another document leaves the desk alike. -/
lemma Turn.alike {d : Desk} (h : Turn d t document g s') (hne : document.uri ≠ uri)
    (hsettings : s'.desk.settings = d.settings) (hdisk : s'.desk.disk = d.disk)
    (hgate : s'.desk.gate = d.gate) : d.Alike uri s'.desk :=
  Desk.alike_of_enter hsettings hdisk hgate h.generations h.collection fun p hp => by
    obtain ⟨-, -, hfits⟩ := h.published hp
    rw [hfits.uri]
    exact hne

/-- Waking a task leaves the desk alike for all documents but the one that it lints. -/
lemma alike_wake (hlanguage : ∀ document g, s.lint? t = some (document, g) →
      document.languageId = s.desk.settings.languageId)
    (hne : ∀ document g, s.engaged? t w = some (document, g) → document.uri ≠ uri) :
    s.desk.Alike uri (s.wake t w).1.desk := by
  have hworks := works_wake s t w
  have hwoken := woken s t w hlanguage
  generalize (s.wake t w).1 = s' at hworks hwoken ⊢
  cases hwoken with
  | idle _ h => rw [h]; exact .refl uri s.desk
  | turns document g _ hlint hturn =>
    have hother : document.uri ≠ uri := hne document g (by simp [engaged?, hlint])
    exact hturn.alike hother hworks.settings hworks.disk hworks.gate
  | begins document hbegins _ hlint _ hturn =>
    have hother : document.uri ≠ uri := 
      hne document (s.desk.generation document.uri + 1) (by simp [engaged?, hlint, hbegins])
    exact (Desk.alike_advance_of_ne (Ne.symm hother) s.desk).trans
      (hturn.alike hother hworks.settings hworks.disk hworks.gate)
  | pauses _ _ _ hpause =>
    exact Desk.alike_of_enter (o := none) hworks.settings hworks.disk hworks.gate
      hpause.generations hpause.collection (by rintro _ ⟨⟩)

/-- A task that waits for others looks round. -/
lemma aside_look (h : s.Drains t → own t = false) (uri : String) :
    Aside own uri s (s.look t) := by
  unfold look
  split
  · next htask =>
    have hown : own t = false := h ⟨_, _, htask, rfl⟩
    have hdesk : (s.begin t .drain).desk = s.desk := by
      unfold begin
      dsimp only
      split <;> rfl
    split
    · refine (works_begin t s .drain).aside hown (quiet_begin hown s .drain) ?_
      rw [hdesk]
      exact .refl uri s.desk
    · exact .refl own uri s
  · exact .refl own uri s

end Session

end LintRelay
