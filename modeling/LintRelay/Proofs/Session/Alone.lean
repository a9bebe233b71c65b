import LintRelay.Proofs.Session.Mirror
import LintRelay.Proofs.Session.Passage
import LintRelay.Proofs.Session.Proper

/-!
# Documents do not interfere

Many documents are linted in one session.  Their lints share the table of scheduled lints, the
generations, the collection and the linter; and yet the lints of one document come out as if there
were no other document.

A *deed* is a move of a session, or a request for a lint in a generation that is given with it.
`Deed.ownPart?` takes from a deed what concerns the own tasks: the triggers of a document in the
language of the session, whatever happens to the tasks behind them, and nothing else.  The own parts
of the deeds of a run are a run of their own, and that run mirrors the own tasks of the whole run
after every deed (`Mirrors.undergone`).

Manifests must not be kept.  If they are, the list of files that one lint has asked for decides
about the documents of others.
-/

namespace LintRelay

/-! ## Deeds -/

/-- What can be done to a session. -/
inductive Deed where
  | move (m : Move)
  /-- A document is to be linted in a generation that is given. -/
  | lintIn (document : Document) (g : Int)

/-- Whether a document has a uri and is in a language. -/
def Document.isOf (uri languageId : String) (document : Document) : Bool :=
  document.uri == uri && document.languageId == languageId

/-- Whether a job is to lint a document with a uri, in a language. -/
def Job.isOf (uri languageId : String) : Job → Bool
  | .lint document _ => document.isOf uri languageId
  | _ => false

/-- The call that an own task waits for, under the number that the task has among own tasks. -/
def Waiting.ownPart? (own : TaskId → Bool) (w : Waiting) : Option Waiting :=
  if own w.task then some { w with task := place own w.task } else none

/-- The errand of an own task. -/
def Errand.ownPart? (own : TaskId → Bool) : Errand → Option Errand
  | .wake t w => if own t then some (.wake (place own t) w) else none
  | .settle t => if own t then some (.settle (place own t)) else none

/-- What concerns own tasks of a motion. -/
def Motion.ownPart? (own : TaskId → Bool) : Motion → Option Motion
  | .cancel t => if own t then some (.cancel (place own t)) else none
  | .swallow t => if own t then some (.swallow (place own t)) else none
  | .wake t w => if own t then some (.wake (place own t) w) else none
  | .settle t => if own t then some (.settle (place own t)) else none
  | .arrange waiting agenda =>
    some (.arrange (waiting.filterMap (·.ownPart? own)) (agenda.filterMap (·.ownPart? own)))
  | .manifest | .eligible _ | .drain | .invalidate | .look _ => none

/-- What concerns the own tasks of a deed, where these are the lints of documents with a uri in a
language. -/
def Deed.ownPart? (own : TaskId → Bool) (uri languageId : String) : Deed → Option Deed
  | .move (.lint document) =>
    if document.isOf uri languageId then some (.move (.lint document)) else none
  | .move (.schedule document) =>
    if document.isOf uri languageId then some (.move (.schedule document)) else none
  | .move (.motion m) => (m.ownPart? own).map (.move <| .motion ·)
  | .lintIn document g => if document.isOf uri languageId then some (.lintIn document g) else none

variable {own : TaskId → Bool} {calls : List Call} {uri other : String} {s s' p : Session}
  {t u : TaskId} {task : Task} {document : Document} {given : Option Int} {deed : Deed}

/-- Whether a document is the one in question. -/
lemma Document.isOf_iff {languageId : String} :
    document.isOf uri languageId = true ↔
      document.uri = uri ∧ document.languageId = languageId := by
  simp [isOf]

namespace Session

/-- The session after a deed. -/
def undergo (s : Session) : Deed → Session
  | .move m => s.make m
  | .lintIn document g => (s.add (.lint document (some g))).1

/-- The session after a run. -/
def undergone (s : Session) (deeds : List Deed) : Session :=
  deeds.foldl undergo s

/-- Whether a task lints a document with a uri, in the language of the session. -/
def owns (s : Session) (uri : String) (t : TaskId) : Bool :=
  s.tasks[t]?.any (·.job.isOf uri s.desk.settings.languageId)

/-! ## What stays along a run -/

/-- The settings stay in every deed. -/
lemma settings_undergo (s : Session) (deed : Deed) :
    (s.undergo deed).desk.settings = s.desk.settings := by
  cases deed with
  | move m => exact settings_make s m
  | lintIn document g => rfl

/-- A task and its job stay in every deed. -/
lemma exists_task_undergo (h : s.tasks[t]? = some task) (deed : Deed) :
    ∃ task', (s.undergo deed).tasks[t]? = some task' ∧ task'.job = task.job := by
  cases deed with
  | move m => exact exists_task_make h m
  | lintIn document g =>
    exact ⟨task, (getElem?_add_of_lt (List.getElem?_eq_some_iff.1 h).1).trans h, rfl⟩

/-- Asking a task to cancel makes no call. -/
lemma calls_cancel (s : Session) (t : TaskId) : (s.cancel t).calls = s.calls := by
  unfold cancel
  split
  · rfl
  · split <;> rfl

/-- Scheduling a lint makes no call. -/
lemma calls_schedule (s : Session) (document : Document) :
    (s.schedule document).1.calls = s.calls := by
  have hsuperseded : (s.supersede document.uri).calls = s.calls := by
    unfold supersede
    split
    · rfl
    · split
      · rfl
      · exact calls_cancel s _
  unfold schedule
  split
  · rfl
  · exact hsuperseded

/-- Taking note of the end of a task makes no call. -/
lemma calls_settle (s : Session) (t : TaskId) : (s.settle t).calls = s.calls := by
  unfold settle
  split
  · dsimp only
    split
    · split <;> rfl
    · split <;> rfl
  · rfl

/-- Calls are only added in a move. -/
lemma calls_make (s : Session) (m : Move) : s.calls <+: (s.make m).calls := by
  have hsame : ∀ s' : Session, s'.calls = s.calls → s.calls <+: s'.calls :=
    fun s' h => h ▸ List.prefix_rfl
  cases m with
  | lint document => exact hsame _ rfl
  | schedule document => exact hsame _ (calls_schedule s document)
  | motion m =>
    cases m with
    | cancel t => exact hsame _ (calls_cancel s t)
    | wake t w => exact (works_wake s t w).calls
    | settle t => exact hsame _ (calls_settle s t)
    | look t =>
      change s.calls <+: (s.look t).calls
      unfold look
      split
      · split
        · exact (works_begin t s .drain).calls
        · exact List.prefix_rfl
      · exact List.prefix_rfl
    | _ => exact hsame _ rfl

/-- Calls are only added in a deed. -/
lemma calls_undergo (s : Session) (deed : Deed) : s.calls <+: (s.undergo deed).calls := by
  cases deed with
  | move m => exact calls_make s m
  | lintIn document g => exact List.prefix_rfl

/-- Calls are only added along a run. -/
lemma calls_undergone (s : Session) (deeds : List Deed) :
    s.calls <+: (s.undergone deeds).calls := by
  induction deeds generalizing s with
  | nil => exact List.prefix_rfl
  | cons deed deeds ih => exact (calls_undergo s deed).trans (ih (s.undergo deed))

/-- The own tasks are those of a session that lint a document, as far as it has tasks. -/
def Sorted (own : TaskId → Bool) (uri : String) (s : Session) : Prop :=
  ∀ t task, s.tasks[t]? = some task → own t = task.job.isOf uri s.desk.settings.languageId

/-- The own tasks of a later session are those of an earlier one. -/
lemma Sorted.of_undergo (h : Sorted own uri (s.undergo deed)) : Sorted own uri s := by
  intro t task htask
  obtain ⟨task', htask', hjob⟩ := exists_task_undergo htask deed
  rw [h t task' htask', settings_undergo, hjob]

/-- The own tasks of the last session of a run are those of its first. -/
lemma Sorted.of_undergone {deeds : List Deed} (h : Sorted own uri (s.undergone deeds)) :
    Sorted own uri s := by
  induction deeds generalizing s with
  | nil => exact h
  | cons deed deeds ih => exact (ih h).of_undergo

/-- The tasks that a session owns are sorted. -/
lemma sorted_owns (s : Session) (uri : String) : Sorted (s.owns uri) uri s := by
  intro t task htask
  simp [owns, htask]

/-- A session stays proper in every deed. -/
lemma Proper.undergo (h : s.Proper) (deed : Deed) : (s.undergo deed).Proper := by
  cases deed with
  | move m => exact h.make m
  | lintIn document g => exact h.add nofun

/-! ## One deed -/

/-- The task that has the document's place in the table is an own task. -/
lemma Sorted.own_of_entry (h : Sorted own uri s) (hproper : s.Proper)
    (hplace : s.table.lookup uri = some t) : own t = true := by
  obtain ⟨task, htask, hscheduled⟩ := hproper.table uri t hplace
  obtain ⟨document, given, hjob, huri, hlanguage⟩ :=
    (hproper.tasks t task htask).scheduled uri hscheduled
  rw [h t task htask, hjob]
  exact Document.isOf_iff.2 ⟨huri, hlanguage⟩

/-- An own task is scheduled for the document, if for any. -/
lemma Sorted.scheduledFor_of_own (h : Sorted own uri s) (hproper : s.Proper) (hown : own t = true)
    (htask : s.tasks[t]? = some task) (hscheduled : task.scheduledFor = some other) :
    other = uri := by
  obtain ⟨document, given, hjob, huri, -⟩ := (hproper.tasks t task htask).scheduled other hscheduled
  rw [h t task htask, hjob] at hown
  exact huri.symm.trans (Document.isOf_iff.1 hown).1

/-- A task that is scheduled for the document is an own task. -/
lemma Sorted.ne_of_not_own (h : Sorted own uri s) (hproper : s.Proper) (hown : own t = false)
    (htask : s.tasks[t]? = some task) (hscheduled : task.scheduledFor = some other) :
    uri ≠ other := by
  rintro rfl
  obtain ⟨document, given, hjob, huri, hlanguage⟩ :=
    (hproper.tasks t task htask).scheduled uri hscheduled
  have hisOf : own t = true := by
    rw [h t task htask, hjob]
    exact Document.isOf_iff.2 ⟨huri, hlanguage⟩
  rw [hown] at hisOf
  cases hisOf

/-- An own task lints the document. -/
lemma Sorted.lints_of_own (h : Sorted own uri s) (hproper : s.Proper) (hown : own t = true)
    (htask : s.tasks[t]? = some task) :
    ∃ document, s.Lints t document ∧ document.uri = uri ∧
      document.languageId = s.desk.settings.languageId := by
  rw [h t task htask] at hown
  cases hjob : task.job with
  | lint document given =>
    rw [hjob] at hown
    have hlints := (hproper.tasks t task htask).lints document given hjob
    exact ⟨document, ⟨task, htask, ⟨given, hjob⟩, hlints⟩, Document.isOf_iff.1 hown⟩
  | _ =>
    rw [hjob] at hown
    cases hown

/-- The task that is added next is an own task if its job is to lint the document. -/
lemma Sorted.own_length {job : Job} {scheduledFor : Option String}
    (h : Sorted own uri s') (hadded : s'.tasks[s.tasks.length]? = some { job, scheduledFor })
    (hsettings : s'.desk.settings = s.desk.settings) :
    own s.tasks.length = job.isOf uri s.desk.settings.languageId := by
  rw [h _ _ hadded, hsettings]

/-- The task of a lint that is scheduled is the next, and its job is that lint. -/
lemma exists_task_schedule (s : Session) (document : Document) : ∃ given scheduledFor,
    (s.schedule document).1.tasks[s.tasks.length]? =
      some { job := .lint document given, scheduledFor } := by
  unfold schedule
  split
  · exact ⟨none, none, getElem?_add_self s _ _⟩
  · have hlength : ((s.supersede document.uri).onDesk (·.advance document.uri)).tasks.length =
        s.tasks.length := length_supersede s document.uri
    rw [← hlength]
    exact ⟨_, _, getElem?_add_self _ _ _⟩

/-- Waking another task passes the own tasks by. -/
lemma Sorted.aside_wake (h : Sorted own uri s) (hproper : s.Proper) (hown : own t = false)
    (w : Wake) : Aside own uri s (s.wake t w).1 := by
  refine (works_wake s t w).aside hown (quiet_wake hown s w) ?_
  cases htask : s.tasks[t]? with
  | none =>
    unfold wake
    rw [htask]
    exact .refl uri s.desk
  | some task =>
    have htaskProper := hproper.tasks t task htask
    by_cases hjob : ∃ document given, task.job = .lint document given
    · obtain ⟨document, given, hjob⟩ := hjob
      have hlints : s.Lints t document :=
        ⟨task, htask, ⟨given, hjob⟩, htaskProper.lints document given hjob⟩
      by_cases hlanguage : document.languageId = s.desk.settings.languageId
      · have hne : document.uri ≠ uri := by
          intro huri
          rw [h t task htask, hjob] at hown
          exact Bool.eq_false_iff.1 hown (Document.isOf_iff.2 ⟨huri, hlanguage⟩)
        refine alike_wake (fun document' g hlint => ?_) fun document' g hengaged => ?_
        · have hengaged : s.engaged? t w = some (document', g) := by simp [engaged?, hlint]
          rw [hlints.document_of_engaged hengaged]
          exact hlanguage
        · rw [hlints.document_of_engaged hengaged]
          exact hne
      · have hforeign := htaskProper.foreign document given hjob hlanguage
        rcases wake_of_foreign htask hjob hlanguage hforeign w with heq | ⟨r, heq⟩
        · rw [heq]
          exact .refl uri s.desk
        · rw [heq]
          exact .refl uri s.desk
    · have hjob : ∀ document given, task.job ≠ .lint document given :=
        fun document given heq => hjob ⟨document, given, heq⟩
      have hidle := htaskProper.idle hjob
      refine alike_wake (fun document g hlint => ?_) fun document g hengaged => ?_
      · rw [lint?_eq htask, hidle] at hlint
        cases hlint
      · rw [engaged?_eq_none_of_idle htask hjob hidle] at hengaged
        cases hengaged

/-- An own task that is woken is woken in the mirror as well, whether it has been added already or
not. -/
lemma Mirrors.wake_own (h : Mirrors own calls uri s p) (hproper : s.Proper)
    (hsorted : Sorted own uri s) (hcache : s.desk.settings.cacheManifest = false)
    (hown : own t = true) {w : Wake} (hcalls : (s.wake t w).1.calls <+: calls) :
    Mirrors own calls uri (s.wake t w).1 (p.wake (place own t) w).1 := by
  cases htask : s.tasks[t]? with
  | none =>
    have hmirrored : p.tasks[place own t]? = none := (h.task t hown).trans htask
    unfold Session.wake
    rw [htask, hmirrored]
    exact h
  | some task =>
    obtain ⟨document, hlints, huri, hlanguage⟩ := hsorted.lints_of_own hproper hown htask
    exact h.wake hown hlints huri hlanguage hcache hcalls

/-- An own task waits for the same calls if only those of own tasks are listed. -/
lemma any_ownPart? (hown : own t = true) (waiting : List Waiting) :
    (waiting.filterMap (·.ownPart? own)).any (·.task == place own t) =
      waiting.any (·.task == t) := by
  induction waiting with
  | nil => rfl
  | cons w ws ih =>
    rw [List.filterMap_cons, List.any_cons, ← ih]
    unfold Waiting.ownPart?
    cases hw : own w.task with
    | true =>
      have hsame : (place own w.task == place own t) = (w.task == t) := by
        rw [Bool.eq_iff_iff, beq_iff_eq, beq_iff_eq]
        exact place_inj hw hown
      simp [hsame]
    | false =>
      have hne : (w.task == t) = false := by
        rw [beq_eq_false_iff_ne]
        rintro rfl
        rw [hown] at hw
        cases hw
      simp [hne]

/-- A task that is added for anything but a lint is passed by in the mirror. -/
lemma Mirrors.add_foreign (h : Mirrors own calls uri s p) (job : Job)
    (hjob : ∀ document given, job ≠ .lint document given)
    (hsorted : Sorted own uri (s.add job).1) : Mirrors own calls uri (s.add job).1 p := by
  have hown : own s.tasks.length = false := by
    rw [hsorted.own_length (getElem?_add_self s job none) rfl]
    cases job with
    | lint document given => exact absurd rfl (hjob document given)
    | _ => rfl
  exact h.aside (aside_add hown uri _ _)

/-- The part that own tasks have in a motion is made in the mirror. -/
lemma Mirrors.stir (h : Mirrors own calls uri s p) (hproper : s.Proper)
    (hcache : s.desk.settings.cacheManifest = false) {m : Motion}
    (hsorted : Sorted own uri (s.stir m)) (hcalls : (s.stir m).calls <+: calls) :
    Mirrors own calls uri (s.stir m) ((m.ownPart? own).elim p p.stir) := by
  have hmoved : Sorted own uri (s.undergo (.move (.motion m))) := hsorted
  have hsorted₀ : Sorted own uri s := hmoved.of_undergo
  cases m with
  | manifest => exact h.add_foreign .manifest (by rintro _ _ ⟨⟩) hsorted
  | eligible path => exact h.add_foreign (.eligible path) (by rintro _ _ ⟨⟩) hsorted
  | drain => exact h.add_foreign .drain (by rintro _ _ ⟨⟩) hsorted
  | invalidate =>
    have hstill : s.desk.Still s.desk.invalidate := ⟨rfl, rfl, rfl, rfl, rfl⟩
    exact h.aside (aside_withDesk (hstill.alike uri))
  | cancel t =>
    cases hown : own t with
    | true =>
      simp only [Motion.ownPart?, hown]
      exact h.cancel hown
    | false =>
      simp only [Motion.ownPart?, hown]
      exact h.aside (aside_cancel hown uri s)
  | swallow t =>
    cases hown : own t with
    | true =>
      simp only [Motion.ownPart?, hown]
      exact h.swallow hown
    | false =>
      simp only [Motion.ownPart?, hown]
      exact h.aside (aside_onTask hown uri s _)
  | wake t w =>
    cases hown : own t with
    | true =>
      simp only [Motion.ownPart?, hown]
      exact h.wake_own hproper hsorted₀ hcache hown hcalls
    | false =>
      simp only [Motion.ownPart?, hown]
      exact h.aside (hsorted₀.aside_wake hproper hown w)
  | settle t =>
    cases hown : own t with
    | true =>
      simp only [Motion.ownPart?, hown]
      exact h.settle hown (fun u hplace => hsorted₀.own_of_entry hproper hplace)
        fun task other htask hscheduled =>
          hsorted₀.scheduledFor_of_own hproper hown htask hscheduled
    | false =>
      simp only [Motion.ownPart?, hown]
      exact h.aside (aside_settle (fun task other htask hscheduled =>
        hsorted₀.ne_of_not_own hproper hown htask hscheduled) own)
  | look t =>
    refine h.aside (aside_look (fun hdrains => Bool.eq_false_iff.2 fun hown => ?_) uri)
    obtain ⟨task, others, htask, hstage⟩ := id hdrains
    obtain ⟨document, hlints, -⟩ := hsorted₀.lints_of_own hproper hown htask
    exact hlints.not_drains hdrains
  | arrange waiting agenda => exact { h with waits := fun t hown => any_ownPart? hown waiting }

/-- A lint that is added is added in the mirror if it is of the document. -/
lemma Mirrors.add_lint (h : Mirrors own calls uri s p) {part : Deed}
    (hpart : p.undergo part = (p.add (.lint document given)).1)
    (hsorted : Sorted own uri (s.add (.lint document given)).1) :
    Mirrors own calls uri (s.add (.lint document given)).1
      ((if document.isOf uri s.desk.settings.languageId then some part else none).elim p
        p.undergo) := by
  have hown : own s.tasks.length = document.isOf uri s.desk.settings.languageId :=
    hsorted.own_length (getElem?_add_self s _ none) rfl
  split
  · next hisOf =>
    rw [Option.elim_some, hpart]
    exact h.add (hown.trans hisOf) _ _
  · next hisOf => exact h.aside (aside_add (hown.trans (Bool.eq_false_iff.2 hisOf)) uri _ _)

/-- A lint that is scheduled is scheduled in the mirror if it is of the document. -/
lemma Mirrors.schedule_lint (h : Mirrors own calls uri s p) (hproper : s.Proper)
    (hsorted₀ : Sorted own uri s) (hsorted : Sorted own uri (s.schedule document).1) :
    Mirrors own calls uri (s.schedule document).1
      (if document.isOf uri s.desk.settings.languageId then (p.schedule document).1 else p) := by
  obtain ⟨given, scheduledFor, hadded⟩ := exists_task_schedule s document
  have hown : own s.tasks.length = document.isOf uri s.desk.settings.languageId :=
    hsorted.own_length hadded (settings_make s (.schedule document))
  split
  · next hisOf =>
    obtain ⟨huri, hlanguage⟩ := Document.isOf_iff.1 hisOf
    exact h.schedule (hown.trans hisOf) huri hlanguage fun u hplace =>
      hsorted₀.own_of_entry hproper hplace
  · next hisOf =>
    have hown' : own s.tasks.length = false := hown.trans (Bool.eq_false_iff.2 hisOf)
    refine h.aside ?_
    by_cases hlanguage : document.languageId = s.desk.settings.languageId
    · have hne : uri ≠ document.uri := fun huri =>
        hisOf (Document.isOf_iff.2 ⟨huri.symm, hlanguage⟩)
      refine aside_schedule hown' hne fun t hplace => Bool.eq_false_iff.2 fun hown => ?_
      obtain ⟨task, htask, hscheduled⟩ := hproper.table _ t hplace
      exact hne (hsorted₀.scheduledFor_of_own hproper hown htask hscheduled).symm
    · exact aside_schedule_foreign hown' uri hlanguage

/-- The part that own tasks have in a deed is done in the mirror. -/
theorem Mirrors.undergo (h : Mirrors own calls uri s p) (hproper : s.Proper)
    (hcache : s.desk.settings.cacheManifest = false)
    (hsorted : Sorted own uri (s.undergo deed)) (hcalls : (s.undergo deed).calls <+: calls) :
    Mirrors own calls uri (s.undergo deed)
      ((deed.ownPart? own uri s.desk.settings.languageId).elim p p.undergo) := by
  cases deed with
  | lintIn document g => exact h.add_lint rfl hsorted
  | move m =>
    cases m with
    | lint document => exact h.add_lint rfl hsorted
    | schedule document =>
      have hscheduled := h.schedule_lint hproper hsorted.of_undergo hsorted
      unfold Deed.ownPart?
      dsimp only
      split
      · next hisOf => rwa [if_pos hisOf] at hscheduled
      · next hisOf => rwa [if_neg hisOf] at hscheduled
    | motion m =>
      have hstep := h.stir hproper hcache hsorted hcalls
      unfold Deed.ownPart?
      dsimp only
      cases hpart : m.ownPart? own with
      | none =>
        rw [hpart] at hstep
        exact hstep
      | some part =>
        rw [hpart] at hstep
        exact hstep

/-- The parts that own tasks have in the deeds of a run make up a run in which they are mirrored. -/
theorem Mirrors.undergone (h : Mirrors own calls uri s p) (hproper : s.Proper)
    (hcache : s.desk.settings.cacheManifest = false) {deeds : List Deed}
    (hsorted : Sorted own uri (s.undergone deeds)) (hcalls : (s.undergone deeds).calls <+: calls) :
    Mirrors own calls uri (s.undergone deeds)
      (p.undergone (deeds.filterMap (·.ownPart? own uri s.desk.settings.languageId))) := by
  induction deeds generalizing s p with
  | nil => exact h
  | cons deed deeds ih =>
    have hsettings := settings_undergo s deed
    have hsorted' : Sorted own uri ((s.undergo deed).undergone deeds) := hsorted
    have hstep := h.undergo hproper hcache hsorted'.of_undergone
      ((calls_undergone (s.undergo deed) deeds).trans hcalls)
    have hrest := ih hstep (hproper.undergo deed) (by rw [hsettings, hcache]) hsorted hcalls
    rw [hsettings] at hrest
    rw [List.filterMap_cons]
    cases hpart : deed.ownPart? own uri s.desk.settings.languageId with
    | none =>
      rw [hpart] at hrest
      exact hrest
    | some part =>
      rw [hpart] at hrest
      exact hrest

/-- A session that begins is mirrored in one that begins, whatever tasks are own tasks. -/
lemma mirrors_opening (settings : Settings) (disk : Disk) (gate : Gate)
    (entries : List (String × List Diagnostic)) (runner : Runner) (own : TaskId → Bool)
    (calls : List Call) (uri : String) :
    Mirrors own calls uri (opening settings disk gate entries runner)
      (opening settings disk gate entries (runner.among own calls)) where
  desk := .refl uri _
  size := (Nat.count_zero _).symm
  task _ _ := rfl
  table := rfl
  waits _ _ := rfl
  requests := rfl
  runner := rfl

/-! ## Lints of one document by themselves -/

/-- Documents do not interfere, if manifests are not kept.  Take any run of a session and a uri, and
let the own tasks be those that lint documents with this uri in the language of the session.  In a
session that begins in the same way, do only what concerns own tasks: their triggers, and what
happens to them, with the linter replying to their calls as it does in the whole run.  After every
deed of the whole run the two sessions agree: the uri has the same generation, and the same task in
its place in the table; the own tasks stand where they stand in the whole run, with the same outcome
if they have ended and the same request to cancel if there is one, and there are no others; the
linter has been asked for the same; and the collection has the same diagnostics for the uri. -/
theorem documents_apart (settings : Settings) (disk : Disk) (gate : Gate)
    (entries : List (String × List Diagnostic)) (runner : Runner) (deeds : List Deed) (uri : String)
    (hcache : settings.cacheManifest = false) :
    let whole := (opening settings disk gate entries runner).undergone deeds
    let own := whole.owns uri
    ∀ before after, deeds = before ++ after →
      let s := (opening settings disk gate entries runner).undergone before
      let p := (opening settings disk gate entries (runner.among own whole.calls)).undergone
        (before.filterMap (·.ownPart? own uri settings.languageId))
      p.desk.generations.lookup uri = s.desk.generations.lookup uri ∧
      p.table.lookup uri = (s.table.lookup uri).map (place own) ∧
      (∀ t, own t = true → p.tasks[place own t]? = s.tasks[t]?) ∧
      p.tasks.length = place own s.tasks.length ∧
      p.calls.map (·.request) = (s.calls.filter (own ·.task)).map (·.request) ∧
      p.desk.collection.entries.lookup uri = s.desk.collection.entries.lookup uri := by
  intro whole own before after hdeeds s p
  have hwhole : whole = s.undergone after := by
    simp only [whole, s, hdeeds, undergone, List.foldl_append]
  have hsorted : Sorted own uri s := by
    have h : Sorted own uri (s.undergone after) := hwhole ▸ sorted_owns whole uri
    exact h.of_undergone
  have hcalls : s.calls <+: whole.calls := hwhole ▸ calls_undergone s after
  have hmirrors : Mirrors own whole.calls uri s p :=
    (mirrors_opening settings disk gate entries runner own whole.calls uri).undergone
      (proper_opening settings disk gate entries runner) hcache hsorted hcalls
  exact ⟨hmirrors.desk.generation, hmirrors.table, hmirrors.task, hmirrors.size,
    hmirrors.requests, hmirrors.desk.entry⟩

/-- Two documents are scheduled, and a third request for one of them comes in another language.  The
lint of the other document is cancelled and its call for the files of the project breaks down, but
the lint of the document ends as published, and so it does by itself, where it is the first task and
makes the first call. -/
theorem documents_apart_cancelled :
    let settings : Settings := { workingRoot := .ofNames ["proj"], timeout := none }
    let disk : Disk := { entries := [], workingPlace := ["proj"] }
    let foo : Document := {
      uri := "file:///proj/lib/foo.ex"
      path := .ofNames ["proj", "lib", "foo.ex"]
      languageId := "elixir"
      text := "" }
    let bar : Document := { foo with uri := "file:///proj/lib/bar.ex" }
    let files := "\x7b\"config\": \x7b\"files\": [\"lib/foo.ex\"]\x7d\x7d"
    let finding := "lib/foo.ex:3:5: W: m [Credo.Check.Warning.IoInspect]\n"
    let runner : Runner := fun mode number => {
      held := mode == .list
      answer := fun _ =>
        if number = 1 then .crashed "gone" else .finished { text := files, returnCode := 0 } }
    let deeds : List Deed := [.move (.schedule bar), .move (.schedule foo),
      .move (.schedule { foo with languageId := "erlang" }), .move (.motion (.wake 0 .start)),
      .move (.motion (.wake 1 .start)), .move (.motion (.cancel 0)),
      .move (.motion (.wake 1 (.answer (.finished { text := finding, returnCode := 0 })))),
      .move (.motion (.settle 1))]
    let whole := (opening settings disk .manifest [] runner).undergone deeds
    let own := whole.owns foo.uri
    let p := (opening settings disk .manifest [] (runner.among own whole.calls)).undergone
      (deeds.filterMap (·.ownPart? own foo.uri "elixir"))
    settings.cacheManifest = false ∧ p.tasks.length = 1 ∧
      (p.result? 0).any (fun
        | .outcome o => o.status == .published
        | _ => false) = true ∧
      (p.desk.collection.get foo.uri).length = 1 := by
  intro settings disk foo bar files finding runner deeds whole own p
  have hcache : settings.cacheManifest = false := rfl
  obtain ⟨-, -, htask, hsize, -, hentry⟩ :=
    documents_apart settings disk .manifest [] runner deeds foo.uri hcache deeds []
      (List.append_nil deeds).symm
  have hown : own 1 = true := by decide +kernel
  have hplace : place own 1 = 0 := by decide +kernel
  have hlength : place own whole.tasks.length = 1 := by decide +kernel
  have hpublished : (whole.result? 1).any (fun
      | .outcome o => o.status == .published
      | _ => false) = true := by
    decide +kernel
  have hkept : (whole.desk.collection.get foo.uri).length = 1 := by decide +kernel
  have hsame : p.tasks[place own 1]? = whole.tasks[1]? := htask 1 hown
  rw [hplace] at hsame
  have hresult : p.result? 0 = whole.result? 1 := by
    unfold result?
    rw [hsame]
  have hget : p.desk.collection.get foo.uri = whole.desk.collection.get foo.uri := by
    unfold Collection.get
    rw [hentry]
  refine ⟨hcache, hsize.trans hlength, ?_, ?_⟩
  · rw [hresult]
    exact hpublished
  · rw [hget]
    exact hkept

end Session

end LintRelay
