import LintRelay.Proofs.Manifest.Kept
import LintRelay.Proofs.Session.Generation

/-!
# Forgetting the manifest

A session that keeps manifests can be made to forget the one that it keeps.  This does not touch the
tasks that wait for the linter to list the files of the project: when such a task hears its answer
afterwards, it takes in the manifest as any other would, though the linter has been called before.

So the manifest that is kept after a course in which nothing is forgotten is the last that was taken
in (`kept_after`).  Each of them was heard by a task that was waiting already when the course began,
or has made its call since (`origin`), and the two exclude each other (`not_begun_of_asks`).  A task
that asks for the manifest returns the one that is kept, or else what its own call gives
(`own_manifest`).  `manifest_since_invalidate` puts these together, and `manifest_of_call_under_way`
is a course in which a task returns a manifest that the linter was asked for before everything was
forgotten.
-/

namespace LintRelay

namespace Desk

/-- The linter's answer about the files of the project gives a manifest: the one in it, or an empty
one when the linter could not be run. -/
def Gives (d : Desk) (a : Answer) (m : Manifest) : Prop :=
  d.given? a = some m ∨ m = .empty d.settings.workingRoot ∧ ∃ f, a = .failed f

/-- A manifest that is read in the linter's answer is given by it. -/
lemma gives_of_manifestOf {d : Desk} {a : Answer} {m : Manifest}
    (h : (d.manifestOf a).2 = .ok m) : d.Gives a m := by
  cases a with
  | finished o =>
    unfold manifestOf at h
    dsimp only at h
    cases hm : Manifest.ofOutput d.disk d.settings.workingRoot o.text with
    | ok m' =>
      rw [hm] at h
      cases h
      exact .inl (by simp [given?, hm, Except.toOption])
    | error e =>
      rw [hm] at h
      cases h
  | failed f =>
    cases h
    exact .inr ⟨rfl, f, rfl⟩
  | crashed message => cases h

/-- A task that asks for the manifest ends with the linter's answer, and returns what it gives. -/
lemma listed_manifest (d : Desk) (a : Answer) :
    ∃ r, (d.listed .manifest a).2 = .ended r ∧ ∀ m, r = .manifest m → d.Gives a m := by
  unfold listed informed
  dsimp only
  cases hm : (d.manifestOf a).2 with
  | ok m =>
    refine ⟨.manifest m, rfl, fun m' h => ?_⟩
    cases h
    exact gives_of_manifestOf hm
  | error b => exact ⟨.failed b, rfl, nofun⟩

end Desk

namespace Session

variable {s s' : Session} {t : TaskId} {task : Task} {m : Move} {ms : List Move}

/-! ## Who asks, and who hears -/

/-- A task waits for the linter to list the files of the project. -/
def Lists (s : Session) (t : TaskId) : Prop :=
  ∃ task p, s.tasks[t]? = some task ∧ task.stage = .listing p

/-- A task has begun. -/
def HasBegun (s : Session) (t : TaskId) : Prop :=
  (∃ task, s.tasks[t]? = some task) ∧ s.distance t ≤ 2

/-- A task that waits for the files of the project has begun. -/
lemma Lists.hasBegun (h : s.Lists t) : s.HasBegun t := by
  obtain ⟨task, p, htask, hstage⟩ := h
  refine ⟨⟨task, htask⟩, ?_⟩
  rw [distance_eq htask, hstage]
  exact Nat.le_refl 2

/-- A task that has begun has done so for ever. -/
lemma HasBegun.make (h : s.HasBegun t) (m : Move) : (s.make m).HasBegun t := by
  obtain ⟨⟨task, htask⟩, hdistance⟩ := h
  obtain ⟨task', htask', -⟩ := exists_task_make htask m
  exact ⟨⟨task', htask'⟩, Nat.le_trans (distance_make_le htask m) hdistance⟩

/-- A call for the files of the project is made by a task that begins. -/
lemma exists_of_asks? {c : Call} (h : s.asks? m = some c) :
    ∃ task, s.tasks[c.task]? = some task ∧ task.stage = .fresh ∧
      m = .motion (.wake c.task .start) ∧ c.request.mode = .info := by
  unfold asks? at h
  split at h
  · next t =>
    split at h
    · next htask =>
      split at h
      · cases h
        exact ⟨_, htask, rfl, rfl, rfl⟩
      · cases h
    · cases h
  · cases h

/-- A task that calls the linter for the files of the project has not begun before. -/
lemma not_hasBegun_of_asks? {c : Call} (h : s.asks? m = some c) : ¬s.HasBegun c.task := by
  obtain ⟨task, htask, hstage, -, -⟩ := exists_of_asks? h
  rintro ⟨-, hdistance⟩
  rw [distance_eq htask, hstage] at hdistance
  exact Nat.not_succ_le_self 2 hdistance

/-- A task that calls the linter for the files of the project has begun afterwards. -/
lemma hasBegun_of_asks? {c : Call} (h : s.asks? m = some c) : (s.make m).HasBegun c.task := by
  obtain ⟨task, htask, hstage, rfl, -⟩ := exists_of_asks? h
  obtain ⟨task', htask', -⟩ := exists_task_make htask (.motion (.wake c.task .start))
  refine ⟨⟨task', htask'⟩, ?_⟩
  have hawaits : task.stage.awaits .start = true := by rw [hstage]; rfl
  have hlt : (s.wake c.task .start).1.distance c.task < s.distance c.task :=
    distance_wake_lt htask hawaits
  rw [distance_eq htask, hstage] at hlt
  exact Nat.le_of_lt_succ hlt

/-- Behind a first move without a call for the files of the project a task has one call before it at
most. -/
lemma distance_follow_of_opens (htask : s.tasks[t]? = some task) {r : Desk × Opening}
    (h : s.desk.Opens false r) : ({ s with desk := r.1 }.follow t r.2).distance t ≤ 1 := by
  obtain ⟨-, -, -, o, ho⟩ := h
  rw [ho]
  exact distance_goOn_le (s := s.onDesk fun _ => r.1) htask o

/-- A task that begins without a call for the files of the project has one call before it at most.
-/
lemma distance_begin_of_not_asks (htask : s.tasks[t]? = some task) {job : Job}
    (h : s.desk.asks job = false) : (s.begin t job).distance t ≤ 1 := by
  cases job with
  | lint document given =>
    have hopens := Desk.opens_beginLint s.desk document given
    rw [h] at hopens
    exact distance_follow_of_opens htask hopens
  | manifest =>
    have hopens := Desk.opens_inquire s.desk .manifest
    have hkept : s.desk.kept?.isNone = false := h
    rw [hkept] at hopens
    exact distance_follow_of_opens htask hopens
  | eligible path =>
    have hopens := Desk.opens_vet s.desk (.eligible path)
    have hkept : (decide (s.desk.gate = .manifest) && s.desk.kept?.isNone) = false := h
    rw [hkept] at hopens
    exact distance_follow_of_opens htask hopens
  | drain => exact distance_begin_drain_le htask

/-- A task that waits for the files of the project after it was woken did so before, or makes its
call then. -/
lemma lists_wake {w : Wake} (h : (s.wake t w).1.Lists t) :
    s.Lists t ∨ ∃ c, s.asks? (.motion (.wake t w)) = some c ∧ c.task = t := by
  obtain ⟨task', p, htask', hstage'⟩ := id h
  have hdistance : (s.wake t w).1.distance t = 2 := by
    rw [distance_eq htask', hstage']
    rfl
  have hwaking := waking s t w
  generalize (s.wake t w).1 = s' at h hdistance hwaking
  cases hwaking with
  | idle => exact .inl h
  | cancelled htask =>
    rw [distance_finish htask] at hdistance
    cases hdistance
  | @begun task htask hstage hcancelling =>
    rw [asks?_of_fresh htask hstage hcancelling]
    cases hasks : s.desk.asks task.job with
    | true => exact .inr ⟨s.infoCall t, rfl, rfl⟩
    | false =>
      have hle := distance_begin_of_not_asks htask hasks
      rw [hdistance] at hle
      exact absurd hle (by decide)
  | @listed task p a htask =>
    have hle := distance_closeListing_le htask p a
    rw [hdistance] at hle
    exact absurd hle (by decide)
  | checked htask =>
    rw [closeCheck_eq, distance_finish (s := s.onDesk _) htask] at hdistance
    cases hdistance

/-- A task that waits for the files of the project after a move did so before, or makes its call in
this move. -/
lemma lists_make (h : (s.make m).Lists t) :
    s.Lists t ∨ ∃ c, s.asks? m = some c ∧ c.task = t := by
  cases hm : s.wakes? t m with
  | some e =>
    obtain ⟨w, rfl, -⟩ := exists_of_wakes? hm
    exact lists_wake h
  | none =>
    obtain ⟨task', p, htask', hstage'⟩ := h
    refine .inl ?_
    cases htask : s.tasks[t]? with
    | none =>
      have hfresh := fresh_of_make htask htask'
      rw [hstage'] at hfresh
      cases hfresh
    | some task =>
      have hdrains : ¬s.Drains t := by
        rintro ⟨task'', others, htask'', hstage⟩
        have hle := distance_make_le htask'' m
        rw [distance_eq htask', distance_eq htask'', hstage, hstage'] at hle
        exact Nat.not_succ_le_self 1 hle
      obtain ⟨cancelling, hmade⟩ := (apart_make hm fun h => absurd h hdrains).task task htask
      rw [htask'] at hmade
      cases hmade
      exact ⟨task, p, htask, hstage'⟩

/-- A task that hears the linter's answer about the files of the project has waited for it, or makes
its call then. -/
lemma origin_of_learns? {e : TaskId × Answer} (h : s.learns? m = some e) :
    s.Lists e.1 ∨ ∃ c, s.asks? m = some c ∧ c.task = e.1 := by
  unfold learns? at h
  split at h
  · split at h
    · next htask =>
      cases h
      exact .inl ⟨_, _, htask, rfl⟩
    · cases h
  · obtain ⟨c, hc, h⟩ := Option.bind_eq_some_iff.1 h
    obtain ⟨a, -, rfl⟩ := Option.map_eq_some_iff.1 h
    exact .inr ⟨c, hc, rfl⟩

/-! ## Along a course -/

/-- The calls for the files of the project are those that are made in the moves. -/
lemma infoCalls_after (hcache : s.desk.settings.cacheManifest = true) (ms : List Move) :
    (s.after ms).infoCalls = s.infoCalls ++ s.gather asks? ms := by
  induction ms generalizing s with
  | nil => exact (List.append_nil _).symm
  | cons m ms ih =>
    have hcache' : (s.make m).desk.settings.cacheManifest = true := settings_make s m ▸ hcache
    rw [after_cons, ih hcache', gather, ← List.append_assoc]
    congr 1
    by_cases hm : m = .motion .invalidate
    · subst hm
      exact (List.append_nil _).symm
    · exact (filing_make hcache hm).calls

/-- After a course in which nothing is forgotten, the manifest that is kept is the last that was
taken in. -/
theorem kept_after (hcache : s.desk.settings.cacheManifest = true)
    (hms : .motion .invalidate ∉ ms) :
    (s.after ms).desk.kept = ((s.gather takes? ms).getLast?.map (·.2)).or s.desk.kept := by
  induction ms generalizing s with
  | nil => rfl
  | cons m ms ih =>
    have hcache' : (s.make m).desk.settings.cacheManifest = true := settings_make s m ▸ hcache
    rw [List.mem_cons, not_or] at hms
    obtain ⟨hm, hms⟩ := hms
    rw [after_cons, ih hcache' hms, (filing_make hcache (Ne.symm hm)).kept, gather,
      List.getLast?_append]
    cases (gather takes? (s.make m) ms).getLast? with
    | some e => rfl
    | none => cases s.takes? m <;> rfl

/-- A manifest that is taken in along a course has been heard. -/
lemma exists_learns_of_takes {e : TaskId × Manifest} (h : e ∈ s.gather takes? ms) :
    ∃ a, (e.1, a) ∈ s.gather learns? ms := by
  induction ms generalizing s with
  | nil => cases h
  | cons m ms ih =>
    rw [gather, List.mem_append, Option.mem_toList] at h
    simp only [gather, List.mem_append, Option.mem_toList]
    rcases h with h | h
    · obtain ⟨l, hl, h⟩ := Option.bind_eq_some_iff.1 h
      obtain ⟨m', -, rfl⟩ := Option.map_eq_some_iff.1 h
      exact ⟨l.2, .inl hl⟩
    · obtain ⟨a, ha⟩ := ih h
      exact ⟨a, .inr ha⟩

/-- A task that hears the linter's answer about the files of the project along a course has waited
for it when the course began, or has made its call since. -/
theorem origin {e : TaskId × Answer} (h : e ∈ s.gather learns? ms) :
    s.Lists e.1 ∨ ∃ c ∈ s.gather asks? ms, c.task = e.1 := by
  induction ms generalizing s with
  | nil => cases h
  | cons m ms ih =>
    rw [gather, List.mem_append, Option.mem_toList] at h
    simp only [gather, List.mem_append, Option.mem_toList]
    have hmade : (∃ c, s.asks? m = some c ∧ c.task = e.1) →
        s.Lists e.1 ∨ ∃ c, (s.asks? m = some c ∨ c ∈ (s.make m).gather asks? ms) ∧
          c.task = e.1 := by
      rintro ⟨c, hc, htask⟩
      exact .inr ⟨c, .inl hc, htask⟩
    rcases h with h | h
    · rcases origin_of_learns? h with hlists | hasks
      · exact .inl hlists
      · exact hmade hasks
    · rcases ih h with hlists | ⟨c, hc, htask⟩
      · rcases lists_make hlists with hlists | hasks
        · exact .inl hlists
        · exact hmade hasks
      · exact .inr ⟨c, .inr hc, htask⟩

/-- A task that calls the linter for the files of the project along a course had not begun when the
course began. -/
theorem not_hasBegun_of_asks {c : Call} (h : c ∈ s.gather asks? ms) : ¬s.HasBegun c.task := by
  induction ms generalizing s with
  | nil => cases h
  | cons m ms ih =>
    rw [gather, List.mem_append, Option.mem_toList] at h
    rcases h with h | h
    · exact not_hasBegun_of_asks? h
    · exact fun hbegun => ih h (hbegun.make m)

/-- A session in which the calls for the files of the project are those of tasks that have begun,
and every task that waits for the files has made one. -/
structure Asked (s : Session) : Prop where
  begun : ∀ c ∈ s.infoCalls, s.HasBegun c.task
  called : ∀ t, s.Lists t → ∃ c ∈ s.infoCalls, c.task = t

/-- At the beginning nothing has been asked. -/
lemma asked_opening (settings : Settings) (disk : Disk) (gate : Gate)
    (entries : List (String × List Diagnostic)) (runner : Runner) :
    Asked (opening settings disk gate entries runner) where
  begun _ hc := absurd hc List.not_mem_nil
  called _ h := by
    obtain ⟨task, p, htask, -⟩ := h
    cases htask

/-- Along every course, the calls are those of tasks that have begun, and every task that waits has
made one. -/
lemma Asked.after (h : Asked s) (hcache : s.desk.settings.cacheManifest = true) (ms : List Move) :
    Asked (s.after ms) := by
  induction ms generalizing s with
  | nil => exact h
  | cons m ms ih =>
    have hcache' : (s.make m).desk.settings.cacheManifest = true := settings_make s m ▸ hcache
    have hcalls : (s.make m).infoCalls = s.infoCalls ++ (s.asks? m).toList := by
      have hone := infoCalls_after hcache [m]
      rwa [gather, gather, List.append_nil] at hone
    refine ih ⟨?_, ?_⟩ hcache'
    · intro c hc
      rw [hcalls, List.mem_append, Option.mem_toList] at hc
      rcases hc with hc | hc
      · exact (h.begun c hc).make m
      · exact hasBegun_of_asks? hc
    · intro t hlists
      rw [hcalls]
      rcases lists_make hlists with hlists | ⟨c, hc, htask⟩
      · obtain ⟨c, hc, htask⟩ := h.called t hlists
        exact ⟨c, List.mem_append_left _ hc, htask⟩
      · exact ⟨c, List.mem_append_right _ (Option.mem_toList.2 hc), htask⟩

/-! ## Tasks that ask for the manifest -/

/-- A task that asks for the manifest returns the one that is kept, without a call. -/
lemma wake_of_kept {m : Manifest} (htask : s.tasks[t]? = some task) (hjob : task.job = .manifest)
    (hstage : task.stage = .fresh) (hcancelling : task.cancelling = false)
    (hkept : s.desk.kept? = some m) : (s.wake t .start).1 = s.finish t (.manifest m) := by
  unfold Session.wake move
  simp only [htask, hstage, hcancelling, hjob]
  simp only [Stage.isEnded, Stage.result?, Option.isSome_none, Bool.false_eq_true, if_false, begin,
    Desk.inquire, hkept]
  rfl

/-- A task that asks for the manifest calls the linter if none is kept. -/
lemma wake_of_not_kept (htask : s.tasks[t]? = some task) (hjob : task.job = .manifest)
    (hstage : task.stage = .fresh) (hcancelling : task.cancelling = false)
    (hkept : s.desk.kept? = none) : (s.wake t .start).1 = s.follow t (.list .manifest) := by
  unfold Session.wake move
  simp only [htask, hstage, hcancelling, hjob]
  simp only [Stage.isEnded, Stage.result?, Option.isSome_none, Bool.false_eq_true, if_false, begin,
    Desk.inquire, hkept]

/-- A task that asks for the manifest ends behind the linter's answer, and returns what it gives. -/
lemma ends_of_closeListing (htask : s.tasks[t]? = some task) (a : Answer) :
    ∃ r, (s.closeListing t .manifest a).result? t = some r ∧
      ∀ m, r = .manifest m → s.desk.Gives a m := by
  obtain ⟨r, hr, hgives⟩ := Desk.listed_manifest s.desk a
  refine ⟨r, ?_, hgives⟩
  rw [closeListing_eq, hr]
  exact result?_finish (s := s.onDesk _) htask r

/-- What a task returns that has asked the linter for the manifest: the manifest that it takes in
itself, or an empty one when the linter could not be run. -/
def Returns (s : Session) (t : TaskId) (ms : List Move) (m : Manifest) : Prop :=
  (t, m) ∈ s.gather takes? ms ∨
    m = .empty s.desk.settings.workingRoot ∧ ∃ f, (t, .failed f) ∈ s.gather learns? ms

/-- What a task returns in a course it returns in one that begins with another move. -/
lemma Returns.cons {m' : Manifest} (h : (s.make m).Returns t ms m') :
    s.Returns t (m :: ms) m' := by
  rcases h with h | ⟨h, f, hf⟩
  · exact .inl (List.mem_append_right _ h)
  · exact .inr ⟨by rw [h, settings_make], f, List.mem_append_right _ hf⟩

/-- What is in the answer that a task hears in the first move of a course is what it returns. -/
lemma Returns.of_learns? {m' : Manifest} {a : Answer} (h : s.learns? m = some (t, a))
    (hm : s.desk.Gives a m') : s.Returns t (m :: ms) m' := by
  rcases hm with hm | ⟨hm, f, rfl⟩
  · have htakes : s.takes? m = some (t, m') := by
      simp [takes?, h, hm]
    exact .inl (List.mem_append_left _ (Option.mem_toList.2 htakes))
  · exact .inr ⟨hm, f, List.mem_append_left _ (Option.mem_toList.2 h)⟩

/-- A task that waits for the manifest goes on waiting when it is woken, or ends with what it hears
then. -/
lemma wake_of_listing (htask : s.tasks[t]? = some task) (hstage : task.stage = .listing .manifest)
    (w : Wake) :
    (s.wake t w).1 = s ∨ ∃ r, (s.wake t w).1.result? t = some r ∧ ∀ m, r = .manifest m →
      ∃ a, s.learns? (.motion (.wake t w)) = some (t, a) ∧ s.desk.Gives a m := by
  have hwaking := waking s t w
  generalize (s.wake t w).1 = s' at hwaking ⊢
  cases hwaking with
  | idle => exact .inl rfl
  | cancelled htask' => exact .inr ⟨_, result?_finish htask' .cancelled, nofun⟩
  | begun htask' hstage' =>
    obtain rfl : task = _ := Option.some.inj (htask.symm.trans htask')
    rw [hstage] at hstage'
    cases hstage'
  | checked htask' hstage' =>
    obtain rfl : task = _ := Option.some.inj (htask.symm.trans htask')
    rw [hstage] at hstage'
    cases hstage'
  | @listed task' p a htask' hstage' hcancelling =>
    obtain rfl : task = task' := Option.some.inj (htask.symm.trans htask')
    obtain rfl : p = .manifest := Stage.listing.inj (hstage'.symm.trans hstage)
    obtain ⟨r, hr, hgives⟩ := ends_of_closeListing htask a
    exact .inr ⟨r, hr, fun m hm => ⟨a, learns?_of_listing htask hstage' hcancelling, hgives m hm⟩⟩

/-- A task that waits for the manifest returns what it hears itself. -/
lemma returns_of_listing {m' : Manifest} (htask : s.tasks[t]? = some task)
    (hstage : task.stage = .listing .manifest)
    (h : (s.after ms).result? t = some (.manifest m')) : s.Returns t ms m' := by
  induction ms generalizing s task with
  | nil =>
    rw [after_nil, result?_eq htask, hstage] at h
    cases h
  | cons m ms ih =>
    rw [after_cons] at h
    cases hm : s.wakes? t m with
    | none =>
      have hdrains : ¬s.Drains t := by
        rintro ⟨task', others, htask', hstage'⟩
        obtain rfl : task = task' := Option.some.inj (htask.symm.trans htask')
        rw [hstage] at hstage'
        cases hstage'
      obtain ⟨cancelling, htask'⟩ := (apart_make hm fun h => absurd h hdrains).task task htask
      exact (ih htask' hstage h).cons
    | some e =>
      obtain ⟨w, rfl, -⟩ := exists_of_wakes? hm
      rcases wake_of_listing htask hstage w with hidle | ⟨r, hr, hlearns⟩
      · have hidle : s.make (.motion (.wake t w)) = s := hidle
        exact (ih (hidle.symm ▸ htask) hstage h).cons
      · have hr : (s.make (.motion (.wake t w))).result? t = some r := hr
        rw [result?_after hr] at h
        obtain ⟨a, ha, hgiven⟩ := hlearns m' (Option.some.inj h)
        exact .of_learns? ha hgiven

/-- A task that asks for the manifest while none is kept calls the linter then, and returns what it
hears itself. -/
theorem own_manifest (htask : s.tasks[t]? = some task) (hjob : task.job = .manifest)
    (hstage : task.stage = .fresh) (hcancelling : task.cancelling = false)
    (hkept : s.desk.kept? = none) :
    s.asks? (.motion (.wake t .start)) = some (s.infoCall t) ∧
      ∀ ms m, (s.after (.motion (.wake t .start) :: ms)).result? t = some (.manifest m) →
        s.Returns t (.motion (.wake t .start) :: ms) m := by
  have hasks : s.asks? (.motion (.wake t .start)) = some (s.infoCall t) := by
    have hnone : s.desk.asks task.job = true := by
      rw [hjob]
      simp [Desk.asks, hkept]
    rw [asks?_of_fresh htask hstage hcancelling, hnone]
    rfl
  refine ⟨hasks, fun ms m h => ?_⟩
  have hmade : s.make (.motion (.wake t .start)) = s.follow t (.list .manifest) :=
    wake_of_not_kept htask hjob hstage hcancelling hkept
  rw [after_cons, hmade, follow_list] at h
  split at h
  · next hheld =>
    have hwaits := returns_of_listing
      (getElem?_holding htask s.desk.settings.infoRequest (.listing .manifest) _) rfl h
    refine Returns.cons ?_
    rw [hmade, follow_list, if_pos hheld]
    exact hwaits
  · next hheld =>
    have hlearns : s.learns? (.motion (.wake t .start)) = some (t,
        (s.reply s.desk.settings.infoRequest).answer s.desk.settings.infoRequest) := by
      simp only [learns?, hasks, infoAnswer?, if_neg hheld]
      rfl
    obtain ⟨r, hr, hgives⟩ :=
      ends_of_closeListing (s := s.noting t s.desk.settings.infoRequest) htask
        ((s.reply s.desk.settings.infoRequest).answer s.desk.settings.infoRequest)
    rw [result?_after hr] at h
    exact .of_learns? hlearns (hgives m (Option.some.inj h))

/-! ## The law -/

/-- A manifest that is taken in along a course is that of a call made before the course if its task
was waiting when the course began, and that of a call made since if it was not. -/
lemma Asked.call_iff (h : Asked s) {e : TaskId × Manifest} (he : e ∈ s.gather takes? ms) :
    ((∃ c ∈ s.infoCalls, c.task = e.1) ↔ s.Lists e.1) ∧
      ((∃ c ∈ s.gather asks? ms, c.task = e.1) ↔ ¬s.Lists e.1) := by
  obtain ⟨a, ha⟩ := exists_learns_of_takes he
  have horigin := origin ha
  have hnew : (∃ c ∈ s.gather asks? ms, c.task = e.1) → ¬s.HasBegun e.1 := by
    rintro ⟨c, hc, htask⟩
    exact htask ▸ not_hasBegun_of_asks hc
  refine ⟨⟨?_, h.called e.1⟩, ⟨fun hc hlists => hnew hc hlists.hasBegun, horigin.resolve_left⟩⟩
  rintro ⟨c, hc, htask⟩
  refine horigin.resolve_right fun hasks => hnew hasks ?_
  exact htask ▸ h.begun c hc

/-- What a session that keeps manifests knows of the files of the project after it was made to
forget the manifest that it kept, along every course up to the next time:

* it keeps the last manifest that was taken in since, or none;
* each manifest that was taken in since comes from a call that was made before, if the task that
  took it in was waiting for it then, and from a call that was made since, if not;
* a task that asks for the manifest then returns the one that is kept; if none is kept, it calls the
  linter, and returns what it takes in itself. -/
theorem manifest_since_invalidate (settings : Settings) (disk : Disk) (gate : Gate)
    (entries : List (String × List Diagnostic)) (runner : Runner)
    (hcache : settings.cacheManifest = true) (ms ms' : List Move)
    (hms' : .motion .invalidate ∉ ms') :
    let s := ((opening settings disk gate entries runner).after ms).make (.motion .invalidate)
    let s' := s.after ms'
    s'.infoCalls = s.infoCalls ++ s.gather asks? ms' ∧
    s'.desk.kept? = (s.gather takes? ms').getLast?.map (·.2) ∧
    (∀ e ∈ s.gather takes? ms',
      ((∃ c ∈ s.infoCalls, c.task = e.1) ↔ s.Lists e.1) ∧
      ((∃ c ∈ s.gather asks? ms', c.task = e.1) ↔ ¬s.Lists e.1)) ∧
    ∀ (t : TaskId) (task : Task), s'.tasks[t]? = some task → task.job = .manifest →
      task.stage = .fresh → task.cancelling = false →
      (∀ m, s'.desk.kept? = some m → (s'.wake t .start).1.result? t = some (.manifest m)) ∧
      (s'.desk.kept? = none →
        s'.asks? (.motion (.wake t .start)) = some (s'.infoCall t) ∧
        ∀ ms'' m, (s'.after (.motion (.wake t .start) :: ms'')).result? t = some (.manifest m) →
          s'.Returns t (.motion (.wake t .start) :: ms'') m) := by
  intro s s'
  let s₀ := opening settings disk gate entries runner
  have hasked : Asked s := by
    have hcourse := (asked_opening settings disk gate entries runner).after hcache
      (ms ++ [.motion .invalidate])
    rwa [after, List.foldl_append] at hcourse
  have hcache₁ : s.desk.settings.cacheManifest = true := by
    have hsettings : s.desk.settings = settings :=
      (settings_make (s₀.after ms) _).trans (settings_after s₀ ms)
    rw [hsettings]
    exact hcache
  have hcache₂ : s'.desk.settings.cacheManifest = true := settings_after s ms' ▸ hcache₁
  refine ⟨infoCalls_after hcache₁ ms', ?_, fun e he => hasked.call_iff he, ?_⟩
  · have hforgotten : s.desk.kept = none := rfl
    have hkept := kept_after hcache₁ hms'
    rw [hforgotten, Option.or_none] at hkept
    rw [Desk.kept?, if_pos hcache₂]
    exact hkept
  · intro t task htask hjob hstage hcancelling
    refine ⟨fun m hm => ?_, own_manifest htask hjob hstage hcancelling⟩
    rw [wake_of_kept htask hjob hstage hcancelling hm]
    exact result?_finish htask _

/-- A task that asks for the manifest after it was forgotten calls the linter again if no other task
has waited for the files meanwhile. -/
theorem manifest_since_invalidate_again :
    let settings : Settings := {
      workingRoot := .ofNames ["proj"], timeout := none, cacheManifest := true }
    let disk : Disk := { entries := [], workingPlace := ["proj"] }
    let files := "\x7b\"config\": \x7b\"files\": [\"lib/a.ex\"]\x7d\x7d"
    let runner : Runner := fun _ _ => {
      held := false
      answer := fun _ => .finished { text := files, returnCode := 0 } }
    let s := ((opening settings disk .manifest [] runner).after
      [.motion .manifest, .motion (.wake 0 .start)]).make (.motion .invalidate)
    let s' := s.after [.motion .manifest]
    s.infoCalls.length = 1 ∧ s'.asks? (.motion (.wake 1 .start)) = some (s'.infoCall 1) ∧
      ∀ m, (s'.after [.motion (.wake 1 .start)]).result? 1 = some (.manifest m) →
        s'.Returns 1 [.motion (.wake 1 .start)] m := by
  intro settings disk files runner s s'
  have hcalls : s.infoCalls.length = 1 := by decide +kernel
  have hforgets : Move.motion .invalidate ∉ [Move.motion .manifest] := by simp
  have hsize : s.tasks.length = 1 := by decide +kernel
  have htask : s'.tasks[1]? = some { job := .manifest } :=
    hsize ▸ getElem?_add_self s .manifest none
  have hkept : s'.desk.kept? = none := by decide +kernel
  obtain ⟨-, -, -, hasked⟩ := manifest_since_invalidate settings disk .manifest [] runner rfl
    [.motion .manifest, .motion (.wake 0 .start)] [.motion .manifest] hforgets
  obtain ⟨hasks, hreturns⟩ := (hasked 1 _ htask rfl rfl rfl).2 hkept
  exact ⟨hcalls, hasks, hreturns []⟩

/-- A call that is under way when the manifest is forgotten gives the manifest that a task returns
which asks for it afterwards, though the linter is not called again. -/
theorem manifest_of_call_under_way :
    let settings : Settings := {
      workingRoot := .ofNames ["proj"], timeout := none, cacheManifest := true }
    let disk : Disk := { entries := [], workingPlace := ["proj"] }
    let files := "\x7b\"config\": \x7b\"files\": [\"lib/a.ex\"]\x7d\x7d"
    let answer : Answer := .finished { text := files, returnCode := 0 }
    let runner : Runner := fun _ number => { held := number == 1, answer := fun _ => answer }
    let s := ((opening settings disk .manifest [] runner).after
      [.motion .manifest, .motion (.wake 0 .start)]).make (.motion .invalidate)
    let ms : List Move :=
      [.motion (.wake 0 (.answer answer)), .motion .manifest, .motion (.wake 1 .start)]
    (s.gather asks? ms).length = 0 ∧ ∃ m, (s.after ms).result? 1 = some (.manifest m) ∧
      m.files = [.ofNames ["proj", "lib", "a.ex"]] := by
  intro settings disk files answer runner s ms
  have hcalls : (s.gather asks? ms).length = 0 := by decide +kernel
  have hfiles : ((s.after ms).result? 1).map (fun
      | .manifest m => m.files
      | _ => []) = some [.ofNames ["proj", "lib", "a.ex"]] := by
    decide +kernel
  obtain ⟨r, hr, hm⟩ := Option.map_eq_some_iff.1 hfiles
  refine ⟨hcalls, ?_⟩
  cases r with
  | manifest m => exact ⟨m, hr, hm⟩
  | _ => cases hm

end Session

end LintRelay
