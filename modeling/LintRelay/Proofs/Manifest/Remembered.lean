import LintRelay.Proofs.Manifest.Invalidation
import LintRelay.Proofs.Session.Calls

/-!
# What is remembered of the files of the project

A task *consults* the linter's list of files when it begins with the question which files belong to
the project (`Session.consults?`).  Whether it calls the linter for them hangs on the manifest that
is kept: `asks?_eq` says that it does so if there is none.

In a session that does not keep manifests there never is one, so that the calls are those of the
tasks that consult the list, one for each (`course_of_not_cached`).  In a session that keeps them,
the manifest that is kept has been read in the output of a call that has come to its end since
manifests were last forgotten, and there is none as long as none has been read (`finds_of_kept`,
`kept_eq_none_iff`).  A call that failed, and an output in which no manifest can be read, leave what
is kept as it is.  `remembered` puts these together.
-/

namespace LintRelay

namespace Desk

/-- Whether a job begins with the question which files belong to the project. -/
def consults (d : Desk) : Job → Bool
  | .lint document _ =>
    decide (document.languageId = d.settings.languageId) && decide (d.gate = .manifest)
  | .manifest => true
  | .eligible _ => decide (d.gate = .manifest)
  | .drain => false

/-- A job that begins with this question begins with a call for the files if no manifest is kept. -/
lemma asks_eq (d : Desk) (job : Job) : d.asks job = (d.consults job && d.kept?.isNone) := by
  cases job with
  | manifest => exact (Bool.true_and _).symm
  | drain => rfl
  | _ => rfl

end Desk

namespace Session

variable {s : Session} {m : Move} {ms : List Move} {t : TaskId}

/-- The task that begins in a move with the question which files belong to the project. -/
def consults? (s : Session) : Move → Option TaskId
  | .motion (.wake t .start) =>
    match s.tasks[t]? with
    | some { job, stage := .fresh, cancelling := false, .. } =>
      if s.desk.consults job then some t else none
    | _ => none
  | _ => none

/-- A task has found a manifest along a course: it is read in what the linter has printed in a call
that came to its end, and the task has heard the answer to this call. -/
def Finds (s : Session) (ms : List Move) (m : Manifest) : Prop :=
  ∃ t o, (t, .finished o) ∈ s.gather learns? ms ∧
    Manifest.ofOutput s.desk.disk s.desk.settings.workingRoot o.text = .ok m

/-! ## Who calls the linter -/

/-- A task that consults the list of files calls the linter if no manifest is kept. -/
lemma asks?_eq (s : Session) (m : Move) :
    s.asks? m = if s.desk.kept?.isNone then (s.consults? m).map s.infoCall else none := by
  have hnone : ∀ b : Bool, none = if b then (none : Option TaskId).map s.infoCall else none :=
    fun b => (ite_self none).symm
  by_cases hm : ∃ t, m = .motion (.wake t .start)
  · obtain ⟨t, rfl⟩ := hm
    cases htask : s.tasks[t]? with
    | none =>
      simp only [asks?, consults?, htask]
      exact hnone _
    | some task =>
      obtain ⟨job, scheduledFor, stage, cancelling⟩ := task
      simp only [asks?, consults?, htask]
      cases stage with
      | fresh =>
        cases cancelling with
        | false =>
          dsimp only
          rw [Desk.asks_eq]
          cases s.desk.consults job <;> cases s.desk.kept?.isNone <;> rfl
        | true => exact hnone _
      | _ => exact hnone _
  · have hasks : s.asks? m = none := by
      unfold asks?
      split
      · next t => exact absurd ⟨t, rfl⟩ hm
      · rfl
    have hconsults : s.consults? m = none := by
      unfold consults?
      split
      · next t => exact absurd ⟨t, rfl⟩ hm
      · rfl
    rw [hasks, hconsults]
    exact hnone _

/-- The calls for the files of the project after one more move. -/
lemma infoCalls_make (s : Session) (m : Move) :
    (s.make m).infoCalls = s.infoCalls ++ (s.asks? m).toList := by
  by_cases hm : m = .motion .invalidate
  · subst hm
    exact (List.append_nil _).symm
  · exact (filed_make hm).calls

/-- A task that consults the list of files adds its call if no manifest is kept, and nothing
otherwise. -/
lemma infoCalls_make_of_consults (h : s.consults? m = some t) :
    (s.make m).infoCalls =
      if s.desk.kept?.isNone then s.infoCalls ++ [s.infoCall t] else s.infoCalls := by
  rw [infoCalls_make, asks?_eq, h]
  split
  · rfl
  · exact List.append_nil _

/-- The calls for the files of the project after a course, whether manifests are kept or not. -/
lemma infoCalls_course (s : Session) (ms : List Move) :
    (s.after ms).infoCalls = s.infoCalls ++ s.gather asks? ms := by
  induction ms generalizing s with
  | nil => exact (List.append_nil _).symm
  | cons m ms ih => rw [after_cons, ih, infoCalls_make, gather, List.append_assoc]

/-- The calls of a task for the files of the project are counted among all of them. -/
lemma count_infoCalls (s : Session) (t : TaskId) :
    (s.infoCalls.map (·.task)).count t = s.callsOf t .info := by
  rw [List.count, List.countP_map, infoCalls, callsOf, List.countP_filter, List.countP_filter]
  refine List.countP_congr fun c _ => ?_
  simp [and_comm]

/-- A session that does not keep manifests has none after a move if it had none before. -/
lemma kept_make_of_not_cached (hcache : s.desk.settings.cacheManifest = false)
    (h : s.desk.kept = none) (m : Move) : (s.make m).desk.kept = none := by
  by_cases hm : m = .motion .invalidate
  · subst hm
    rfl
  · have hstores : s.stores? m = none := by
      simp [stores?, Desk.stored?, hcache]
    rw [(filed_make hm).kept, hstores, h]
    rfl

/-- A session that does not keep manifests never has one, and every task that consults the list of
files calls the linter for it. -/
theorem course_of_not_cached (hcache : s.desk.settings.cacheManifest = false)
    (h : s.desk.kept = none) (ms : List Move) :
    (s.after ms).desk.kept = none ∧
      (s.after ms).infoCalls.map (·.task) =
        s.infoCalls.map (·.task) ++ s.gather consults? ms := by
  induction ms generalizing s with
  | nil => exact ⟨h, (List.append_nil _).symm⟩
  | cons m ms ih =>
    have hcache' : (s.make m).desk.settings.cacheManifest = false := settings_make s m ▸ hcache
    obtain ⟨hkept, hcalls⟩ := ih hcache' (kept_make_of_not_cached hcache h m)
    have hnone : s.desk.kept?.isNone = true := by simp [Desk.kept?, hcache]
    have hasks : (s.asks? m).toList.map (·.task) = (s.consults? m).toList := by
      rw [asks?_eq, if_pos hnone]
      cases s.consults? m <;> rfl
    refine ⟨hkept, ?_⟩
    rw [after_cons, hcalls, infoCalls_make, List.map_append, hasks, gather, List.append_assoc]

/-! ## What is kept -/

/-- The manifest in the linter's answer is read in the output of a call that came to its end. -/
lemma given?_eq_some_iff {d : Desk} {a : Answer} {m : Manifest} :
    d.given? a = some m ↔
      ∃ o, a = .finished o ∧ Manifest.ofOutput d.disk d.settings.workingRoot o.text = .ok m := by
  cases a with
  | finished o =>
    unfold Desk.given?
    cases hm : Manifest.ofOutput d.disk d.settings.workingRoot o.text <;>
      simp [hm, Except.toOption]
  | failed f => simp [Desk.given?]
  | crashed message => simp [Desk.given?]

/-- What is taken in in a move is read in the answer that is heard in it. -/
lemma takes?_eq_some_iff {e : TaskId × Manifest} :
    s.takes? m = some e ↔ ∃ o, s.learns? m = some (e.1, .finished o) ∧
      Manifest.ofOutput s.desk.disk s.desk.settings.workingRoot o.text = .ok e.2 := by
  unfold takes?
  rw [Option.bind_eq_some_iff]
  constructor
  · rintro ⟨⟨t, a⟩, hlearns, htaken⟩
    obtain ⟨manifest, hgiven, rfl⟩ := Option.map_eq_some_iff.1 htaken
    obtain ⟨o, ha, hm⟩ := given?_eq_some_iff.1 hgiven
    obtain rfl : a = .finished o := ha
    exact ⟨o, hlearns, hm⟩
  · rintro ⟨o, hlearns, hm⟩
    exact ⟨_, hlearns, Option.map_eq_some_iff.2 ⟨e.2, given?_eq_some_iff.2 ⟨o, rfl, hm⟩, rfl⟩⟩

/-- What is taken in along a course is what is found along it. -/
lemma exists_takes_iff {manifest : Manifest} :
    (∃ t, (t, manifest) ∈ s.gather takes? ms) ↔ s.Finds ms manifest := by
  induction ms generalizing s with
  | nil => simp [Finds, gather]
  | cons m ms ih =>
    have hsettings : (s.make m).desk.settings = s.desk.settings := settings_make s m
    have hdisk : (s.make m).desk.disk = s.desk.disk := (disk_and_gate_make s m).1
    have hrest := ih (s := s.make m)
    unfold Finds at hrest ⊢
    rw [hsettings, hdisk] at hrest
    simp only [gather, List.mem_append, Option.mem_toList, exists_or, or_and_right, hrest]
    refine or_congr ?_ Iff.rfl
    simp only [takes?_eq_some_iff]

/-- A manifest is kept after a course in which nothing is forgotten only if it has been found along
the course, where none was kept before. -/
lemma finds_of_kept (hcache : s.desk.settings.cacheManifest = true)
    (hforgets : .motion .invalidate ∉ ms) (hnone : s.desk.kept = none) {manifest : Manifest}
    (h : (s.after ms).desk.kept = some manifest) : s.Finds ms manifest := by
  rw [kept_after hcache hforgets, hnone, Option.or_none] at h
  obtain ⟨⟨t, manifest'⟩, hlast, rfl⟩ := Option.map_eq_some_iff.1 h
  exact exists_takes_iff.1 ⟨t, List.mem_of_getLast? hlast⟩

/-- No manifest is kept after a course in which nothing is forgotten if and only if none has been
found along it, where none was kept before. -/
lemma kept_eq_none_iff (hcache : s.desk.settings.cacheManifest = true)
    (hforgets : .motion .invalidate ∉ ms) (hnone : s.desk.kept = none) :
    (s.after ms).desk.kept = none ↔ ∀ manifest, ¬s.Finds ms manifest := by
  rw [kept_after hcache hforgets, hnone, Option.or_none, Option.map_eq_none_iff,
    List.getLast?_eq_none_iff, List.eq_nil_iff_forall_not_mem]
  simp only [← exists_takes_iff, not_exists, Prod.forall]
  exact forall_comm

/-- An answer in which no manifest is read leaves what is kept as it is. -/
lemma kept_make_of_learns? (hcache : s.desk.settings.cacheManifest = true)
    {e : TaskId × Answer} (h : s.learns? m = some e) (hnone : s.desk.given? e.2 = none) :
    (s.make m).desk.kept = s.desk.kept := by
  have hm : m ≠ .motion .invalidate := by
    rintro rfl
    cases h
  have htakes : s.takes? m = none := by
    rw [takes?, h, Option.bind_some, hnone]
    rfl
  rw [(filing_make hcache hm).kept, htakes]
  rfl

/-! ## The law -/

/-- A course that has made a session forget, in its last move or by its beginning, leaves no
manifest. -/
lemma kept_after_of_forgets (h : s.desk.kept = none)
    (hms : ms = [] ∨ ms.getLast? = some (.motion .invalidate)) :
    (s.after ms).desk.kept = none := by
  rcases hms with rfl | hlast
  · exact h
  · obtain ⟨before, rfl⟩ := List.getLast?_eq_some_iff.1 hlast
    rw [after, List.foldl_append]
    rfl

/-- What a session remembers of the files of the project, along every course:

* every answer about the files is heard by a task that has called the linter for them itself;
* if the session does not keep manifests, it never has one, and the calls are those of the tasks
  that consult the list of files, one for each;
* if it keeps them, the manifest that it has is read in the output of a call that came to its end,
  and whose answer was heard since manifests were last forgotten; an answer in which none can be
  read changes nothing; and a task that consults the list of files calls the linter if and only if
  no manifest has been found since. -/
theorem remembered (settings : Settings) (disk : Disk) (gate : Gate)
    (entries : List (String × List Diagnostic)) (runner : Runner) :
    let s₀ := opening settings disk gate entries runner
    (∀ ms, ∀ e ∈ s₀.gather learns? ms, ∃ c ∈ (s₀.after ms).infoCalls, c.task = e.1) ∧
    (settings.cacheManifest = false → ∀ ms,
      (s₀.after ms).desk.kept = none ∧
      (s₀.after ms).infoCalls.map (·.task) = s₀.gather consults? ms ∧
      (s₀.gather consults? ms).Nodup) ∧
    (settings.cacheManifest = true → ∀ before since,
      (before = [] ∨ before.getLast? = some (.motion .invalidate)) →
      .motion .invalidate ∉ since →
      let s₁ := s₀.after before
      let s := s₁.after since
      (∀ manifest, s.desk.kept = some manifest → s₁.Finds since manifest) ∧
      (∀ m t a, s.learns? m = some (t, a) →
        (∀ o, a = .finished o → ∀ manifest,
          Manifest.ofOutput disk settings.workingRoot o.text ≠ .ok manifest) →
        (s.make m).desk.kept = s.desk.kept) ∧
      ∀ m t, s.consults? m = some t →
        ((∀ manifest, ¬s₁.Finds since manifest) →
          (s.make m).infoCalls = s.infoCalls ++ [s.infoCall t]) ∧
        ((∃ manifest, s₁.Finds since manifest) → (s.make m).infoCalls = s.infoCalls)) := by
  intro s₀
  have hnone : s₀.desk.kept = none := rfl
  refine ⟨?_, ?_, ?_⟩
  · intro ms e he
    have hcalls : (s₀.after ms).infoCalls = s₀.gather asks? ms := infoCalls_course s₀ ms
    rw [hcalls]
    refine (origin he).resolve_left ?_
    rintro ⟨task, p, htask, -⟩
    cases htask
  · intro hcache ms
    obtain ⟨hkept, hcalls⟩ := course_of_not_cached (s := s₀) hcache hnone ms
    have hcalls : (s₀.after ms).infoCalls.map (·.task) = s₀.gather consults? ms := hcalls
    refine ⟨hkept, hcalls, ?_⟩
    rw [← hcalls, List.nodup_iff_count_le_one]
    intro t
    rw [count_infoCalls]
    exact callsOf_after_le rfl rfl ms t .info
  · intro hcache before since hbefore hsince s₁ s
    have hsettings₁ : s₁.desk.settings = settings := settings_after s₀ before
    have hsettings : s.desk.settings = settings := (settings_after s₁ since).trans hsettings₁
    have hdisk : s.desk.disk = disk :=
      (disk_and_gate_after s₁ since).1.trans (disk_and_gate_after s₀ before).1
    have hcache₁ : s₁.desk.settings.cacheManifest = true := hsettings₁ ▸ hcache
    have hcache₂ : s.desk.settings.cacheManifest = true := hsettings ▸ hcache
    have hnone₁ : s₁.desk.kept = none := kept_after_of_forgets hnone hbefore
    have hkept? : s.desk.kept? = s.desk.kept := if_pos hcache₂
    refine ⟨fun manifest => finds_of_kept hcache₁ hsince hnone₁, ?_, ?_⟩
    · intro m t a hlearns hunread
      refine kept_make_of_learns? hcache₂ hlearns (Option.eq_none_iff_forall_ne_some.2 ?_)
      intro manifest hgiven
      obtain ⟨o, ha, hm⟩ := given?_eq_some_iff.1 hgiven
      rw [hdisk, hsettings] at hm
      exact hunread o ha manifest hm
    · intro m t hconsults
      have hiff := kept_eq_none_iff hcache₁ hsince hnone₁
      rw [infoCalls_make_of_consults hconsults, hkept?]
      constructor
      · intro hfinds
        rw [hiff.2 hfinds]
        rfl
      · rintro ⟨manifest, hfinds⟩
        obtain ⟨kept, hkept⟩ :=
          Option.ne_none_iff_exists'.1 fun h => hiff.1 h manifest hfinds
        rw [hkept]
        rfl

/-- A call that fails is not remembered: the next task calls the linter again, and finds a manifest
that saves the call of the one after it.  Where manifests are not kept, each of them calls. -/
theorem remembered_after_failure :
    let settings (cacheManifest : Bool) : Settings := {
      workingRoot := .ofNames ["proj"], timeout := none, cacheManifest }
    let disk : Disk := { entries := [], workingPlace := ["proj"] }
    let files := "\x7b\"config\": \x7b\"files\": [\"lib/a.ex\"]\x7d\x7d"
    let runner : Runner := fun _ number => {
      held := false
      answer := fun r => if number == 2 then .failed (.spawnFailed r.command "no such file") else
        .finished { text := files, returnCode := 0 } }
    let s₀ (cacheManifest : Bool) := opening (settings cacheManifest) disk .manifest [] runner
    let before : List Move := [.motion .manifest, .motion (.wake 0 .start), .motion .invalidate]
    let failing : List Move := [.motion .manifest, .motion (.wake 1 .start), .motion .manifest]
    let finding : List Move := failing ++ [.motion (.wake 2 .start), .motion .manifest]
    let s := ((s₀ true).after before).after failing
    let s' := ((s₀ true).after before).after finding
    (s.make (.motion (.wake 2 .start))).infoCalls = s.infoCalls ++ [s.infoCall 2] ∧
      (s'.make (.motion (.wake 3 .start))).infoCalls = s'.infoCalls ∧
      ((s₀ false).after (before ++ finding)).infoCalls.map (·.task) = [0, 1, 2] := by
  intro settings disk files runner s₀ before failing finding s s'
  have hbefore : before = [] ∨ before.getLast? = some (.motion .invalidate) := .inr rfl
  have hfailing : Move.motion .invalidate ∉ failing := by simp [failing]
  have hfinding : Move.motion .invalidate ∉ finding := by simp [finding, failing]
  have hnone : ((s₀ true).after before).desk.kept = none := by decide +kernel
  have hcache : ((s₀ true).after before).desk.settings.cacheManifest = true := by
    rw [settings_after]
    rfl
  obtain ⟨-, -, hcached⟩ := remembered (settings true) disk .manifest [] runner
  obtain ⟨-, hcourse, -⟩ := remembered (settings false) disk .manifest [] runner
  refine ⟨?_, ?_, ?_⟩
  · obtain ⟨-, -, hcalls⟩ := hcached rfl before failing hbefore hfailing
    refine (hcalls _ 2 (by decide +kernel)).1 ?_
    exact (kept_eq_none_iff hcache hfailing hnone).1 (by decide +kernel)
  · obtain ⟨-, -, hcalls⟩ := hcached rfl before finding hbefore hfinding
    refine (hcalls _ 3 (by decide +kernel)).2 ?_
    by_contra hfinds
    have hkept : s'.desk.kept = none :=
      (kept_eq_none_iff hcache hfinding hnone).2 (not_exists.1 hfinds)
    have hsome : s'.desk.kept.isNone = false := by decide +kernel
    rw [hkept] at hsome
    cases hsome
  · obtain ⟨-, hcalls, -⟩ := hcourse rfl (before ++ finding)
    rw [hcalls]
    decide +kernel

end Session

end LintRelay
