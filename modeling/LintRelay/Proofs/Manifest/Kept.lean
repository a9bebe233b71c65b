import LintRelay.Proofs.Session.Apart

/-!
# The manifest that is kept

A session that keeps manifests asks the linter for the files of the project only while it keeps
none.  A task that begins with such a call makes it in its first move (`Session.asks?`), and hears
the answer then or later (`Session.learns?`).  If the answer can be read, the session keeps the
manifest in it (`Session.takes?`), in the place of the one that it kept.

`filed_make` says of every move but `invalidate` that it adds the call that is made in it, and no
other, to the calls for the files of the project, and changes the manifest that is kept to the one
that is stored, and not otherwise.  A session that keeps manifests stores what is taken in
(`filing_make`), and any other session stores nothing.
-/

namespace LintRelay

namespace Desk

variable {d : Desk}

/-- The manifest in the linter's answer about the files of the project, if it can be read. -/
def given? (d : Desk) : Answer → Option Manifest
  | .finished o => (Manifest.ofOutput d.disk d.settings.workingRoot o.text).toOption
  | _ => none

/-- The manifest that is kept from the linter's answer about the files of the project: the one in
it, if manifests are kept. -/
def stored? (d : Desk) (a : Answer) : Option Manifest :=
  if d.settings.cacheManifest then d.given? a else none

/-- A desk that keeps manifests stores what it is given. -/
lemma stored?_of_cached (hcache : d.settings.cacheManifest = true) (a : Answer) :
    d.stored? a = d.given? a := by
  rw [stored?, if_pos hcache]

/-- Whether a job begins with a call for the files of the project. -/
def asks (d : Desk) : Job → Bool
  | .lint document _ =>
    decide (document.languageId = d.settings.languageId) && decide (d.gate = .manifest) &&
      d.kept?.isNone
  | .manifest => d.kept?.isNone
  | .eligible _ => decide (d.gate = .manifest) && d.kept?.isNone
  | .drain => false

/-! ### What the moves of a task keep -/

/-- A manifest that is taken in is kept if manifests are kept. -/
lemma kept_keep (d : Desk) (m : Manifest) :
    (d.keep m).kept = if d.settings.cacheManifest then some m else d.kept := by
  unfold keep
  split <;> rfl

/-- A desk keeps the manifest that it stores from the linter's answer, or else the one that it kept.
-/
lemma kept_manifestOf (d : Desk) (a : Answer) :
    (d.manifestOf a).1.kept = (d.stored? a).or d.kept := by
  unfold stored?
  cases a with
  | finished o =>
    unfold manifestOf given?
    dsimp only
    cases Manifest.ofOutput d.disk d.settings.workingRoot o.text with
    | ok m =>
      rw [kept_keep]
      change (if d.settings.cacheManifest then some m else d.kept) =
        (if d.settings.cacheManifest then some m else none).or d.kept
      split <;> rfl
    | error e => exact (ite_self (none : Option Manifest)).symm ▸ rfl
  | failed f => exact (ite_self (none : Option Manifest)).symm ▸ rfl
  | crashed message => exact (ite_self (none : Option Manifest)).symm ▸ rfl

/-- Looking a path up in a manifest leaves the kept one alone. -/
lemma kept_verdict (d : Desk) (path : Path) (m : Except Breakdown Manifest) :
    (d.verdict path m).1.kept = d.kept := by
  unfold verdict
  split
  · split <;> rfl
  · rfl
  · rfl

/-- Judging leaves the kept manifest alone. -/
lemma kept_judged (d : Desk) (q : Question) (v : Except Breakdown Bool) :
    (d.judged q v).1.kept = d.kept := by
  cases v with
  | error b => rfl
  | ok eligible =>
    cases q with
    | eligible path => rfl
    | lint document g =>
      unfold judged judgedLint
      cases eligible with
      | false => rfl
      | true =>
        dsimp only
        split <;> rfl

/-- Going on with a manifest leaves the kept one alone. -/
lemma kept_informed (d : Desk) (m : Except Breakdown Manifest) (p : Purpose) :
    (d.informed m p).1.kept = d.kept := by
  cases p with
  | manifest => cases m <;> rfl
  | question q => exact (kept_judged _ q _).trans (kept_verdict d q.path m)

/-- Behind the linter's answer about the files of the project a desk keeps what it stores. -/
lemma kept_listed (d : Desk) (p : Purpose) (a : Answer) :
    (d.listed p a).1.kept = (d.stored? a).or d.kept :=
  (kept_informed _ _ p).trans (kept_manifestOf d a)

/-- Publishing leaves the kept manifest alone. -/
lemma kept_publish (d : Desk) (document : Document) (g : Int) (r : Report) (returnCode : Int) :
    (d.publish document g r returnCode).1.kept = d.kept := by
  unfold publish
  dsimp only
  split
  · split <;> rfl
  · rfl

/-- The last move of a lint leaves the kept manifest alone. -/
lemma kept_checked (d : Desk) (document : Document) (g : Int) (a : Answer) :
    (d.checked document g a).1.kept = d.kept := by
  cases a with
  | finished o =>
    unfold checked
    dsimp only
    split
    · exact kept_publish _ document g _ _
    · rfl
  | failed f => rfl
  | crashed message => rfl

/-! ### What a task begins with -/

/-- How a task stands behind its first move with regard to the files of the project: the kept
manifest is as it was, and the task asks for the files or is further on. -/
structure Opens (d : Desk) (asks : Bool) (r : Desk × Opening) : Prop where
  kept : r.1.kept = d.kept
  settings : r.1.settings = d.settings
  disk : r.1.disk = d.disk
  opening : if asks then ∃ p, r.2 = .list p else ∃ o, r.2 = .onward o

/-- A task that asks for the files of the project calls the linter if no manifest is kept. -/
lemma opens_inquire (d : Desk) (p : Purpose) : d.Opens d.kept?.isNone (d.inquire p) := by
  have hstill := still_inquire d p
  refine ⟨?_, hstill.settings, hstill.disk, ?_⟩
  · unfold inquire
    split
    · exact kept_informed d _ p
    · rfl
  · unfold inquire
    cases d.kept? with
    | none => exact ⟨p, rfl⟩
    | some m => exact ⟨_, rfl⟩

/-- A task that asks about a path calls the linter if it is judged by a manifest and none is kept.
-/
lemma opens_vet (d : Desk) (q : Question) :
    d.Opens (decide (d.gate = .manifest) && d.kept?.isNone) (d.vet q) := by
  unfold vet
  cases hgate : d.gate with
  | manifest => exact opens_inquire d (.question q)
  | fixed eligible =>
    have hstill := still_judged d q (.ok eligible)
    exact ⟨kept_judged d q _, hstill.settings, hstill.disk, _, rfl⟩
  | broken message =>
    have hstill := still_judged d q (.error (.crashed message))
    exact ⟨kept_judged d q _, hstill.settings, hstill.disk, _, rfl⟩

/-- A lint calls the linter for the files of the project if its document is in the language of the
session, and is judged by a manifest, and none is kept. -/
lemma opens_beginLint (d : Desk) (document : Document) (given : Option Int) :
    d.Opens (d.asks (.lint document given)) (d.beginLint document given) := by
  by_cases hlanguage : document.languageId = d.settings.languageId
  · have hasks : d.asks (.lint document given) =
        (decide (d.gate = .manifest) && d.kept?.isNone) := by
      simp [asks, hlanguage]
    rw [hasks]
    cases given with
    | some g =>
      rw [beginLint_given hlanguage]
      exact opens_vet d _
    | none =>
      rw [beginLint_next hlanguage]
      obtain ⟨hkept, hsettings, hdisk, hopening⟩ := opens_vet (d.advance document.uri)
        (.lint document (d.generation document.uri + 1))
      exact ⟨hkept, hsettings, hdisk, hopening⟩
  · have hasks : d.asks (.lint document given) = false := by simp [asks, hlanguage]
    rw [hasks, beginLint_skipped hlanguage]
    exact ⟨rfl, rfl, rfl, _, rfl⟩

end Desk

namespace Session

/-! ## What a move does about the files of the project -/

/-- The calls for the files of the project that have been made. -/
def infoCalls (s : Session) : List Call :=
  s.calls.filter (·.request.mode == .info)

/-- The call for the files of the project that a task makes next. -/
def infoCall (s : Session) (t : TaskId) : Call where
  number := s.nextNumber .info
  request := s.desk.settings.infoRequest
  task := t

/-- The call for the files of the project that is made in a move. -/
def asks? (s : Session) : Move → Option Call
  | .motion (.wake t .start) =>
    match s.tasks[t]? with
    | some { job, stage := .fresh, cancelling := false, .. } =>
      if s.desk.asks job then some (s.infoCall t) else none
    | _ => none
  | _ => none

/-- The answer to the next call for the files of the project, if it need not be waited for. -/
def infoAnswer? (s : Session) : Option Answer :=
  if (s.reply s.desk.settings.infoRequest).held then none
  else some ((s.reply s.desk.settings.infoRequest).answer s.desk.settings.infoRequest)

/-- The task that hears the linter's answer about the files of the project in a move, and the
answer: it has waited for it, or makes the call then and the answer is there at once. -/
def learns? (s : Session) (m : Move) : Option (TaskId × Answer) :=
  match m with
  | .motion (.wake t (.answer a)) =>
    match s.tasks[t]? with
    | some { stage := .listing _, cancelling := false, .. } => some (t, a)
    | _ => none
  | m => (s.asks? m).bind fun c => s.infoAnswer?.map (c.task, ·)

/-- The manifest that is taken in in a move, and the task that hears it. -/
def takes? (s : Session) (m : Move) : Option (TaskId × Manifest) :=
  (s.learns? m).bind fun e => (s.desk.given? e.2).map (e.1, ·)

/-- The manifest that is kept from then on in a move, and the task that hears it. -/
def stores? (s : Session) (m : Move) : Option (TaskId × Manifest) :=
  (s.learns? m).bind fun e => (s.desk.stored? e.2).map (e.1, ·)

/-- What has been done about the files of the project: calls that have been made, and a manifest
that has been stored. -/
structure Filing (s s' : Session) (call : Option Call) (stored : Option Manifest) : Prop where
  calls : s'.infoCalls = s.infoCalls ++ call.toList
  kept : s'.desk.kept = stored.or s.desk.kept

variable {s s' : Session} {t : TaskId} {task : Task}

/-- A session that keeps manifests stores what is taken in. -/
lemma stores?_of_cached (hcache : s.desk.settings.cacheManifest = true) (m : Move) :
    s.stores? m = s.takes? m := by
  simp only [stores?, takes?, Desk.stored?_of_cached hcache]

/-- Nothing has been done where the calls and the kept manifest are as they were. -/
lemma filing_of_eq (hcalls : s'.calls = s.calls) (hkept : s'.desk.kept = s.desk.kept) :
    Filing s s' none none := by
  refine ⟨?_, hkept⟩
  rw [infoCalls, hcalls]
  exact (List.append_nil _).symm

/-- The call for the files of the project is the only one that counts among them. -/
lemma infoCalls_noting_list (s : Session) (t : TaskId) (text : String) :
    (s.noting t (s.desk.settings.listRequest text)).infoCalls = s.infoCalls := by
  simp [infoCalls, noting, Settings.listRequest]

/-- The call for the files of the project comes last among them. -/
lemma infoCalls_noting_info (s : Session) (t : TaskId) :
    (s.noting t s.desk.settings.infoRequest).infoCalls = s.infoCalls ++ [s.infoCall t] := by
  simp [infoCalls, noting, infoCall, Settings.infoRequest]

/-- Behind its eligibility step a task does nothing about the files of the project. -/
lemma filing_goOn (s : Session) (t : TaskId) (o : Onward) : Filing s (s.goOn t o) none none := by
  cases o with
  | ended r => exact filing_of_eq rfl rfl
  | check document g =>
    have hcalls := infoCalls_noting_list s t document.text
    rw [goOn_check]
    split
    · exact ⟨hcalls.trans (List.append_nil _).symm, rfl⟩
    · rw [closeCheck_eq]
      exact ⟨hcalls.trans (List.append_nil _).symm, Desk.kept_checked s.desk document g _⟩

/-- Behind the linter's answer about the files of the project what is stored from it is kept. -/
lemma filing_closeListing (s : Session) (t : TaskId) (p : Purpose) (a : Answer) :
    Filing s (s.closeListing t p a) none (s.desk.stored? a) := by
  rw [closeListing_eq]
  obtain ⟨hcalls, hkept⟩ :=
    filing_goOn (s.onDesk fun d => (d.listed p a).1) t (s.desk.listed p a).2
  exact ⟨hcalls, hkept.trans (Desk.kept_listed s.desk p a)⟩

/-- A task that calls the linter for the files of the project makes this call, and what is stored
from the answer is kept if it need not wait for it. -/
lemma filing_follow_list (s : Session) (t : TaskId) (p : Purpose) :
    Filing s (s.follow t (.list p)) (some (s.infoCall t))
      (s.infoAnswer?.bind s.desk.stored?) := by
  have hcalls := infoCalls_noting_info s t
  unfold infoAnswer?
  rw [follow_list]
  split
  · exact ⟨hcalls, rfl⟩
  · obtain ⟨hcalls', hkept⟩ := filing_closeListing
      (s.noting t s.desk.settings.infoRequest) t p
      ((s.reply s.desk.settings.infoRequest).answer s.desk.settings.infoRequest)
    refine ⟨?_, hkept⟩
    rw [hcalls', hcalls]
    exact List.append_nil _

/-- Behind its first move a task calls the linter for the files of the project or does nothing about
them. -/
lemma filing_follow (t : TaskId) {asks : Bool} {r : Desk × Opening} (h : s.desk.Opens asks r) :
    Filing s ({ s with desk := r.1 }.follow t r.2) (if asks then some (s.infoCall t) else none)
      (if asks then s.infoAnswer?.bind s.desk.stored? else none) := by
  obtain ⟨hkept, hsettings, hdisk, hopening⟩ := h
  cases asks with
  | true =>
    obtain ⟨p, hp⟩ := hopening
    have hfiling := filing_follow_list { s with desk := r.1 } t p
    have hstored : r.1.stored? = s.desk.stored? := by
      unfold Desk.stored? Desk.given?
      rw [hsettings, hdisk]
    have hcall : infoCall { s with desk := r.1 } t = s.infoCall t := by
      unfold infoCall
      rw [hsettings]
      rfl
    have hanswer : infoAnswer? { s with desk := r.1 } = s.infoAnswer? := by
      unfold infoAnswer?
      rw [hsettings]
      rfl
    rw [hstored, hcall, hanswer] at hfiling
    rw [hp]
    exact ⟨hfiling.calls, hfiling.kept.trans (by rw [hkept]; rfl)⟩
  | false =>
    obtain ⟨o, ho⟩ := hopening
    obtain ⟨hcalls, hkept'⟩ := filing_goOn { s with desk := r.1 } t o
    rw [ho]
    exact ⟨hcalls, hkept'.trans hkept⟩

/-- A task that begins calls the linter for the files of the project if its job begins so. -/
lemma filing_begin (s : Session) (t : TaskId) (job : Job) :
    Filing s (s.begin t job) (if s.desk.asks job then some (s.infoCall t) else none)
      (if s.desk.asks job then s.infoAnswer?.bind s.desk.stored? else none) := by
  cases job with
  | lint document given => exact filing_follow t (Desk.opens_beginLint s.desk document given)
  | manifest => exact filing_follow t (Desk.opens_inquire s.desk .manifest)
  | eligible path => exact filing_follow t (Desk.opens_vet s.desk (.eligible path))
  | drain =>
    unfold begin
    dsimp only
    split <;> exact filing_of_eq rfl rfl

/-- A task that does not go on makes no call for the files of the project. -/
lemma asks?_of_idle {w : Wake} (h : ∀ task, s.tasks[t]? = some task → task.heeds w = false) :
    s.asks? (.motion (.wake t w)) = none := by
  cases w with
  | start =>
    simp only [asks?]
    split
    · next htask => cases h _ htask
    · rfl
  | _ => rfl

/-- A task that does not go on hears nothing about the files of the project. -/
lemma learns?_of_idle {w : Wake} (h : ∀ task, s.tasks[t]? = some task → task.heeds w = false) :
    s.learns? (.motion (.wake t w)) = none := by
  cases w with
  | start => simp only [learns?, asks?_of_idle h, Option.bind_none]
  | answer a =>
    simp only [learns?]
    split
    · next htask => cases h _ htask
    · rfl
  | abort => rfl

/-- The call for the files of the project of a task that begins. -/
lemma asks?_of_fresh (h : s.tasks[t]? = some task) (hstage : task.stage = .fresh)
    (hcancelling : task.cancelling = false) :
    s.asks? (.motion (.wake t .start)) =
      if s.desk.asks task.job then some (s.infoCall t) else none := by
  obtain ⟨job, scheduledFor, stage, cancelling⟩ := task
  subst hstage hcancelling
  simp only [asks?, h]

/-- A task that waits for the files of the project hears the answer that it is woken with. -/
lemma learns?_of_listing {p : Purpose} {a : Answer} (h : s.tasks[t]? = some task)
    (hstage : task.stage = .listing p) (hcancelling : task.cancelling = false) :
    s.learns? (.motion (.wake t (.answer a))) = some (t, a) := by
  obtain ⟨job, scheduledFor, stage, cancelling⟩ := task
  subst hstage hcancelling
  simp only [learns?, h]

/-- What is put in pairs is what can be taken out of them. -/
lemma map_snd_map_mk {α β : Type} (a : α) (o : Option β) : (o.map (a, ·)).map (·.2) = o := by
  cases o <;> rfl

/-- A task that is woken calls the linter for the files of the project, and a manifest is stored,
just as it is to be seen. -/
lemma filed_wake (s : Session) (t : TaskId) (w : Wake) :
    Filing s (s.wake t w).1 (s.asks? (.motion (.wake t w)))
      ((s.stores? (.motion (.wake t w))).map (·.2)) := by
  have hwaking := waking s t w
  generalize (s.wake t w).1 = s' at hwaking ⊢
  have hidle : (∀ task, s.tasks[t]? = some task → task.heeds w = false) →
      s'.calls = s.calls → s'.desk.kept = s.desk.kept →
      Filing s s' (s.asks? (.motion (.wake t w)))
        ((s.stores? (.motion (.wake t w))).map (·.2)) := by
    intro h hcalls hkept
    have hstores : s.stores? (.motion (.wake t w)) = none := by rw [stores?, learns?_of_idle h]; rfl
    rw [asks?_of_idle h, hstores]
    exact filing_of_eq hcalls hkept
  cases hwaking with
  | idle h => exact hidle h rfl rfl
  | cancelled htask _ hheeds =>
    exact hidle (fun task h => by rw [htask] at h; cases h; exact hheeds) rfl rfl
  | @begun task htask hstage hcancelling =>
    have hasks := asks?_of_fresh htask hstage hcancelling
    have hstores : (s.stores? (.motion (.wake t .start))).map (·.2) =
        if s.desk.asks task.job then s.infoAnswer?.bind s.desk.stored? else none := by
      simp only [stores?, learns?, hasks]
      cases s.desk.asks task.job with
      | false => rfl
      | true =>
        cases s.infoAnswer? with
        | none => rfl
        | some a => exact map_snd_map_mk _ (s.desk.stored? a)
    rw [hasks, hstores]
    exact filing_begin s t task.job
  | @listed task p a htask hstage hcancelling =>
    have hstores : (s.stores? (.motion (.wake t (.answer a)))).map (·.2) = s.desk.stored? a := by
      rw [stores?, learns?_of_listing htask hstage hcancelling]
      exact map_snd_map_mk t (s.desk.stored? a)
    rw [hstores]
    exact filing_closeListing s t p a
  | @checked task document g a htask hstage hcancelling =>
    obtain ⟨job, scheduledFor, stage, cancelling⟩ := task
    subst hstage
    have hstores : s.stores? (.motion (.wake t (.answer a))) = none := by
      simp only [stores?, learns?, htask, Option.bind_none]
    rw [hstores]
    exact filing_of_eq rfl (Desk.kept_checked s.desk document g a)

/-- In a session that keeps manifests, a task that is woken calls the linter for the files of the
project and takes in a manifest just as it is to be seen. -/
lemma filing_wake (hcache : s.desk.settings.cacheManifest = true) (t : TaskId) (w : Wake) :
    Filing s (s.wake t w).1 (s.asks? (.motion (.wake t w)))
      ((s.takes? (.motion (.wake t w))).map (·.2)) := by
  rw [← stores?_of_cached hcache]
  exact filed_wake s t w

/-- Asking a task to cancel does nothing about the files of the project. -/
lemma filing_cancel (s : Session) (t : TaskId) : Filing s (s.cancel t) none none := by
  unfold cancel
  split
  · exact filing_of_eq rfl rfl
  · split <;> exact filing_of_eq rfl rfl

/-- Scheduling a lint does nothing about the files of the project. -/
lemma filing_schedule (s : Session) (document : Document) :
    Filing s (s.schedule document).1 none none := by
  have hsupersede : Filing s (s.supersede document.uri) none none := by
    unfold supersede
    split
    · exact filing_of_eq rfl rfl
    · split
      · exact filing_of_eq rfl rfl
      · obtain ⟨hcalls, hkept⟩ := filing_cancel s _
        exact ⟨hcalls, hkept⟩
  unfold schedule
  split
  · exact filing_of_eq rfl rfl
  · obtain ⟨hcalls, hkept⟩ := hsupersede
    exact ⟨hcalls, hkept⟩

/-- Taking note of the end of a task does nothing about the files of the project. -/
lemma filing_settle (s : Session) (t : TaskId) : Filing s (s.settle t) none none := by
  unfold settle
  split
  · dsimp only
    split
    · split <;> exact filing_of_eq rfl rfl
    · split <;> exact filing_of_eq rfl rfl
  · exact filing_of_eq rfl rfl

/-- Tasks that look round do nothing about the files of the project. -/
lemma filing_look (s : Session) (t : TaskId) : Filing s (s.look t) none none := by
  unfold look
  split
  · split
    · unfold begin
      dsimp only
      split <;> exact filing_of_eq rfl rfl
    · exact filing_of_eq rfl rfl
  · exact filing_of_eq rfl rfl

/-- In every move but the one in which the kept manifest is forgotten, calls for the files of the
project are made and manifests are stored just as it is to be seen. -/
theorem filed_make {m : Move} (hm : m ≠ .motion .invalidate) :
    Filing s (s.make m) (s.asks? m) ((s.stores? m).map (·.2)) := by
  cases m with
  | lint document => exact filing_of_eq rfl rfl
  | schedule document => exact filing_schedule s document
  | motion m =>
    cases m with
    | invalidate => exact absurd rfl hm
    | cancel t => exact filing_cancel s t
    | wake t w => exact filed_wake s t w
    | settle t => exact filing_settle s t
    | look t => exact filing_look s t
    | _ => exact filing_of_eq rfl rfl

/-- A session that keeps manifests stores the manifest that is taken in in a move. -/
theorem filing_make (hcache : s.desk.settings.cacheManifest = true) {m : Move}
    (hm : m ≠ .motion .invalidate) :
    Filing s (s.make m) (s.asks? m) ((s.takes? m).map (·.2)) := by
  rw [← stores?_of_cached hcache]
  exact filed_make hm

end Session

end LintRelay
