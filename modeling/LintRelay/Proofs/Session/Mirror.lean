import LintRelay.Proofs.Session.Aside

/-!
# Mirrors of tasks

The own tasks of a session can be put into a session of their own, in the same order.  A session
*mirrors* the own tasks of another if they stand there as they stand here (`Session.Mirrors`).
Whatever an own task does can be done in the mirror as well, and the mirror stays one
(`Mirrors.wake`, `Mirrors.cancel`, `Mirrors.settle`, `Mirrors.schedule`).  It also stays one when
the own tasks are passed by, though nothing is done in it (`Mirrors.aside`).

The calls of the linter are counted, so an own task makes a call under another number in the mirror.
The linter there has to reply to the first, second, third call of the own tasks what it replies to
them here (`Runner.among`); which calls these are is read off the list of all calls that are ever
made.
-/

namespace LintRelay

variable {own : TaskId → Bool} {t u : TaskId}

/-- The linter as own tasks meet it if they are by themselves: it replies to their calls, in their
order, as it does among all the calls that are made. -/
def Runner.among (runner : Runner) (own : TaskId → Bool) (calls : List Call) : Runner :=
  fun mode number =>
    match (calls.filter fun c => c.request.mode == mode && own c.task)[number - 1]? with
    | some c => runner mode c.number
    | none => runner mode number

/-- A lint of a document in the language of the session begins as it has to. -/
lemma Desk.exists_suits_beginLint {d : Desk} {document : Document}
    (hlanguage : document.languageId = d.settings.languageId) (given : Option Int) :
    ∃ d' g, (d.beginLint document given).2.Suits d' document g := by
  cases given with
  | some g =>
    rw [beginLint_given hlanguage]
    exact ⟨d, g, vet_suits d document g⟩
  | none =>
    rw [beginLint_next hlanguage]
    exact ⟨_, _, vet_suits (d.advance document.uri) document _⟩

namespace Session

/-! ## Mirrors -/

/-- A session in which the own tasks of another stand, all of which lint a document, where `calls`
are all calls that are ever made there. -/
structure Mirrors (own : TaskId → Bool) (calls : List Call) (uri : String) (s p : Session) :
    Prop where
  desk : s.desk.Alike uri p.desk
  size : p.tasks.length = place own s.tasks.length
  task : ∀ t, own t = true → p.tasks[place own t]? = s.tasks[t]?
  table : p.table.lookup uri = (s.table.lookup uri).map (place own)
  waits : ∀ t, own t = true → p.waits (place own t) = s.waits t
  requests : p.calls.map (·.request) = (s.calls.filter (own ·.task)).map (·.request)
  runner : p.runner = s.runner.among own calls

variable {calls : List Call} {uri : String} {s s' p : Session} {document : Document} {g : Int}

/-- A mirror of own tasks stays one when they are passed by. -/
lemma Mirrors.aside (h : Mirrors own calls uri s p) (haside : Aside own uri s s') :
    Mirrors own calls uri s' p where
  desk := haside.desk.symm.trans h.desk
  size := h.size.trans haside.size.symm
  task t ht := (h.task t ht).trans (haside.task t ht).symm
  table := by rw [haside.table, h.table]
  waits t ht := (h.waits t ht).trans (haside.waits t ht).symm
  requests := by rw [haside.calls, h.requests]
  runner := by rw [haside.runner, h.runner]

/-! ## What an own task does -/

/-- The desks may be changed if they stay alike. -/
lemma Mirrors.withDesk (h : Mirrors own calls uri s p) {d e : Desk} (hdesk : d.Alike uri e) :
    Mirrors own calls uri { s with desk := d } { p with desk := e } :=
  { h with desk := hdesk }

/-- An own task may be changed in the same way in the mirror. -/
lemma Mirrors.onTask (h : Mirrors own calls uri s p) (hown : own t = true) (f : Task → Task) :
    Mirrors own calls uri (s.onTask t f) (p.onTask (place own t) f) :=
  { h with
    size := by
      simp only [Session.onTask, List.length_modify]
      exact h.size
    task := fun u hu => by
      simp only [Session.onTask, List.getElem?_modify, h.task u hu, place_inj hown hu] }

/-- An own task ends in the mirror as well. -/
lemma Mirrors.finish (h : Mirrors own calls uri s p) (hown : own t = true) (r : TaskResult) :
    Mirrors own calls uri (s.finish t r) (p.finish (place own t) r) :=
  h.onTask hown _

/-- An own task makes a call in the mirror as well. -/
lemma Mirrors.noting (h : Mirrors own calls uri s p) (hown : own t = true) (r : Request) :
    Mirrors own calls uri (s.noting t r) (p.noting (place own t) r) :=
  { h with
    requests := by
      simp only [Session.noting, List.map_append, List.filter_append, h.requests]
      simp [hown] }

/-- An own task waits for a call in the mirror as well. -/
lemma Mirrors.holding (h : Mirrors own calls uri s p) (hown : own t = true) (r : Request)
    (stage : Stage) (a : Answer) :
    Mirrors own calls uri (s.holding t r stage a) (p.holding (place own t) r stage a) := by
  let held (s : Session) (t : TaskId) : Session :=
    { s.noting t r with
      waiting := s.waiting ++
        [{ task := t, mode := r.mode, number := s.nextNumber r.mode, answer := a }] }
  have hheld : Mirrors own calls uri (held s t) (held p (place own t)) :=
    { h.noting hown r with
      waits := fun u hu => by
        have hwaits : p.waiting.any (·.task == place own u) = s.waiting.any (·.task == u) :=
          h.waits u hu
        have hsame : (place own t == place own u) = (t == u) := by
          rw [Bool.eq_iff_iff, beq_iff_eq, beq_iff_eq]
          exact place_inj hown hu
        simp [held, Session.waits, List.any_append, hwaits, hsame] }
  exact hheld.onTask hown _

/-- An own task gets the same reply to a call in the mirror. -/
lemma Mirrors.reply (h : Mirrors own calls uri s p) (hown : own t = true) {r : Request}
    (hcalls : (s.noting t r).calls <+: calls) : p.reply r = s.reply r := by
  let counts (c : Call) : Bool := c.request.mode == r.mode && own c.task
  have hnumber : p.nextNumber r.mode - 1 = (s.calls.filter counts).length := by
    have hmodes : p.calls.countP (·.request.mode == r.mode) =
        (p.calls.map (·.request)).countP (·.mode == r.mode) := by
      rw [List.countP_map]
      rfl
    unfold nextNumber
    rw [Nat.add_sub_cancel, hmodes, h.requests, List.countP_map, List.countP_filter,
      List.countP_eq_length_filter]
    rfl
  obtain ⟨later, rfl⟩ := hcalls
  have hcall : ((s.noting t r).calls ++ later).filter counts = s.calls.filter counts ++
      { number := s.nextNumber r.mode, request := r, task := t } :: later.filter counts := by
    simp [Session.noting, counts, hown]
  unfold Session.reply
  rw [h.runner]
  unfold Runner.among
  rw [hnumber, hcall, List.getElem?_append_right (Nat.le_refl _), Nat.sub_self]
  rfl

/-- An own task ends with the linter's answer about its text in the mirror as well. -/
lemma Mirrors.closeCheck (h : Mirrors own calls uri s p) (hown : own t = true)
    (huri : document.uri = uri) (a : Answer) :
    Mirrors own calls uri (s.closeCheck t document g a)
      (p.closeCheck (place own t) document g a) := by
  obtain ⟨hresult, halike⟩ := h.desk.checked (g := g) huri a
  rw [closeCheck_eq, closeCheck_eq, hresult]
  exact (h.withDesk halike).finish hown _

/-- An own task goes on behind its eligibility step in the mirror as well. -/
lemma Mirrors.goOn (h : Mirrors own calls uri s p) (hown : own t = true) (huri : document.uri = uri)
    {d : Desk} {o : Onward} (ho : o.Suits d document g) (hcalls : (s.goOn t o).calls <+: calls) :
    Mirrors own calls uri (s.goOn t o) (p.goOn (place own t) o) := by
  cases o with
  | ended r => exact h.finish hown r
  | check document' g' =>
    obtain ⟨rfl, rfl, -⟩ := ho
    rw [calls_goOn_check] at hcalls
    have hreply := h.reply hown (r := s.desk.settings.listRequest document'.text) hcalls
    rw [goOn_check, goOn_check, h.desk.settings, hreply]
    split
    · exact h.holding hown _ _ _
    · exact (h.noting hown _).closeCheck hown huri _

/-- An own task goes on with the linter's answer about the files of the project in the mirror as
well. -/
lemma Mirrors.closeListing (h : Mirrors own calls uri s p) (hown : own t = true)
    (huri : document.uri = uri) {a : Answer}
    (hcalls : (s.closeListing t (.question (.lint document g)) a).calls <+: calls) :
    Mirrors own calls uri (s.closeListing t (.question (.lint document g)) a)
      (p.closeListing (place own t) (.question (.lint document g)) a) := by
  have hlisted := h.desk.listed (g := g) huri a
  have hstill := h.desk.of_still
    (Desk.still_listed s.desk (.question (.lint document g)) a)
    (Desk.still_listed p.desk (.question (.lint document g)) a)
  rw [closeListing_eq] at hcalls ⊢
  rw [closeListing_eq, hlisted]
  exact (h.withDesk hstill).goOn hown huri (Desk.listed_suits s.desk document g a) hcalls

/-- An own task goes on behind its first move in the mirror as well. -/
lemma Mirrors.follow (h : Mirrors own calls uri s p) (hown : own t = true)
    (huri : document.uri = uri) {d : Desk} {o : Opening} (ho : o.Suits d document g)
    (hcalls : (s.follow t o).calls <+: calls) :
    Mirrors own calls uri (s.follow t o) (p.follow (place own t) o) := by
  cases o with
  | onward o => exact h.goOn hown huri ho hcalls
  | list purpose =>
    obtain rfl : purpose = .question (.lint document g) := ho
    rw [follow_list] at hcalls ⊢
    have hnoted : (s.noting t s.desk.settings.infoRequest).calls <+: calls := by
      split at hcalls
      · exact hcalls
      · exact (works_closeListing t _ _ _).calls.trans hcalls
    have hreply := h.reply hown hnoted
    rw [follow_list, h.desk.settings, hreply]
    split
    · exact h.holding hown _ _ _
    · next hheld =>
      rw [if_neg hheld] at hcalls
      exact (h.noting hown _).closeListing hown huri hcalls

/-- An own task begins in the mirror as well. -/
lemma Mirrors.begin (h : Mirrors own calls uri s p) (hown : own t = true)
    (huri : document.uri = uri) (hlanguage : document.languageId = s.desk.settings.languageId)
    (hcache : s.desk.settings.cacheManifest = false) {given : Option Int}
    (hcalls : (s.begin t (.lint document given)).calls <+: calls) :
    Mirrors own calls uri (s.begin t (.lint document given))
      (p.begin (place own t) (.lint document given)) := by
  obtain ⟨hbegun, halike⟩ := h.desk.beginLint huri hcache given
  obtain ⟨d, g, hsuits⟩ := Desk.exists_suits_beginLint hlanguage given
  rw [begin_lint] at hcalls ⊢
  rw [begin_lint, hbegun]
  exact (h.withDesk halike).follow hown huri hsuits hcalls

/-- An own task that is woken is woken in the mirror as well. -/
theorem Mirrors.wake (h : Mirrors own calls uri s p) (hown : own t = true)
    (hlints : s.Lints t document) (huri : document.uri = uri)
    (hlanguage : document.languageId = s.desk.settings.languageId)
    (hcache : s.desk.settings.cacheManifest = false) {w : Wake}
    (hcalls : (s.wake t w).1.calls <+: calls) :
    Mirrors own calls uri (s.wake t w).1 (p.wake (place own t) w).1 := by
  obtain ⟨⟨job, scheduledFor, stage, cancelling⟩, htask, ⟨given, hjob⟩, hstage⟩ := hlints
  obtain rfl : job = .lint document given := hjob
  have hmirrored := (h.task t hown).trans htask
  simp only [Session.wake, htask] at hcalls ⊢
  simp only [hmirrored]
  split
  · exact h
  · next hlive =>
    rw [if_neg hlive] at hcalls
    unfold move at hcalls ⊢
    cases cancelling with
    | true => exact h.finish hown _
    | false =>
      cases w with
      | start =>
        cases stage with
        | fresh => exact h.begin hown huri hlanguage hcache hcalls
        | _ => exact h
      | answer a =>
        cases stage with
        | listing purpose =>
          obtain ⟨g, rfl⟩ := hstage
          exact h.closeListing hown huri hcalls
        | checking document' g =>
          obtain rfl : document' = document := hstage
          exact h.closeCheck hown huri a
        | _ => exact h
      | abort => exact h.finish hown _

/-- An own task that is asked to cancel is asked so in the mirror as well. -/
lemma Mirrors.cancel (h : Mirrors own calls uri s p) (hown : own t = true) :
    Mirrors own calls uri (s.cancel t) (p.cancel (place own t)) := by
  have hended : p.hasEnded (place own t) = s.hasEnded t := by
    unfold hasEnded
    rw [h.task t hown]
  have hwaits : p.waiting.any (·.task == place own t) = s.waiting.any (·.task == t) :=
    h.waits t hown
  unfold Session.cancel
  rw [hended, hwaits]
  split
  · exact h
  · split
    · refine { h with waits := fun u hu => ?_ }
      unfold Session.waits
      dsimp only
      by_cases htu : u = t
      · rw [htu, any_filter_task_self, any_filter_task_self]
      · have hplace : place own u ≠ place own t := fun heq => htu ((place_inj hu hown).1 heq)
        rw [any_filter_task_of_ne htu, any_filter_task_of_ne hplace]
        exact h.waits u hu
    · exact h.onTask hown _

/-- An own task whose call swallows the request to cancel does so in the mirror as well. -/
lemma Mirrors.swallow (h : Mirrors own calls uri s p) (hown : own t = true) :
    Mirrors own calls uri (s.swallow t) (p.swallow (place own t)) :=
  h.onTask hown _

/-- The end of an own task is taken note of in the mirror as well. -/
lemma Mirrors.settle (h : Mirrors own calls uri s p) (hown : own t = true)
    (hentry : ∀ u, s.table.lookup uri = some u → own u = true)
    (hscheduled : ∀ task other, s.tasks[t]? = some task → task.scheduledFor = some other →
      other = uri) :
    Mirrors own calls uri (s.settle t) (p.settle (place own t)) := by
  have hplaced : (p.table.lookup uri == some (place own t)) = (s.table.lookup uri == some t) := by
    rw [h.table]
    cases hlookup : s.table.lookup uri with
    | none => rfl
    | some u =>
      rw [Bool.eq_iff_iff, beq_iff_eq, beq_iff_eq, Option.map_some, Option.some.injEq,
        Option.some.injEq]
      exact place_inj (hentry u hlookup) hown
  have hremoved : Mirrors own calls uri
      (if s.table.lookup uri == some t then { s with table := Keyed.remove uri s.table } else s)
      (if s.table.lookup uri == some t then { p with table := Keyed.remove uri p.table }
        else p) := by
    split
    · refine { h with table := ?_ }
      rw [Keyed.lookup_remove_self, Keyed.lookup_remove_self]
      rfl
    · exact h
  have hmirrored := h.task t hown
  unfold Session.settle
  rw [hmirrored]
  split
  · next other r cancelling htask =>
    obtain rfl : other = uri := hscheduled _ other htask rfl
    dsimp only
    rw [hplaced]
    split
    · exact hremoved.withDesk (hremoved.desk.of_still (Desk.still_tell _ _) (Desk.still_tell _ _))
    · exact hremoved
  · exact h

/-- A task is added in the mirror as well, as the last of the own tasks. -/
lemma Mirrors.add (h : Mirrors own calls uri s p) (hown : own s.tasks.length = true) (job : Job)
    (scheduledFor : Option String) :
    Mirrors own calls uri (s.add job scheduledFor).1 (p.add job scheduledFor).1 := by
  refine { h with size := ?_, task := fun u hu => ?_ }
  · have hsize : place own (s.tasks.length + 1) = p.tasks.length + 1 := by
      rw [place_succ_of_own hown, h.size]
    simpa [Session.add] using hsize.symm
  · rcases Nat.lt_trichotomy u s.tasks.length with hlt | rfl | hlt
    · have hplace : place own u < p.tasks.length := h.size ▸ Nat.count_strict_mono hu hlt
      rw [getElem?_add_of_lt hlt, getElem?_add_of_lt hplace]
      exact h.task u hu
    · rw [getElem?_add_self, ← h.size, getElem?_add_self]
    · have hplace : p.tasks.length < place own u := h.size ▸ Nat.count_strict_mono hown hlt
      rw [getElem?_add_of_gt hlt, getElem?_add_of_gt hplace]

/-- The document's former task is superseded in the mirror as well. -/
lemma Mirrors.supersede (h : Mirrors own calls uri s p)
    (hentry : ∀ u, s.table.lookup uri = some u → own u = true) :
    Mirrors own calls uri (s.supersede uri) (p.supersede uri) := by
  unfold Session.supersede
  rw [h.table]
  cases hlookup : s.table.lookup uri with
  | none => exact h
  | some t =>
    have hown := hentry t hlookup
    have hended : p.hasEnded (place own t) = s.hasEnded t := by
      unfold hasEnded
      rw [h.task t hown]
    have hcancelled := h.cancel hown
    dsimp only [Option.map_some]
    rw [hended]
    split
    · exact h
    · exact hcancelled.withDesk
        (hcancelled.desk.of_still (Desk.still_tell _ _) (Desk.still_tell _ _))

/-- A lint of the document is scheduled in the mirror as well. -/
theorem Mirrors.schedule (h : Mirrors own calls uri s p) (hown : own s.tasks.length = true)
    (huri : document.uri = uri) (hlanguage : document.languageId = s.desk.settings.languageId)
    (hentry : ∀ u, s.table.lookup uri = some u → own u = true) :
    Mirrors own calls uri (s.schedule document).1 (p.schedule document).1 := by
  have hforeign : ¬(document.languageId != s.desk.settings.languageId) = true := by
    simpa using hlanguage
  have hsuperseded := h.supersede hentry
  have hsize := length_supersede s uri
  unfold Session.schedule
  rw [h.desk.settings, if_neg hforeign, if_neg hforeign, huri]
  dsimp only
  generalize s.supersede uri = s₁ at hsuperseded hsize ⊢
  generalize p.supersede uri = p₁ at hsuperseded ⊢
  have hadvanced : Mirrors own calls uri (s₁.onDesk (·.advance uri)) (p₁.onDesk (·.advance uri)) :=
    hsuperseded.withDesk hsuperseded.desk.advance
  have hown' : own (s₁.onDesk (·.advance uri)).tasks.length = true := hsize.symm ▸ hown
  rw [hadvanced.desk.generation_eq]
  have hadded := hadvanced.add hown' (.lint document
    (some ((s₁.onDesk (·.advance uri)).desk.generation uri))) (some uri)
  refine { hadded with table := ?_ }
  have hplace : (p₁.onDesk (·.advance uri)).tasks.length =
      place own (s₁.onDesk (·.advance uri)).tasks.length := hadvanced.size
  dsimp only [Session.add]
  rw [Keyed.lookup_put_self, Keyed.lookup_put_self, hplace]
  rfl

end Session

end LintRelay
