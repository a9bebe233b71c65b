import LintRelay.Proofs.Keyed
import LintRelay.Proofs.Session.Apart
import LintRelay.Proofs.Session.Prompt

/-!
# The table of scheduled lints

The table of a session has one place for each document: the task that was scheduled last for it,
until its end has been taken note of.  A lint that was superseded has left the table, but it may be
under way still, and nothing keeps track of it any more.

What keeps such a lint from doing harm is that it is not the newest.  A session is *filed* if every
lint under way with the newest generation of its document has the place of the document in the table
(`Session.Filed`).  A session in which lints are only scheduled is filed, and every move leaves it
so (`Filed.make`): a place is given up for a newer lint, or behind the end of its task, and for no
other reason.
-/

namespace LintRelay

namespace Session

variable {s s' : Session} {m : Move} {t : TaskId} {document : Document} {g : Int} {uri : String}

/-! ## Who has a place in the table -/

/-- Asking a task to cancel leaves the table alone. -/
lemma table_cancel (s : Session) (t : TaskId) : (s.cancel t).table = s.table := by
  unfold cancel
  split
  · rfl
  · split <;> rfl

/-- Superseding a document's former task leaves the table alone. -/
lemma table_supersede (s : Session) (uri : String) : (s.supersede uri).table = s.table := by
  unfold supersede
  split
  · rfl
  · split
    · rfl
    · exact table_cancel s _

/-- A lint that is scheduled is given the place of its document. -/
lemma table_schedule (hlanguage : document.languageId = s.desk.settings.languageId) :
    (s.schedule document).1.table = Keyed.put document.uri s.tasks.length s.table := by
  unfold schedule
  rw [if_neg (by simpa using hlanguage)]
  dsimp only [add, onDesk]
  rw [table_supersede, length_supersede]

/-- A document in another language is given no place. -/
lemma table_schedule_of_ne (hlanguage : document.languageId ≠ s.desk.settings.languageId) :
    (s.schedule document).1.table = s.table := by
  unfold schedule
  rw [if_pos (by simpa using hlanguage)]
  rfl

/-- The number of a task that is scheduled. -/
lemma snd_schedule (s : Session) (document : Document) :
    (s.schedule document).2 = s.tasks.length := by
  unfold schedule
  split
  · rfl
  · exact length_supersede s document.uri

/-- The place in the table that a task is given in a move. -/
def placed? (s : Session) : Move → Option (String × TaskId)
  | .schedule document =>
    if document.languageId = s.desk.settings.languageId then
      some (document.uri, (s.schedule document).2)
    else none
  | _ => none

/-- A task that is given a place in a move is new, and the move has scheduled it. -/
lemma placed?_eq_some_iff : s.placed? m = some (uri, t) ↔ t = s.tasks.length ∧
    ∃ document, m = .schedule document ∧ document.languageId = s.desk.settings.languageId ∧
      document.uri = uri := by
  constructor
  · intro h
    cases m with
    | schedule document =>
      unfold placed? at h
      dsimp only at h
      split at h
      · next hlanguage =>
        obtain ⟨huri, ht⟩ := Prod.mk.inj (Option.some.inj h)
        exact ⟨ht.symm.trans (snd_schedule s document), document, rfl, hlanguage, huri⟩
      · cases h
    | _ => cases h
  · rintro ⟨rfl, document, rfl, hlanguage, rfl⟩
    rw [placed?, if_pos hlanguage, snd_schedule]

/-- The table changes in a move by the place that is given to a task, unless the end of a task is
taken note of. -/
lemma table_make (hm : ∀ t, m ≠ .motion (.settle t)) :
    (s.make m).table = (s.placed? m).elim s.table fun e => Keyed.put e.1 e.2 s.table := by
  cases m with
  | lint document => rfl
  | schedule document =>
    unfold placed?
    dsimp only
    split
    · next hlanguage =>
      rw [snd_schedule]
      exact table_schedule hlanguage
    · next hlanguage => exact table_schedule_of_ne hlanguage
  | motion m =>
    cases m with
    | cancel t => exact table_cancel s t
    | wake t w => exact (works_wake s t w).table
    | settle t => exact absurd rfl (hm t)
    | look t =>
      change (s.look t).table = s.table
      unfold look
      split
      · split
        · exact (works_begin t s .drain).table
        · rfl
      · rfl
    | _ => rfl

/-- A lint that is scheduled leaves all other tasks as they were. -/
lemma lint?_schedule_of_ne (hlanguage : document.languageId = s.desk.settings.languageId)
    (ht : t ≠ s.tasks.length) : (s.schedule document).1.lint? t = s.lint? t := by
  let s₁ := (s.supersede document.uri).onDesk (·.advance document.uri)
  have hlength : s₁.tasks.length = s.tasks.length := length_supersede s document.uri
  have hrests : s₁.lint? t = s.lint? t := (rests_supersede s document.uri).lint t
  have hframe := frame_add s₁ (.lint document (some (s₁.desk.generation document.uri)))
    (some document.uri)
  unfold schedule
  rw [if_neg (by simpa using hlanguage)]
  exact (hframe.lint t (hlength ▸ ht)).trans hrests

/-- A task that has not ended keeps its place when the end of a task is taken note of. -/
lemma lookup_settle (hplace : s.table.lookup uri = some t) (hlive : s.result? t = none)
    (u : TaskId) : (s.settle u).table.lookup uri = some t := by
  unfold settle
  split
  · next uri' r cancelling hu =>
    have hkept : (if s.table.lookup uri' == some u then
        { s with table := Keyed.remove uri' s.table } else s).table.lookup uri = some t := by
      split
      · next hentry =>
        have hne : uri ≠ uri' := by
          rintro rfl
          rw [hplace, beq_iff_eq] at hentry
          obtain rfl := Option.some.inj hentry
          rw [result?_eq hu] at hlive
          cases hlive
        exact (Keyed.lookup_remove_of_ne hne s.table).trans hplace
      · exact hplace
    dsimp only
    split <;> exact hkept
  · exact hplace

/-- A task that has not ended keeps its place until a lint of its document is scheduled. -/
lemma lookup_make_of_not_scheduled {m : Move} (hplace : s.table.lookup uri = some t)
    (hlive : s.result? t = none) (hm : ∀ document, m = .schedule document →
      document.languageId = s.desk.settings.languageId → document.uri ≠ uri) :
    (s.make m).table.lookup uri = some t := by
  by_cases hsettle : ∃ u, m = .motion (.settle u)
  · obtain ⟨u, rfl⟩ := hsettle
    exact lookup_settle hplace hlive u
  · rw [table_make (not_exists.1 hsettle)]
    cases hplaced : s.placed? m with
    | none => exact hplace
    | some e =>
      obtain ⟨-, document, rfl, hlanguage, huri⟩ := placed?_eq_some_iff.1 hplaced
      have hne : uri ≠ e.1 := huri ▸ (hm document rfl hlanguage).symm
      exact (Keyed.lookup_put_of_ne hne _ _).trans hplace

/-- A task that has not ended keeps its place in every move that triggers no lint of its document.
-/
lemma lookup_make {m : Move} (hplace : s.table.lookup uri = some t) (hlive : s.result? t = none)
    (htrigger : s.triggered? m ≠ some uri) : (s.make m).table.lookup uri = some t := by
  refine lookup_make_of_not_scheduled hplace hlive ?_
  rintro document rfl hlanguage rfl
  exact htrigger (if_pos hlanguage)

/-! ## Lints that are filed -/

/-- Every lint under way with the newest generation of its document has the document's place in the
table. -/
def Filed (s : Session) : Prop :=
  ∀ t document, s.lint? t = some (document, s.desk.generation document.uri) →
    s.table.lookup document.uri = some t

/-- A place in the table that has been looked up is one of its places. -/
lemma mem_table_of_lookup (h : s.table.lookup uri = some t) : t ∈ s.table.map (·.2) := by
  obtain ⟨l₁, l₂, heq, -⟩ := List.lookup_eq_some_iff.1 h
  rw [heq, List.map_append, List.map_cons]
  exact List.mem_append_right _ List.mem_cons_self

/-- A session in which lints are only scheduled stays filed in every move. -/
lemma Filed.make (h : Filed s) (hordered : Ordered s) (hprompt : Prompt s) {m : Move} :
    Filed (s.make m) := by
  intro t document hlint
  have hstep := hordered.step m
  by_cases htrigger : s.triggered? m = some document.uri
  · -- The newest lint of the document is the one that has just been scheduled.
    have hgeneration := hstep.generation_of_triggered htrigger
    cases m with
    | schedule scheduled =>
      obtain ⟨hlanguage, huri⟩ : scheduled.languageId = s.desk.settings.languageId ∧
          scheduled.uri = document.uri := by
        simpa [triggered?] using htrigger
      have ht : t = s.tasks.length := by
        by_contra hne
        change (s.schedule scheduled).1.lint? t = _ at hlint
        rw [lint?_schedule_of_ne hlanguage hne] at hlint
        have hle := hordered.le t document _ hlint
        omega
      rw [← huri, ht]
      exact (congrArg (List.lookup scheduled.uri) (table_schedule hlanguage)).trans
        (Keyed.lookup_put_self _ _ _)
    | _ =>
      refine absurd htrigger (hprompt.triggered? ?_)
      rintro _ ⟨⟩
  · have hgeneration := hstep.generation_of_not_triggered htrigger
    rw [hgeneration] at hlint
    rcases hstep.lint_before hlint with hbefore | ⟨htriggered, -⟩
    · have hlive : s.result? t = none := result?_eq_none_of_lint? hbefore
      exact lookup_make (h t document hbefore) hlive htrigger
    · exact absurd htriggered htrigger

/-- It stays filed along every course in which lints are only scheduled. -/
lemma Filed.after (h : Filed s) (hordered : Ordered s) (hprompt : Prompt s) {ms : List Move}
    (hlint : ∀ document, .lint document ∉ ms) : Filed (s.after ms) := by
  induction ms generalizing s with
  | nil => exact h
  | cons m ms ih =>
    have hprompt' : Prompt (s.make m) := hprompt.make fun document heq =>
      hlint document (heq ▸ List.mem_cons_self)
    exact ih (h.make hordered hprompt) (hordered.make m) hprompt' fun document hmem =>
      hlint document (List.mem_cons_of_mem m hmem)

end Session

end LintRelay
