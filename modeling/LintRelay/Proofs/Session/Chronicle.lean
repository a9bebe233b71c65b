import LintRelay.Proofs.Session.Places

/-!
# The table along a course

Lints end in any order, and the end of a lint may be taken note of long after, when another one has
its place in the table.  So what the table holds cannot be told from the session alone.

A *chronicle* is a session with its history: which lints were put into the table, which were asked
to cancel, which have ended and are due to be taken note of, and which have been taken note of.  The
end of a task is taken note of once, and not before the task has ended; a chronicle passes over any
other motion of this kind.  `Chronicle.Sound` says how the table and the reports of a session follow
from its history.  It holds in a session that begins, and every move preserves it (`Sound.make`).
-/

namespace LintRelay

/-- The task whose end is taken note of in an errand. -/
def Errand.settled? : Errand → Option TaskId
  | .settle t => some t
  | .wake .. => none

/-- A session with its history. -/
structure Chronicle where
  session : Session
  /-- The lints that were put into the table, in order: the document and the task. -/
  placed : List (String × TaskId) := []
  /-- The tasks that were asked to cancel before they had ended, in order. -/
  asked : List TaskId := []
  /-- The scheduled tasks that have ended, and whose end is still to be taken note of. -/
  due : List TaskId := []
  /-- The tasks whose end has been taken note of, in order. -/
  noted : List TaskId := []

namespace Chronicle

variable {c : Chronicle} {m : Move} {t : TaskId} {uri : String}

/-- The chronicle after a move.  The end of a task is taken note of only if it is due. -/
def make (c : Chronicle) : Move → Chronicle
  | .motion (.settle t) =>
    if t ∈ c.due then
      { c with session := c.session.settle t, due := c.due.erase t, noted := c.noted ++ [t] }
    else c
  | m =>
    { c with
      session := c.session.make m
      placed := c.placed ++ (c.session.placed? m).toList
      asked := c.asked ++ (c.session.asked? m).toList
      due := c.due ++ (c.session.over? m).toList }

/-- The chronicle after a course. -/
def after (c : Chronicle) (ms : List Move) : Chronicle :=
  ms.foldl make c

/-- The task that was scheduled last for a document. -/
def latest? (c : Chronicle) (uri : String) : Option TaskId :=
  c.placed.reverse.lookup uri

/-- How the table and the reports of a session follow from its history. -/
structure Sound (c : Chronicle) : Prop where
  proper : c.session.Proper
  keys : (c.session.table.map (·.1)).Nodup
  numbers : (c.placed.map (·.2)).Nodup
  placed : ∀ uri t, (uri, t) ∈ c.placed ↔ c.session.scheduledFor? t = some uri
  table : ∀ uri t, c.session.table.lookup uri = some t ↔ c.latest? uri = some t ∧ t ∉ c.noted
  replaced : ∀ uri t, (uri, t) ∈ c.placed →
    c.latest? uri = some t ∨ c.session.hasEnded t = true ∨ t ∈ c.asked
  ended : ∀ t, c.session.isOver t = true ↔ t ∈ c.due ∨ t ∈ c.noted
  once : (c.due ++ c.noted).Nodup
  failures : c.session.desk.failures = c.noted.filterMap c.session.failure?

/-- A chronicle goes on with what is to be seen in a move, unless the end of a task is taken note
of. -/
lemma make_of_ne_settle (hm : ∀ t, m ≠ .motion (.settle t)) :
    c.make m = { c with
      session := c.session.make m
      placed := c.placed ++ (c.session.placed? m).toList
      asked := c.asked ++ (c.session.asked? m).toList
      due := c.due ++ (c.session.over? m).toList } := by
  cases m with
  | motion m =>
    cases m with
    | settle t => exact absurd rfl (hm t)
    | _ => rfl
  | _ => rfl

/-- The end of a task is taken note of if it is due. -/
lemma make_settle (ht : t ∈ c.due) : c.make (.motion (.settle t)) = { c with
    session := c.session.settle t, due := c.due.erase t, noted := c.noted ++ [t] } :=
  if_pos ht

/-- The last lint that was scheduled for a document is one of those that were put into the table. -/
lemma mem_placed_of_latest? (h : c.latest? uri = some t) : (uri, t) ∈ c.placed :=
  List.mem_reverse.1 (Keyed.mem_of_lookup h)

/-- Where no task is given a place, the lints that were scheduled last stay. -/
lemma latest?_make_of_placed?_eq_none (h : c.session.placed? m = none) :
    (c.make m).latest? uri = c.latest? uri := by
  by_cases hm : ∃ t, m = .motion (.settle t)
  · obtain ⟨t, rfl⟩ := hm
    unfold make
    dsimp only
    split <;> rfl
  · rw [make_of_ne_settle (not_exists.1 hm), h]
    simp [latest?]

/-- A task that is given a place is the one that was scheduled last for its document. -/
lemma latest?_make_of_placed?_eq_some {key : String} (h : c.session.placed? m = some (key, t)) :
    (c.make m).latest? uri = if uri = key then some t else c.latest? uri := by
  have hm : ∀ u, m ≠ .motion (.settle u) := by
    rintro u rfl
    cases h
  rw [make_of_ne_settle hm, h]
  by_cases huri : uri = key
  · simp [latest?, huri]
  · have hne : (uri == key) = false := by simpa using huri
    simp [latest?, huri, hne, List.lookup_cons]

/-- A history stays sound when a task has its end taken note of that is due. -/
lemma Sound.settle (h : c.Sound) (ht : t ∈ c.due) : (c.make (.motion (.settle t))).Sound := by
  have hover : c.session.isOver t = true := (h.ended t).2 (.inl ht)
  obtain ⟨key, r, hfor, hr⟩ := Session.isOver_iff.1 hover
  have hsame : (c.due.erase t ++ (c.noted ++ [t])).Perm (c.due ++ c.noted) := by
    rw [← List.append_assoc]
    refine (List.perm_append_singleton t _).trans ?_
    exact (List.perm_cons_erase ht).symm.append_right c.noted
  rw [make_settle ht]
  exact {
    proper := h.proper.make (.motion (.settle t))
    keys := by
      dsimp only
      rw [Session.table_settle hfor hr]
      split
      · exact Keyed.nodup_remove h.keys
      · exact h.keys
    numbers := h.numbers
    placed := fun uri u => by
      rw [Session.scheduledFor?_settle]
      exact h.placed uri u
    table := fun uri u => by
      have hlatest := h.table uri u
      simp only [h.proper.lookup_settle_iff hover, hlatest, List.mem_append, List.mem_singleton,
        not_or, and_assoc]
      rfl
    replaced := fun uri u hplaced => by
      rw [Session.hasEnded_settle]
      exact h.replaced uri u hplaced
    ended := fun u => by
      rw [Session.isOver_settle, h.ended u, ← List.mem_append, ← List.mem_append, hsame.mem_iff]
    once := hsame.nodup_iff.2 h.once
    failures := by
      have hfailure : (c.session.settle t).failure? = c.session.failure? :=
        funext fun _ => Session.failure?_settle
      dsimp only
      rw [Session.failures_settle, h.failures, hfailure, List.filterMap_append]
      cases hreport : c.session.failure? t <;> simp [hreport] }

/-- A task that is given a place was not put into the table before. -/
lemma Sound.not_mem_of_placed? (h : c.Sound) (hplaced : c.session.placed? m = some (uri, t))
    (key : String) : (key, t) ∉ c.placed := by
  rw [h.placed, Session.scheduledFor?_of_placed? hplaced]
  nofun

/-- A task whose end has been taken note of was put into the table, and has ended. -/
lemma Sound.hasEnded_of_noted (h : c.Sound) (hnoted : t ∈ c.noted) :
    (∃ uri, (uri, t) ∈ c.placed) ∧ c.session.hasEnded t = true := by
  have hover := (h.ended t).2 (.inr hnoted)
  obtain ⟨uri, r, hfor, -⟩ := Session.isOver_iff.1 hover
  exact ⟨⟨uri, (h.placed uri t).2 hfor⟩, (Session.isOver_eq_hasEnded hfor).symm.trans hover⟩

/-- The table follows from the history after a move in which no end of a task is taken note of. -/
lemma Sound.table_make (h : c.Sound) (hm : ∀ t, m ≠ .motion (.settle t)) (uri : String)
    (t : TaskId) : (c.session.make m).table.lookup uri = some t ↔
      (c.make m).latest? uri = some t ∧ t ∉ c.noted := by
  rw [Session.table_make hm]
  cases hplaced : c.session.placed? m with
  | none =>
    rw [latest?_make_of_placed?_eq_none hplaced]
    exact h.table uri t
  | some e =>
    obtain ⟨key, u⟩ := e
    rw [latest?_make_of_placed?_eq_some hplaced]
    dsimp only [Option.elim]
    by_cases huri : uri = key
    · subst huri
      -- The new task cannot have been taken note of: it was not there before.
      have hnew : u ∉ c.noted := by
        intro hnoted
        obtain ⟨⟨key, hmem⟩, -⟩ := h.hasEnded_of_noted hnoted
        exact h.not_mem_of_placed? hplaced key hmem
      rw [Keyed.lookup_put_self, if_pos rfl]
      refine (and_iff_left_of_imp ?_).symm
      rintro ⟨⟩
      exact hnew
    · rw [Keyed.lookup_put_of_ne huri, if_neg huri]
      exact h.table uri t

/-- A task that loses its place in a move has ended or is asked to cancel. -/
lemma Sound.replaced_make (h : c.Sound) {key : String} {u : TaskId}
    (hplaced : c.session.placed? m = some (key, u)) (hlatest : c.latest? key = some t) :
    c.session.hasEnded t = true ∨ c.session.asked? m = some t := by
  by_cases hnoted : t ∈ c.noted
  · exact .inl (h.hasEnded_of_noted hnoted).2
  · have hplace := (h.table key t).2 ⟨hlatest, hnoted⟩
    obtain ⟨-, document, rfl, hlanguage, rfl⟩ := Session.placed?_eq_some_iff.1 hplaced
    cases hended : c.session.hasEnded t with
    | true => exact .inl rfl
    | false =>
      refine .inr ?_
      rw [Session.asked?, if_pos hlanguage, hplace]
      simp [Option.filter, hended]

/-- After a move each lint that was put into the table is the last one for its document, or it has
ended, or it has been asked to cancel. -/
lemma Sound.accounted_make (h : c.Sound) (m : Move) (uri : String) (t : TaskId)
    (hmem : (uri, t) ∈ c.placed) :
    (c.make m).latest? uri = some t ∨ (c.session.make m).hasEnded t = true ∨
      t ∈ c.asked ++ (c.session.asked? m).toList := by
  have hended : c.session.hasEnded t = true → (c.session.make m).hasEnded t = true := fun hended =>
    Session.hasEnded_make ((h.placed uri t).1 hmem) hended m
  rcases h.replaced uri t hmem with hlatest | hended' | hasked
  · cases hplaced : c.session.placed? m with
    | none => exact .inl ((latest?_make_of_placed?_eq_none hplaced).trans hlatest)
    | some e =>
      obtain ⟨key, u⟩ := e
      by_cases huri : uri = key
      · subst huri
        rcases h.replaced_make hplaced hlatest with hended' | hasked
        · exact .inr (.inl (hended hended'))
        · exact .inr (.inr (List.mem_append_right _ (Option.mem_toList.2 hasked)))
      · exact .inl ((latest?_make_of_placed?_eq_some hplaced).trans
          ((if_neg huri).trans hlatest))
  · exact .inr (.inl (hended hended'))
  · exact .inr (.inr (List.mem_append_left _ hasked))

/-- No task is put into the table twice. -/
lemma Sound.numbers_make (h : c.Sound) :
    ((c.placed ++ (c.session.placed? m).toList).map (·.2)).Nodup := by
  cases hplaced : c.session.placed? m with
  | none => simpa using h.numbers
  | some e =>
    obtain ⟨uri, t⟩ := e
    have hnew : t ∉ c.placed.map (·.2) := by
      intro hmem
      obtain ⟨⟨key, _⟩, he, rfl⟩ := List.mem_map.1 hmem
      exact h.not_mem_of_placed? hplaced key he
    rw [List.map_append, List.perm_append_comm.nodup_iff]
    exact List.nodup_cons.2 ⟨hnew, h.numbers⟩

/-- No end of a task comes due twice, nor after it has been taken note of. -/
lemma Sound.once_make (h : c.Sound) :
    (c.due ++ (c.session.over? m).toList ++ c.noted).Nodup := by
  cases hover : c.session.over? m with
  | none => simpa using h.once
  | some t =>
    have hbefore := Session.isOver_of_over? hover
    have hnew : t ∉ c.due ++ c.noted := by
      intro hmem
      rw [(h.ended t).2 (List.mem_append.1 hmem)] at hbefore
      cases hbefore
    rw [List.append_assoc, Option.toList_some, List.singleton_append, List.perm_middle.nodup_iff]
    exact List.nodup_cons.2 ⟨hnew, h.once⟩

/-- A history stays sound in every move in which no end of a task is taken note of. -/
lemma Sound.make_of_ne_settle (h : c.Sound) (hm : ∀ t, m ≠ .motion (.settle t)) :
    (c.make m).Sound := by
  have htable := h.table_make hm
  have haccounted := h.accounted_make m
  have hlatest : ∀ uri t, c.session.placed? m = some (uri, t) → (c.make m).latest? uri = some t :=
    fun uri t hplaced => (latest?_make_of_placed?_eq_some hplaced).trans (if_pos rfl)
  rw [Chronicle.make_of_ne_settle hm] at htable haccounted hlatest ⊢
  exact {
    proper := h.proper.make m
    keys := by
      dsimp only
      rw [Session.table_make hm]
      cases c.session.placed? m with
      | none => exact h.keys
      | some e => exact Keyed.nodup_put h.keys
    numbers := h.numbers_make
    placed := fun uri t => by
      dsimp only
      rw [List.mem_append, h.placed, Option.mem_toList, Session.scheduledFor?_make_iff]
    table := htable
    replaced := fun uri t hmem => by
      rcases List.mem_append.1 hmem with hmem | hmem
      · exact haccounted uri t hmem
      · exact .inl (hlatest uri t (Option.mem_toList.1 hmem))
    ended := fun t => by
      dsimp only
      rw [h.proper.isOver_make_iff, h.ended, List.mem_append, Option.mem_toList, or_right_comm]
    once := h.once_make
    failures := by
      dsimp only
      rw [Session.failures_make hm, h.failures]
      refine List.filterMap_congr fun t ht => ?_
      exact (Session.failure?_make ((h.ended t).2 (.inr ht)) m).symm }

/-- A history stays sound in every move. -/
theorem Sound.make (h : c.Sound) (m : Move) : (c.make m).Sound := by
  by_cases hm : ∃ t, m = .motion (.settle t)
  · obtain ⟨t, rfl⟩ := hm
    by_cases ht : t ∈ c.due
    · exact h.settle ht
    · rw [Chronicle.make, if_neg ht]
      exact h
  · exact h.make_of_ne_settle (not_exists.1 hm)

/-- It stays sound along every course. -/
lemma Sound.after (h : c.Sound) (ms : List Move) : (c.after ms).Sound := by
  induction ms generalizing c with
  | nil => exact h
  | cons m ms ih => exact ih (h.make m)

/-- The chronicle of a session that begins. -/
def opening (settings : Settings) (disk : Disk) (gate : Gate)
    (entries : List (String × List Diagnostic)) (runner : Runner) : Chronicle :=
  { session := Session.opening settings disk gate entries runner }

/-- The history of a session that begins is sound. -/
lemma sound_opening (settings : Settings) (disk : Disk) (gate : Gate)
    (entries : List (String × List Diagnostic)) (runner : Runner) :
    (opening settings disk gate entries runner).Sound where
  proper := Session.proper_opening settings disk gate entries runner
  keys := List.nodup_nil
  numbers := List.nodup_nil
  placed uri t := ⟨nofun, nofun⟩
  table uri t := ⟨nofun, nofun⟩
  replaced uri t hmem := absurd hmem List.not_mem_nil
  ended t := by
    constructor
    · intro hover
      obtain ⟨uri, r, hfor, -⟩ := Session.isOver_iff.1 hover
      cases hfor
    · rintro (ht | ht) <;> cases ht
  once := List.nodup_nil
  failures := rfl

/-! ## What a session does by itself -/

/-- The chronicle goes on with the session. -/
lemma session_make (hm : ∀ t, m ≠ .motion (.settle t)) :
    (c.make m).session = c.session.make m := by
  rw [make_of_ne_settle hm]

/-- What is due stays so in a move in which no task ends, unless the end of a task is taken note
of. -/
lemma due_make (hm : ∀ t, m ≠ .motion (.settle t)) :
    (c.make m).due = c.due ++ (c.session.over? m).toList := by
  rw [make_of_ne_settle hm]

@[simp] lemma after_nil (c : Chronicle) : c.after [] = c := rfl

@[simp] lemma after_cons (c : Chronicle) (m : Move) (ms : List Move) :
    c.after (m :: ms) = (c.make m).after ms := rfl

/-- Courses can be joined. -/
lemma after_append (c : Chronicle) (ms ms' : List Move) :
    c.after (ms ++ ms') = (c.after ms).after ms' :=
  List.foldl_append

/-- Waking a task is a move of the chronicle, in which the end of the task may come due. -/
lemma session_due_wake {s' : Session} {w : Wake} {due? : Option TaskId}
    (h : c.session.wake t w = (s', due?)) :
    (c.make (.motion (.wake t w))).session = s' ∧
      (c.make (.motion (.wake t w))).due = c.due ++ due?.toList := by
  have hm : ∀ u, Move.motion (.wake t w) ≠ .motion (.settle u) := nofun
  have hover : c.session.over? (.motion (.wake t w)) = due? := congrArg Prod.snd h
  rw [session_make hm, due_make hm, hover]
  exact ⟨congrArg Prod.fst h, rfl⟩

/-- Errands that take note of all that is due are done in a course of the chronicle, and nothing is
due afterwards: each end is taken note of behind the errands that came up before. -/
theorem exists_after_attend {es : List Errand} (h : (es.filterMap Errand.settled?).Perm c.due) :
    ∃ ms, (c.after ms).session = c.session.attend es ∧ (c.after ms).due = [] := by
  generalize hs : c.session = s
  fun_induction Session.attend s es generalizing c with
  | case1 s => exact ⟨[], hs, List.nil_perm.1 h⟩
  | case2 s t rest ih =>
    obtain ⟨ht, hrest⟩ := List.cons_perm_iff_perm_erase.1 h
    obtain ⟨ms, hsession, hdue⟩ := ih (c := c.make (.motion (.settle t)))
      (by rw [make_settle ht]; exact hrest) (by rw [make_settle ht, hs])
    exact ⟨.motion (.settle t) :: ms, hsession, hdue⟩
  | case3 s t w rest s' hwake ih =>
    have hrest : (rest.filterMap Errand.settled?).Perm c.due := h
    obtain ⟨hmade, hdue⟩ := session_due_wake (hs ▸ hwake)
    obtain ⟨ms, hsession, hdone⟩ := ih (by rw [hdue]; simpa using hrest) hmade
    exact ⟨.motion (.wake t w) :: ms, hsession, hdone⟩
  | case4 s t w rest s' u hwake ih =>
    have hrest : (rest.filterMap Errand.settled?).Perm c.due := h
    obtain ⟨hmade, hdue⟩ := session_due_wake (hs ▸ hwake)
    -- The end that has come due is put behind the errands and behind what was due.
    have hput : ((rest ++ [Errand.settle u]).filterMap Errand.settled?).Perm (c.due ++ [u]) := by
      rw [List.filterMap_append]
      exact hrest.append_right [u]
    obtain ⟨ms, hsession, hdone⟩ := ih (by rw [hdue]; exact hput) hmade
    exact ⟨.motion (.wake t w) :: ms, hsession, hdone⟩

/-- Motions that neither wake a task nor take note of the end of one leave what is due. -/
lemma session_due_stir {m : Motion} (hsettle : ∀ t, m ≠ .settle t) (hwake : ∀ t w, m ≠ .wake t w) :
    (c.make (.motion m)).session = c.session.stir m ∧ (c.make (.motion m)).due = c.due := by
  have hover : c.session.over? (.motion m) = none := by
    cases m with
    | wake t w => exact absurd rfl (hwake t w)
    | _ => rfl
  have hm : ∀ t, Move.motion m ≠ .motion (.settle t) := fun t heq => hsettle t (Move.motion.inj heq)
  rw [session_make hm, due_make hm, hover]
  exact ⟨rfl, List.append_nil _⟩

/-- Motions of one such kind, one for each of some tasks, are a course of the chronicle. -/
lemma exists_after_foldl {m : TaskId → Motion} (hsettle : ∀ u t, m u ≠ .settle t)
    (hwake : ∀ u t w, m u ≠ .wake t w) (c : Chronicle) (ts : List TaskId) :
    ∃ ms, (c.after ms).session = ts.foldl (fun s t => s.stir (m t)) c.session ∧
      (c.after ms).due = c.due := by
  induction ts generalizing c with
  | nil => exact ⟨[], rfl, rfl⟩
  | cons t ts ih =>
    obtain ⟨hsession, hdue⟩ := session_due_stir (c := c) (hsettle t) (hwake t)
    obtain ⟨ms, hms, hmsdue⟩ := ih (c.make (.motion (m t)))
    rw [hsession] at hms
    exact ⟨.motion (m t) :: ms, hms, hmsdue.trans hdue⟩

/-- Asking tasks to cancel leaves the ends that the agenda has to take note of. -/
lemma settled_foldl_cancel (s : Session) (ts : List TaskId) :
    (ts.foldl Session.cancel s).agenda.filterMap Errand.settled? =
      s.agenda.filterMap Errand.settled? := by
  induction ts generalizing s with
  | nil => rfl
  | cons t ts ih =>
    refine (ih (s.cancel t)).trans ?_
    unfold Session.cancel
    split
    · rfl
    · split
      · dsimp only
        rw [List.filterMap_append]
        exact List.append_nil _
      · rfl

/-- Doing all errands is a course of the chronicle, if the agenda takes note of what is due, and
nothing is due afterwards. -/
theorem exists_after_settleAll
    (h : (c.session.agenda.filterMap Errand.settled?).Perm c.due) :
    ∃ ms, (c.after ms).session = c.session.settleAll ∧ (c.after ms).due = [] := by
  obtain ⟨hsession, hdue⟩ := session_due_stir (c := c) (m := .arrange c.session.waiting [])
    nofun nofun
  obtain ⟨ms, hms, hdone⟩ := exists_after_attend (hdue ▸ h)
  exact ⟨.motion (.arrange c.session.waiting []) :: ms, hms.trans (by rw [hsession]; rfl), hdone⟩

/-- Cancelling all scheduled tasks and waiting for their end is a course of the chronicle, if the
agenda takes note of what is due. -/
theorem exists_after_cancelAll
    (h : (c.session.agenda.filterMap Errand.settled?).Perm c.due) :
    ∃ ms, (c.after ms).session = c.session.cancelAll := by
  unfold Session.cancelAll
  split
  · exact ⟨[], rfl⟩
  · obtain ⟨asks, hasks, hasksdue⟩ := exists_after_foldl (m := .cancel) nofun nofun c
      (c.session.table.map (·.2))
    have hcancelled : (c.after asks).session =
        (c.session.table.map (·.2)).foldl Session.cancel c.session := hasks
    obtain ⟨ms, hms, -⟩ := exists_after_settleAll (c := c.after asks)
      (by rw [hcancelled, settled_foldl_cancel, hasksdue]; exact h)
    obtain ⟨looks, hlooks, -⟩ := exists_after_foldl (m := .look) nofun nofun
      ((c.after asks).after ms) c.session.drainers
    refine ⟨asks ++ (ms ++ looks), ?_⟩
    rw [after_append, after_append, hlooks, hms, hcancelled]
    rfl

/-! ## What is to be seen of a session -/

/-- The table holds the lints that were scheduled last and whose end has not been taken note of. -/
lemma Sound.mem_table_iff (h : c.Sound) :
    (uri, t) ∈ c.session.table ↔ c.latest? uri = some t ∧ t ∉ c.noted :=
  ⟨fun hmem => (h.table uri t).1 (Keyed.lookup_of_mem h.keys hmem),
    fun hlatest => Keyed.mem_of_lookup ((h.table uri t).2 hlatest)⟩

/-- A lint that was put into the table has ended if and only if its end is due to be taken note of
or has been. -/
lemma Sound.hasEnded_iff (h : c.Sound) (hplaced : (uri, t) ∈ c.placed) :
    c.session.hasEnded t = true ↔ t ∈ c.due ∨ t ∈ c.noted := by
  rw [← Session.isOver_eq_hasEnded ((h.placed uri t).1 hplaced)]
  exact h.ended t

/-- A document is in flight if the lint that was scheduled last for it has not ended. -/
lemma Sound.mem_inFlight_iff (h : c.Sound) : uri ∈ c.session.inFlight ↔
    ∃ t, c.latest? uri = some t ∧ c.session.hasEnded t = false := by
  unfold Session.inFlight
  rw [List.mem_map]
  constructor
  · rintro ⟨⟨_, t⟩, hmem, rfl⟩
    obtain ⟨hmem, hlive⟩ := List.mem_filter.1 hmem
    exact ⟨t, (h.mem_table_iff.1 hmem).1, by simpa using hlive⟩
  · rintro ⟨t, hlatest, hlive⟩
    have hnew : t ∉ c.noted := fun hnoted => by
      rw [(h.hasEnded_of_noted hnoted).2] at hlive
      cases hlive
    exact ⟨(uri, t), List.mem_filter.2 ⟨h.mem_table_iff.2 ⟨hlatest, hnew⟩, by simp [hlive]⟩, rfl⟩

/-- The table stays as it is when the end of a lint is taken note of that was replaced. -/
lemma Sound.table_settle_of_replaced (h : c.Sound) (hplaced : (uri, t) ∈ c.placed)
    (hreplaced : c.latest? uri ≠ some t) : (c.session.settle t).table = c.session.table :=
  Session.table_settle_of_lookup_ne ((h.placed uri t).1 hplaced) fun hplace =>
    hreplaced ((h.table uri t).1 hplace).1

/-- The table is empty when all lints that were put there have ended and nothing is due. -/
lemma Sound.table_eq_nil (h : c.Sound)
    (hended : ∀ uri t, (uri, t) ∈ c.placed → c.session.hasEnded t = true) (hdue : c.due = []) :
    c.session.table = [] := by
  refine List.eq_nil_iff_forall_not_mem.2 fun ⟨uri, t⟩ hmem => ?_
  obtain ⟨hlatest, hnew⟩ := h.mem_table_iff.1 hmem
  have hplaced := mem_placed_of_latest? hlatest
  rcases (h.hasEnded_iff hplaced).1 (hended uri t hplaced) with ht | ht
  · rw [hdue] at ht
    cases ht
  · exact hnew ht

/-- The failures that have been reported are those of the lints that were put into the table, unless
their end is still due to be taken note of. -/
lemma Sound.failures_perm (h : c.Sound) : c.session.desk.failures.Perm
    (((c.placed.map (·.2)).filter (· ∉ c.due)).filterMap c.session.failure?) := by
  obtain ⟨-, hnoted, hapart⟩ := List.nodup_append.1 h.once
  have hends : c.noted.Perm
      (((c.placed.map (·.2)).filter (· ∉ c.due)).filter c.session.hasEnded) := by
    refine (List.perm_ext_iff_of_nodup hnoted ((h.numbers.filter _).filter _)).2 fun t => ?_
    simp only [List.mem_filter, decide_eq_true_eq]
    constructor
    · intro ht
      obtain ⟨⟨uri, hplaced⟩, hended⟩ := h.hasEnded_of_noted ht
      exact ⟨⟨List.mem_map.2 ⟨_, hplaced, rfl⟩, fun hdue => hapart t hdue t ht rfl⟩, hended⟩
    · rintro ⟨⟨hplaced, hdue⟩, hended⟩
      obtain ⟨⟨uri, _⟩, hmem, rfl⟩ := List.mem_map.1 hplaced
      exact ((h.hasEnded_iff hmem).1 hended).resolve_left hdue
  rw [h.failures]
  refine (hends.filterMap _).trans (List.Perm.of_eq ?_)
  -- A lint that has not ended has nothing to report.
  rw [List.filterMap_filter]
  refine List.filterMap_congr fun t _ => ?_
  split
  · rfl
  · next hlive =>
    exact (Session.failure?_of_hasEnded_eq_false (Bool.eq_false_iff.2 hlive)).symm

/-- The table of scheduled lints.  Along every course of a session in which the end of a scheduled
task is taken note of at most once, and not before the task has ended:

* the table has one place at most for each document, and there stands the task that was scheduled
  last for it;
* every task that was scheduled for the document before has ended or has been asked to cancel, and
  a task that a move asks to cancel ends as cancelled when it is woken next, or has given up its
  call and is about to be woken so;
* a document is in flight if and only if the task that was scheduled last for it has not ended;
* when the end of a task is taken note of after it was replaced, the table stays as it is;
* the table is empty when all scheduled tasks have ended and all ends have been taken note of;
* the failures that have been reported are those of the scheduled tasks that broke down, one report
  for each, replaced or not, but for the tasks whose end is still due to be taken note of. -/
theorem table_along_course (settings : Settings) (disk : Disk) (gate : Gate)
    (entries : List (String × List Diagnostic)) (runner : Runner) (ms : List Move) :
    let c := (opening settings disk gate entries runner).after ms
    let s := c.session
    ((s.table.map (·.1)).Nodup ∧ ∀ uri t, (uri, t) ∈ s.table → c.latest? uri = some t) ∧
    ((∀ uri t, (uri, t) ∈ c.placed → c.latest? uri ≠ some t →
        s.hasEnded t = true ∨ t ∈ c.asked) ∧
      ∀ (m : Move) (t : TaskId), s.asked? m = some t →
        s.hasEnded t = false ∧ (s.make m).IsAsked t) ∧
    (∀ uri, uri ∈ s.inFlight ↔ ∃ t, c.latest? uri = some t ∧ s.hasEnded t = false) ∧
    (∀ uri t, (uri, t) ∈ c.placed → c.latest? uri ≠ some t → (s.settle t).table = s.table) ∧
    ((∀ uri t, (uri, t) ∈ c.placed → s.hasEnded t = true) → c.due = [] → s.table = []) ∧
    ((∀ uri t, (uri, t) ∈ c.placed → (s.hasEnded t = true ↔ t ∈ c.due ∨ t ∈ c.noted)) ∧
      (c.due ++ c.noted).Nodup) ∧
    (s.desk.events.filter (·.name == "lint_task_failed")).Perm
      (((c.placed.map (·.2)).filter (· ∉ c.due)).filterMap s.failure?) := by
  intro c s
  have h : c.Sound := (sound_opening settings disk gate entries runner).after ms
  refine ⟨⟨h.keys, fun uri t hmem => (h.mem_table_iff.1 hmem).1⟩, ⟨?_, fun m t => ?_⟩,
    fun uri => h.mem_inFlight_iff, fun uri t => h.table_settle_of_replaced, h.table_eq_nil,
    ⟨fun uri t => h.hasEnded_iff, h.once⟩, h.failures_perm⟩
  · intro uri t hplaced hreplaced
    exact (h.replaced uri t hplaced).resolve_left hreplaced
  · exact Session.isAsked_of_asked?

/-- A lint is scheduled again while the linter holds its first run up, and this run breaks down in
spite of the request to cancel.  Its end is taken note of late: its document keeps the second run,
which is in flight, and one failure has been reported. -/
theorem table_along_course_replaced :
    let settings : Settings := { workingRoot := .ofNames ["proj"], timeout := none }
    let disk : Disk := { entries := [], workingPlace := ["proj"] }
    let document : Document := {
      uri := "file:///proj/lib/foo.ex"
      path := .ofNames ["proj", "lib", "foo.ex"]
      languageId := "elixir"
      text := "" }
    let runner : Runner := fun _ _ => { held := true, answer := fun _ => .crashed "" }
    let ms : List Move := [.schedule document, .motion (.wake 0 .start), .schedule document,
      .motion (.wake 0 (.answer (.crashed "boom")))]
    let c := (opening settings disk .manifest [] runner).after ms
    let c' := (opening settings disk .manifest [] runner).after (ms ++ [.motion (.settle 0)])
    c.due = [0] ∧ c.asked = [0] ∧ (c.session.settle 0).table = c.session.table ∧
      document.uri ∈ c'.session.inFlight ∧
      (c'.session.desk.events.filter (·.name == "lint_task_failed")).length = 1 := by
  intro settings disk document runner ms c c'
  have hdue : c.due = [0] := by decide +kernel
  have hasked : c.asked = [0] := by decide +kernel
  have hplaced : c.placed = [(document.uri, 0), (document.uri, 1)] := by decide +kernel
  have hlatest : c.latest? document.uri = some 1 := by decide +kernel
  obtain ⟨-, -, -, hreplaced, -⟩ := table_along_course settings disk .manifest [] runner ms
  have htable : (c.session.settle 0).table = c.session.table :=
    hreplaced document.uri 0 (hplaced ▸ List.mem_cons_self) (by rw [hlatest]; nofun)
  obtain ⟨-, -, hinFlight, -, -, -, hfailures⟩ :=
    table_along_course settings disk .manifest [] runner (ms ++ [.motion (.settle 0)])
  have hflies : document.uri ∈ c'.session.inFlight :=
    (hinFlight document.uri).2 ⟨1, by decide +kernel, by decide +kernel⟩
  refine ⟨hdue, hasked, htable, hflies, ?_⟩
  rw [hfailures.length_eq]
  decide +kernel

end Chronicle

end LintRelay
