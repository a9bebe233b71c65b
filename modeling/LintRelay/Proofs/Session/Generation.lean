import LintRelay.Proofs.Session.Step
import Mathlib.Tactic.ByContra

/-!
# Generations along a course

What every step preserves is the invariant `Ordered`: the lints under way have been given
generations that were handed out, and no two lints of a document have the same.  So when a lint of a
document publishes, its generation is `Spent`: no lint that could still publish has it or an older
one that is the newest.  It follows that along every course the publications of a document come in
the order of their generations (`pairwise_publications`), and that a published document keeps its
diagnostics until its next trigger (`Spent.get_after`).
-/

namespace LintRelay

namespace Session

variable {s s' : Session} {m : Move} {t : TaskId} {document : Document} {g : Int}

/-! ## The order of the lints under way -/

/-- The generations that are given to lints are in order: they were handed out, and to one lint
each. -/
structure Ordered (s : Session) : Prop where
  nonneg : ∀ uri, 0 ≤ s.desk.generation uri
  language : ∀ t document g, s.lint? t = some (document, g) →
    document.languageId = s.desk.settings.languageId
  pos : ∀ t document g, s.lint? t = some (document, g) → 0 < g
  le : ∀ t document g, s.lint? t = some (document, g) → g ≤ s.desk.generation document.uri
  unique : ∀ t u document document' g, s.lint? t = some (document, g) →
    s.lint? u = some (document', g) → document.uri = document'.uri → t = u

namespace Ordered

/-- In a session in order, every move is a step. -/
lemma step (h : Ordered s) (m : Move) : Step s m (s.make m) :=
  step_make s m h.language

/-- Every move leaves a session in order. -/
lemma make (h : Ordered s) (m : Move) : Ordered (s.make m) := by
  have hstep := h.step m
  generalize s.make m = s' at hstep
  have hle : ∀ t document g, s'.lint? t = some (document, g) →
      g ≤ s'.desk.generation document.uri := by
    intro t document g hlint
    obtain hlint' | ⟨htrigger, rfl, -⟩ := hstep.lint_before hlint
    · exact Int.le_trans (h.le t document g hlint') (hstep.generation_le document.uri)
    · exact Int.le_of_eq (hstep.generation_of_triggered htrigger).symm
  -- The generation of a lint that has just been triggered is newer than all others.
  have hnew : ∀ (u : TaskId) (document document' : Document) (g : Int),
      s.lint? u = some (document', g) → document.uri = document'.uri →
      g ≠ s.desk.generation document.uri + 1 := by
    intro u document document' g hlint huri hg
    have hle := h.le u document' g hlint
    rw [← huri] at hle
    omega
  refine ⟨fun uri => Int.le_trans (h.nonneg uri) (hstep.generation_le uri), ?_, ?_, hle, ?_⟩
  · intro t document g hlint
    rw [hstep.settings]
    obtain hlint' | ⟨-, -, hlanguage, -⟩ := hstep.lint_before hlint
    · exact h.language t document g hlint'
    · exact hlanguage
  · intro t document g hlint
    obtain hlint' | ⟨-, rfl, -⟩ := hstep.lint_before hlint
    · exact h.pos t document g hlint'
    · have := h.nonneg document.uri
      omega
  · intro t u document document' g hlint hlint' huri
    by_contra htu
    obtain hbefore | ⟨-, hg, -, hframe⟩ := hstep.lint_before hlint
    · obtain hbefore' | ⟨-, hg, -⟩ := hstep.lint_before hlint'
      · exact htu (h.unique t u document document' g hbefore hbefore' huri)
      · exact hnew t document' document g hbefore huri.symm hg
    · have hbefore' := (hframe u (Ne.symm htu)).symm.trans hlint'
      exact hnew u document document' g hbefore' huri hg

/-- Every course leaves a session in order. -/
lemma after (h : Ordered s) (ms : List Move) : Ordered (s.after ms) :=
  after_of_make (fun _ m h => h.make m) h ms

/-- What is published is an outcome of the newest generation of its document. -/
lemma generation_of_published (h : Ordered s) {o : Outcome} (ho : s.publication? m = some o) :
    o.generation = (s.make m).desk.generation o.uri := by
  obtain ⟨t, document, g, -, hstatus, hfits, -, hlint⟩ := (h.step m).published ho
  have hpos : 0 < g := by
    obtain hlint | ⟨-, rfl⟩ := hlint
    · exact h.pos t document g hlint
    · have := h.nonneg document.uri
      omega
  rw [hfits.uri, hfits.generation]
  exact ((Desk.isCurrent_iff _ document.uri hpos).1 (hfits.newest hstatus)).symm

end Ordered

/-! ## Spent generations -/

/-- A generation of a document is spent if it was handed out and no lint under way has it. -/
structure Spent (s : Session) (uri : String) (g : Int) : Prop where
  le : g ≤ s.desk.generation uri
  free : ∀ t document, s.lint? t = some (document, g) → document.uri ≠ uri

/-- The generation of a publication is spent. -/
lemma Ordered.spent (h : Ordered s) {o : Outcome} (ho : s.publication? m = some o) :
    Spent (s.make m) o.uri o.generation := by
  refine ⟨Int.le_of_eq (h.generation_of_published ho), fun u document hlint huri => ?_⟩
  have hstep := h.step m
  obtain ⟨t, document', g, hresult, -, hfits, hframe, horigin⟩ := hstep.published ho
  rw [hfits.generation] at hlint
  have hu : u ≠ t := by
    rintro rfl
    rw [result?_eq_none_of_lint? hlint] at hresult
    cases hresult
  have hbefore : s.lint? u = some (document, g) := (hframe u hu).symm.trans hlint
  have huri : document.uri = document'.uri := huri.trans hfits.uri
  obtain hlint' | ⟨-, hg⟩ := horigin
  · exact hu (h.unique u t document document' g hbefore hlint' huri)
  · have hle := h.le u document g hbefore
    rw [huri] at hle
    omega

/-- A generation that is spent stays so. -/
lemma Spent.make {uri : String} (hspent : Spent s uri g) (h : Ordered s) (m : Move) :
    Spent (s.make m) uri g := by
  have hstep := h.step m
  refine ⟨Int.le_trans hspent.le (hstep.generation_le uri), fun t document hlint huri => ?_⟩
  obtain hbefore | ⟨-, hg, -⟩ := hstep.lint_before hlint
  · exact hspent.free t document hbefore huri
  · have hle := hspent.le
    rw [huri] at hg
    omega

/-- After a generation of a document is spent, only newer ones are published. -/
lemma Spent.lt_of_published {uri : String} (hspent : Spent s uri g) (h : Ordered s) {o : Outcome}
    (ho : s.publication? m = some o) (huri : o.uri = uri) : g < o.generation := by
  obtain ⟨t, document, g', -, -, hfits, -, horigin⟩ := (h.step m).published ho
  have huri : document.uri = uri := hfits.uri.symm.trans huri
  have hle : g ≤ o.generation := by
    rw [h.generation_of_published ho, hfits.uri, huri]
    exact (hspent.make h m).le
  refine Int.lt_iff_le_and_ne.2 ⟨hle, fun hg => ?_⟩
  rw [hfits.generation] at hg
  subst hg
  obtain hlint | ⟨-, hg⟩ := horigin
  · exact hspent.free t document hlint huri
  · have hle := hspent.le
    rw [huri] at hg
    omega

/-- After a generation of a document is spent, only newer ones are published along every course. -/
lemma Spent.lt_of_mem_gather {uri : String} (hspent : Spent s uri g) (h : Ordered s)
    {ms : List Move} {o : Outcome} (ho : o ∈ s.gather publication? ms) (huri : o.uri = uri) :
    g < o.generation := by
  induction ms generalizing s with
  | nil => cases ho
  | cons m ms ih =>
    obtain ho | ho := List.mem_append.1 ho
    · exact hspent.lt_of_published h (Option.mem_toList.1 ho) huri
    · exact ih (hspent.make h m) (h.make m) ho

/-- The publications of a document come in the order of their generations. -/
theorem Ordered.pairwise_publications (h : Ordered s) (ms : List Move) :
    (s.gather publication? ms).Pairwise fun o o' =>
      o.uri = o'.uri → o.generation < o'.generation := by
  induction ms generalizing s with
  | nil => exact List.Pairwise.nil
  | cons m ms ih =>
    refine List.pairwise_append.2 ⟨?_, ih (h.make m), fun o ho o' ho' huri => ?_⟩
    · cases s.publication? m with
      | none => exact List.Pairwise.nil
      | some o => exact List.pairwise_singleton _ o
    · exact (h.spent (Option.mem_toList.1 ho)).lt_of_mem_gather (h.make m) ho' huri.symm

/-- Once the newest generation of a document is spent, the document keeps its diagnostics along
every course that triggers no lint of it. -/
theorem Spent.get_after {uri : String} (hspent : Spent s uri (s.desk.generation uri))
    (h : Ordered s) {ms : List Move} (hms : uri ∉ s.gather triggered? ms) :
    (s.after ms).desk.collection.get uri = s.desk.collection.get uri := by
  induction ms generalizing s with
  | nil => rfl
  | cons m ms ih =>
    obtain ⟨hm, hms⟩ := not_mem_gather_cons hms
    have hstep := h.step m
    have hgeneration := hstep.generation_of_not_triggered hm
    have hspent' : Spent (s.make m) uri ((s.make m).desk.generation uri) :=
      hgeneration ▸ hspent.make h m
    rw [after_cons, ih hspent' (h.make m) hms, hstep.collection]
    cases ho : s.publication? m with
    | none => rfl
    | some o =>
      refine Collection.get_enter_of_ne _ fun huri => ?_
      have hlt := hspent.lt_of_published h ho huri.symm
      rw [h.generation_of_published ho, ← huri, hgeneration] at hlt
      exact Int.lt_irrefl _ hlt

/-! ## What is published along a course -/

/-- A course leaves the settings alone, and does not dispose of the collection. -/
lemma Ordered.settings_after (h : Ordered s) (ms : List Move) :
    (s.after ms).desk.settings = s.desk.settings ∧
      (s.after ms).desk.collection.disposed = s.desk.collection.disposed := by
  induction ms generalizing s with
  | nil => exact ⟨rfl, rfl⟩
  | cons m ms ih =>
    obtain ⟨hsettings, hdisposed⟩ := ih (h.make m)
    have hstep := h.step m
    refine ⟨hsettings.trans hstep.settings, hdisposed.trans ?_⟩
    rw [hstep.collection, Collection.disposed_enter]

/-- A task that has ended stays as it has ended, along every course. -/
lemma Ordered.result_after (h : Ordered s) (ms : List Move) {r : TaskResult}
    (hr : s.result? t = some r) : (s.after ms).result? t = some r := by
  induction ms generalizing s with
  | nil => exact hr
  | cons m ms ih => exact ih (h.make m) ((h.step m).result hr)

/-- A course that triggers no lint of a document leaves its generation alone. -/
lemma Ordered.generation_after (h : Ordered s) {ms : List Move} {uri : String}
    (hms : uri ∉ s.gather triggered? ms) :
    (s.after ms).desk.generation uri = s.desk.generation uri := by
  induction ms generalizing s with
  | nil => rfl
  | cons m ms ih =>
    obtain ⟨hm, hms⟩ := not_mem_gather_cons hms
    rw [after_cons, ih (h.make m) hms, (h.step m).generation_of_not_triggered hm]

/-- A lint that is under way after a course that triggers no lint of its document was under way
before. -/
lemma Ordered.lint_before (h : Ordered s) {ms : List Move}
    (hms : document.uri ∉ s.gather triggered? ms)
    (hlint : (s.after ms).lint? t = some (document, g)) : s.lint? t = some (document, g) := by
  induction ms generalizing s with
  | nil => exact hlint
  | cons m ms ih =>
    obtain ⟨hm, hms⟩ := not_mem_gather_cons hms
    rcases (h.step m).lint_before (ih (h.make m) hms hlint) with hlint | ⟨htrigger, -⟩
    · exact hlint
    · exact absurd htrigger hm

/-- What is published in a course that triggers no lint of the document was found by a lint that was
under way before, in the newest generation; this lint has ended in it. -/
lemma Ordered.published_after (h : Ordered s) {ms : List Move} {o : Outcome}
    (hms : o.uri ∉ s.gather triggered? ms) (ho : o ∈ s.gather publication? ms) :
    ∃ t document, s.lint? t = some (document, s.desk.generation o.uri) ∧ document.uri = o.uri ∧
      (s.after ms).result? t = some (.outcome o) := by
  induction ms generalizing s with
  | nil => cases ho
  | cons m ms ih =>
    obtain ⟨hm, hms⟩ := not_mem_gather_cons hms
    have hstep := h.step m
    have hgeneration := hstep.generation_of_not_triggered hm
    rcases List.mem_append.1 ho with ho | ho
    · have ho := Option.mem_toList.1 ho
      obtain ⟨t, document, g, hresult, -, hfits, -, horigin⟩ := hstep.published ho
      have hg : g = s.desk.generation o.uri := by
        rw [← hgeneration, ← h.generation_of_published ho, hfits.generation]
      rcases horigin with hlint | ⟨htrigger, -⟩
      · exact ⟨t, document, hg ▸ hlint, hfits.uri.symm, (h.make m).result_after ms hresult⟩
      · rw [← hfits.uri] at htrigger
        exact absurd htrigger hm
    · obtain ⟨t, document, hlint, huri, hresult⟩ := ih (h.make m) hms ho
      rw [hgeneration] at hlint
      rcases hstep.lint_before hlint with hlint | ⟨htrigger, -⟩
      · exact ⟨t, document, hlint, huri, hresult⟩
      · rw [huri] at htrigger
        exact absurd htrigger hm

/-- A document is in the collection after a course if it was before, or was published in the
course. -/
lemma Ordered.contains_after (h : Ordered s) (ms : List Move) (uri : String) :
    (s.after ms).desk.collection.contains uri = true ↔
      s.desk.collection.contains uri = true ∨ ∃ o ∈ s.gather publication? ms, o.uri = uri := by
  induction ms generalizing s with
  | nil => simp [gather]
  | cons m ms ih =>
    rw [after_cons, ih (h.make m), (h.step m).collection]
    cases ho : s.publication? m with
    | none => simp [gather, ho, Collection.enter]
    | some o => simp [gather, ho, Collection.contains_enter, or_assoc]

/-- Nothing is published along a course if the collection has been disposed of. -/
lemma Ordered.gather_publication?_of_disposed (h : Ordered s) (ms : List Move)
    (hdisposed : s.desk.collection.disposed = true) : s.gather publication? ms = [] := by
  induction ms generalizing s with
  | nil => rfl
  | cons m ms ih =>
    have hstep := h.step m
    have hdisposed' : (s.make m).desk.collection.disposed = true := by
      rw [hstep.collection, Collection.disposed_enter]
      exact hdisposed
    unfold gather
    rw [ih (h.make m) hdisposed']
    cases ho : s.publication? m with
    | none => rfl
    | some o =>
      obtain ⟨t, document, g, -, hstatus, hfits, -⟩ := hstep.published ho
      rw [hfits.taken hstatus] at hdisposed'
      cases hdisposed'

/-! ## A session that begins -/

/-- A session in which nothing has been asked for yet. -/
def opening (settings : Settings) (disk : Disk) (gate : Gate)
    (entries : List (String × List Diagnostic)) (runner : Runner) : Session where
  desk := { settings, disk, gate, collection := { entries } }
  runner

/-- A session begins in order. -/
lemma ordered_opening (settings : Settings) (disk : Disk) (gate : Gate)
    (entries : List (String × List Diagnostic)) (runner : Runner) :
    Ordered (opening settings disk gate entries runner) where
  nonneg _ := Int.le_refl 0
  language _ _ _ h := by cases h
  pos _ _ _ h := by cases h
  le _ _ _ h := by cases h
  unique _ _ _ _ _ h := by cases h

end Session

end LintRelay
