import LintRelay.Proofs.Workspace.Course

/-!
# Documents that are closed

A document that is closed loses its diagnostics, but a lint of it that is under way is not told.
`contains_after_close` says when the document is in the collection again although the editor has not
mentioned it: exactly when such a lint has published since.  `contains_after_close_in_flight` is a
course in which this happens.
-/

namespace LintRelay

namespace Workspace

variable {w : Workspace} {uri : String}

/-- What an occasion takes out of a collection, where one that has been disposed of is empty: all
documents, if it disposes of the collection, and no document that it is not about, if it does not.
-/
lemma contains_clear {c : Collection} {o : Occasion} (huri : uri ∉ o.uris)
    (hempty : c.disposed = true → c.contains uri = false) :
    (o.clear c).contains uri = true ↔
      (o.clear c).disposed = false ∧ c.contains uri = true := by
  have hkept : c.contains uri = true ↔ c.disposed = false ∧ c.contains uri = true := by
    refine ⟨fun hcontains => ⟨?_, hcontains⟩, And.right⟩
    refine Bool.eq_false_iff.2 fun hdisposed => ?_
    rw [hempty hdisposed] at hcontains
    cases hcontains
  cases o with
  | close document =>
    have hne : document.uri ≠ uri := fun heq => huri (heq ▸ List.mem_singleton_self _)
    have hremoved : (c.delete document.uri).contains uri = true ↔ c.contains uri = true := by
      unfold Collection.delete Collection.contains
      rw [Keyed.has_remove_iff]
      exact and_iff_right hne
    exact hremoved.trans hkept
  | conclude =>
    constructor
    · intro hcontains
      cases hcontains
    · rintro ⟨hdisposed, -⟩
      cases hdisposed
  | _ => exact hkept

namespace Ordered

/-- Whether a document is in the collection after an occasion that is not about it. -/
lemma contains_meet (h : Ordered w) {o : Occasion} (huri : uri ∉ o.uris) :
    (w.meet o).session.desk.collection.contains uri = true ↔
      (w.meet o).session.desk.collection.disposed = false ∧
        (w.session.desk.collection.contains uri = true ∨
          ∃ p ∈ w.session.gather Session.publication? (w.moves o), p.uri = uri) := by
  have hempty := fun hdisposed => h.empty_moves o hdisposed uri
  rw [← h.session.contains_after (w.moves o) uri]
  obtain ⟨es, hes⟩ := session_meet w o
  rw [hes]
  exact contains_clear huri hempty

/-- Whether a document is in the collection after occasions that are not about it: it is if it was
before, or if it has been published since, unless the workspace has been disposed of. -/
theorem contains_after (h : Ordered w) {os : List Occasion} (huri : ∀ o ∈ os, uri ∉ o.uris) :
    (w.after os).session.desk.collection.contains uri = true ↔
      (w.after os).session.desk.collection.disposed = false ∧
        (w.session.desk.collection.contains uri = true ∨
          ∃ p ∈ w.publications os, p.uri = uri) := by
  induction os generalizing w with
  | nil =>
    refine ⟨fun hcontains => ⟨?_, .inl hcontains⟩, ?_⟩
    · refine Bool.eq_false_iff.2 fun hdisposed => ?_
      exact Bool.eq_false_iff.1 (h.empty hdisposed uri) hcontains
    · rintro ⟨-, hcontains | ⟨p, hp, -⟩⟩
      · exact hcontains
      · cases hp
  | cons o os ih =>
    have hhead := h.contains_meet (huri o List.mem_cons_self)
    have htail := ih (h.meet o) fun o' ho' => huri o' (List.mem_cons_of_mem o ho')
    have hopen : (w.after (o :: os)).session.desk.collection.disposed = false →
        (w.meet o).session.desk.collection.disposed = false := by
      intro hfalse
      refine Bool.eq_false_iff.2 fun hdisposed => ?_
      have htrue := (h.meet o).disposed_after os hdisposed
      exact Bool.eq_false_iff.1 hfalse htrue
    have hpublications : (∃ p ∈ w.publications (o :: os), p.uri = uri) ↔
        (∃ p ∈ w.session.gather Session.publication? (w.moves o), p.uri = uri) ∨
          ∃ p ∈ (w.meet o).publications os, p.uri = uri := by
      rw [publications_cons]
      simp only [List.mem_append, or_and_right, exists_or]
    have hafter : w.after (o :: os) = (w.meet o).after os := rfl
    rw [hpublications, ← or_assoc]
    rw [hafter] at hopen ⊢
    rw [htail, hhead]
    constructor
    · rintro ⟨hfalse, ⟨-, hbefore⟩ | hrest⟩
      · exact ⟨hfalse, .inl hbefore⟩
      · exact ⟨hfalse, .inr hrest⟩
    · rintro ⟨hfalse, hbefore | hrest⟩
      · exact ⟨hfalse, .inl ⟨hopen hfalse, hbefore⟩⟩
      · exact ⟨hfalse, .inr hrest⟩

/-- A task that has ended stays as it has ended, whatever the workspace meets with. -/
lemma result_after (h : Ordered w) (os : List Occasion) {t : TaskId} {r : TaskResult}
    (hr : w.session.result? t = some r) : (w.after os).session.result? t = some r := by
  induction os generalizing w with
  | nil => exact hr
  | cons o os ih =>
    refine ih (h.meet o) ?_
    have hresult := h.session.result_after (w.moves o) hr
    obtain ⟨es, hes⟩ := session_meet w o
    rw [hes]
    exact hresult

/-- What is published of a document along occasions that are not about it was found by a lint that
was under way before, in the newest generation of the document; this lint has ended in it. -/
theorem published_after (h : Ordered w) {os : List Occasion} {p : Outcome}
    (huri : ∀ o ∈ os, p.uri ∉ o.uris) (hp : p ∈ w.publications os) :
    ∃ t document, w.session.lint? t = some (document, w.session.desk.generation p.uri) ∧
      document.uri = p.uri ∧ (w.after os).session.result? t = some (.outcome p) := by
  induction os generalizing w with
  | nil => cases hp
  | cons o os ih =>
    have htriggers := h.not_mem_triggers (huri o List.mem_cons_self)
    have hrest : ∀ o' ∈ os, p.uri ∉ o'.uris :=
      fun o' ho' => huri o' (List.mem_cons_of_mem o ho')
    obtain ⟨es, hes⟩ := session_meet w o
    rcases List.mem_append.1 hp with hp | hp
    · obtain ⟨t, document, hlint, hdocument, hresult⟩ := h.session.published_after htriggers hp
      have hresult' : (w.meet o).session.result? t = some (.outcome p) := by
        rw [hes]
        exact hresult
      exact ⟨t, document, hlint, hdocument, (h.meet o).result_after os hresult'⟩
    · obtain ⟨t, document, hlint, hdocument, hresult⟩ := ih (h.meet o) hrest hp
      have hgeneration : (w.meet o).session.desk.generation p.uri =
          w.session.desk.generation p.uri := by
        rw [hes]
        exact h.session.generation_after htriggers
      have hlint' : (w.session.after (w.moves o)).lint? t =
          some (document, w.session.desk.generation p.uri) := by
        rw [← hgeneration, ← hlint, hes]
        rfl
      rw [← hdocument] at htriggers
      exact ⟨t, document, h.session.lint_before htriggers hlint', hdocument, hresult⟩

end Ordered

/-- A document that is closed is out of the collection.  Whatever happens then that the editor does
not mention the document in, the document is in the collection again if and only if it has been
published since and the workspace has not been disposed of; and it can only have been published by a
lint that was under way when it was closed, in its newest generation. -/
theorem contains_after_close (settings : Settings) (disk : Disk)
    (entries : List (String × List Diagnostic)) (runner : Runner) (os : List Occasion)
    (document : Document) :
    let w := ((opening settings disk entries runner).after os).meet (.close document)
    w.session.desk.collection.contains document.uri = false ∧
    ∀ os' : List Occasion, (∀ o ∈ os', document.uri ∉ o.uris) →
      let w' := w.after os'
      (w'.session.desk.collection.contains document.uri = true ↔
        w'.session.desk.collection.disposed = false ∧
          ∃ p ∈ w.publications os', p.uri = document.uri) ∧
      ∀ p ∈ w.publications os', p.uri = document.uri →
        ∃ t document', w.session.lint? t =
            some (document', w.session.desk.generation document.uri) ∧
          document'.uri = document.uri ∧ w'.session.result? t = some (.outcome p) := by
  intro w
  have h : Ordered w := ((ordered_opening settings disk entries runner).after os).meet _
  have hclosed : w.session.desk.collection.contains document.uri = false := by
    refine Bool.eq_false_iff.2 fun hcontains => ?_
    exact (Keyed.has_remove_iff.1 hcontains).1 rfl
  refine ⟨hclosed, ?_⟩
  intro os' huri w'
  constructor
  · have hcontains := h.contains_after huri
    rw [hclosed] at hcontains
    simpa using hcontains
  · intro p hp heq
    rw [← heq] at huri ⊢
    exact h.published_after huri hp

/-- A document that is closed while the linter checks its text is in the collection again as soon as
the linter has answered, although nobody has mentioned the document since. -/
theorem contains_after_close_in_flight :
    let settings : Settings := { workingRoot := .ofNames ["proj"], timeout := none }
    let disk : Disk := { entries := [], workingPlace := ["proj"] }
    let document : Document := {
      uri := "file:///proj/lib/foo.ex"
      path := .ofNames ["proj", "lib", "foo.ex"]
      languageId := "elixir"
      text := "" }
    let files := "\x7b\"config\": \x7b\"files\": [\"lib/foo.ex\"]\x7d\x7d"
    let finding := "lib/foo.ex:3:5: W: m [Credo.Check.Warning.IoInspect]\n"
    let runner : Runner := fun mode _ => {
      held := mode == .list
      answer := fun _ => .finished { text := files, returnCode := 0 } }
    let course : List Occasion := [.activate [], .trigger document, .motion (.wake 0 .start)]
    let w := ((opening settings disk [] runner).after course).meet (.close document)
    let o : Occasion := .motion (.wake 0 (.answer (.finished { text := finding, returnCode := 0 })))
    document.uri ∉ o.uris ∧
      w.session.desk.collection.contains document.uri = false ∧
      (w.meet o).session.desk.collection.contains document.uri = true := by
  decide +kernel

end Workspace

end LintRelay
