import LintRelay.Proofs.Session.Judgement

/-!
# Desks that are alike for a document

The lints of one document read little of what is on the desk: the settings, the disk, the gate, the
newest generation of the document, and whether the collection takes diagnostics.  Two desks that
agree in this and in the document's entry in the collection are *alike* for the document
(`Desk.Alike`), whatever they hold of other documents.

Two things keep desks alike.  A move of a lint of the document, made on both, gives the same result
on both and leaves them alike (`Alike.beginLint`, `Alike.listed`, `Alike.checked`).  And what lints
of other documents do leaves a desk alike to what it was (`alike_advance_of_ne`,
`alike_of_enter`).  Manifests that are kept are the exception: they pass from the lint of one
document to that of another, so the moves that may read one are stated for settings under which no
manifest is kept.
-/

namespace LintRelay

/-- Entering the same into two collections that agree on a document leaves them agreeing on it. -/
lemma Collection.lookup_enter {uri : String} {c c' : Collection}
    (hentry : c'.entries.lookup uri = c.entries.lookup uri) (p : Option Outcome) :
    (c'.enter p).entries.lookup uri = (c.enter p).entries.lookup uri := by
  cases p with
  | none => exact hentry
  | some o =>
    unfold enter
    dsimp only
    by_cases huri : o.uri = uri
    · rw [huri, Keyed.lookup_put_self, Keyed.lookup_put_self]
    · rw [Keyed.lookup_put_of_ne (Ne.symm huri), Keyed.lookup_put_of_ne (Ne.symm huri)]
      exact hentry

namespace Desk

/-- Two desks on which lints of a document find the same. -/
structure Alike (uri : String) (d e : Desk) : Prop where
  settings : e.settings = d.settings
  disk : e.disk = d.disk
  gate : e.gate = d.gate
  generation : e.generations.lookup uri = d.generations.lookup uri
  entry : e.collection.entries.lookup uri = d.collection.entries.lookup uri
  disposed : e.collection.disposed = d.collection.disposed
  name : e.collection.name = d.collection.name

variable {uri other : String} {d d' e e' : Desk} {document : Document} {g : Int}

/-- Every desk is alike to itself. -/
lemma Alike.refl (uri : String) (d : Desk) : Alike uri d d :=
  ⟨rfl, rfl, rfl, rfl, rfl, rfl, rfl⟩

/-- Likeness goes both ways. -/
lemma Alike.symm (h : Alike uri d e) : Alike uri e d :=
  ⟨h.settings.symm, h.disk.symm, h.gate.symm, h.generation.symm, h.entry.symm, h.disposed.symm,
    h.name.symm⟩

/-- Likeness can be joined. -/
lemma Alike.trans (h : Alike uri d d') (h' : Alike uri d' e) : Alike uri d e :=
  ⟨h'.settings.trans h.settings, h'.disk.trans h.disk, h'.gate.trans h.gate,
    h'.generation.trans h.generation, h'.entry.trans h.entry, h'.disposed.trans h.disposed,
    h'.name.trans h.name⟩

/-- A desk that stays still is alike to what it was, for every document. -/
lemma Still.alike (h : d.Still d') (uri : String) : Alike uri d d' :=
  ⟨h.settings, h.disk, h.gate, by rw [h.generations], by rw [h.collection], by rw [h.collection],
    by rw [h.collection]⟩

/-- Desks that are alike and stay still are alike afterwards. -/
lemma Alike.of_still (h : Alike uri d e) (hd : d.Still d') (he : e.Still e') : Alike uri d' e' :=
  ((hd.alike uri).symm.trans h).trans (he.alike uri)

/-! ## What is found on both -/

/-- The newest generation of the document is the same on both. -/
lemma Alike.generation_eq (h : Alike uri d e) : e.generation uri = d.generation uri := by
  unfold Desk.generation
  rw [h.generation]

/-- The same lints of the document are the newest on both. -/
lemma Alike.isCurrent (h : Alike uri d e) (g : Int) : e.isCurrent uri g = d.isCurrent uri g := by
  unfold Desk.isCurrent
  rw [h.generation]

/-- No manifest saves a call where none is kept. -/
lemma kept?_eq_none (hcache : d.settings.cacheManifest = false) : d.kept? = none := by
  simp [kept?, hcache]

/-- A lint of the document goes on in the same way on both behind the judgement on it. -/
lemma Alike.judged (h : Alike uri d e) (huri : document.uri = uri) (v : Except Breakdown Bool) :
    (e.judged (.lint document g) v).2 = (d.judged (.lint document g) v).2 := by
  have hcurrent : e.isCurrent document.uri g = d.isCurrent document.uri g := by
    rw [huri]
    exact h.isCurrent g
  cases v with
  | error b => rfl
  | ok eligible =>
    cases eligible with
    | false => rfl
    | true =>
      unfold Desk.judged judgedLint
      dsimp only
      rw [hcurrent]
      split <;> rfl

/-- A lint of the document goes on in the same way on both behind the linter's answer about the
files of the project. -/
lemma Alike.listed (h : Alike uri d e) (huri : document.uri = uri) (a : Answer) :
    (e.listed (.question (.lint document g)) a).2 =
      (d.listed (.question (.lint document g)) a).2 := by
  have hread : Alike uri (d.manifestOf a).1 (e.manifestOf a).1 :=
    h.of_still (still_manifestOf d a) (still_manifestOf e a)
  have hverdict : ((e.manifestOf a).1.verdict document.path (e.manifestOf a).2).2 =
      ((d.manifestOf a).1.verdict document.path (d.manifestOf a).2).2 := by
    rw [manifestOf_congr h.disk h.settings, verdict_congr hread.disk]
  have hlooked := hread.of_still (still_verdict _ document.path (d.manifestOf a).2)
    (still_verdict _ document.path (e.manifestOf a).2)
  unfold Desk.listed informed
  dsimp only [Question.path]
  rw [hverdict]
  exact hlooked.judged huri _

/-- A lint of the document asks in the same way on both whether it is part of the project. -/
lemma Alike.vet (h : Alike uri d e) (huri : document.uri = uri)
    (hcache : d.settings.cacheManifest = false) :
    (e.vet (.lint document g)).2 = (d.vet (.lint document g)).2 := by
  have hcache' : e.settings.cacheManifest = false := by rw [h.settings, hcache]
  unfold Desk.vet
  rw [h.gate]
  cases d.gate with
  | manifest =>
    unfold inquire
    rw [kept?_eq_none hcache, kept?_eq_none hcache']
  | fixed eligible => exact congrArg Opening.onward (h.judged huri _)
  | broken message => exact congrArg Opening.onward (h.judged huri _)

/-! ## Moves on both -/

/-- Handing out the next generation of the document on both leaves them alike. -/
lemma Alike.advance (h : Alike uri d e) : Alike uri (d.advance uri) (e.advance uri) where
  settings := h.settings
  disk := h.disk
  gate := h.gate
  generation := by
    unfold Desk.advance
    rw [h.generation_eq, Keyed.lookup_put_self, Keyed.lookup_put_self]
  entry := h.entry
  disposed := h.disposed
  name := h.name

/-- A lint of the document begins in the same way on both, and leaves them alike. -/
lemma Alike.beginLint (h : Alike uri d e) (huri : document.uri = uri)
    (hcache : d.settings.cacheManifest = false) (given : Option Int) :
    (e.beginLint document given).2 = (d.beginLint document given).2 ∧
      Alike uri (d.beginLint document given).1 (e.beginLint document given).1 := by
  unfold Desk.beginLint
  rw [h.settings]
  split
  · exact ⟨rfl, h⟩
  · cases given with
    | some g => exact ⟨h.vet huri hcache, h.of_still (still_vet d _) (still_vet e _)⟩
    | none =>
      have hadvanced := h.advance
      subst huri
      dsimp only
      rw [hadvanced.generation_eq]
      exact ⟨hadvanced.vet rfl hcache, hadvanced.of_still (still_vet _ _) (still_vet _ _)⟩

/-- Publishing ends in the same way on both. -/
lemma Alike.publish (h : Alike uri d e) (huri : document.uri = uri) (r : Report)
    (returnCode : Int) :
    (e.publish document g r returnCode).2 = (d.publish document g r returnCode).2 := by
  have hcurrent : e.isCurrent document.uri g = d.isCurrent document.uri g := by
    rw [huri]
    exact h.isCurrent g
  unfold Desk.publish Collection.set? Collection.disposedMessage
  dsimp only
  rw [hcurrent, h.settings, h.disposed, h.name]
  split
  · by_cases hdisposed : d.collection.disposed = true
    · simp only [hdisposed, if_true]
    · simp only [hdisposed]
      rfl
  · rfl

/-- The last move of a lint of the document ends it in the same way on both, and leaves them alike.
-/
lemma Alike.checked (h : Alike uri d e) (huri : document.uri = uri) (a : Answer) :
    (e.checked document g a).2 = (d.checked document g a).2 ∧
      Alike uri (d.checked document g a).1 (e.checked document g a).1 := by
  have hresult : (e.checked document g a).2 = (d.checked document g a).2 := by
    cases a with
    | finished out =>
      unfold Desk.checked
      dsimp only
      split
      · exact (h.of_still (still_tell d _) (still_tell e _)).publish huri _ _
      · rfl
    | failed f => rfl
    | crashed message => rfl
  obtain ⟨hsettings, hdisk, hgate⟩ := settings_checked d document g a
  obtain ⟨hsettings', hdisk', hgate'⟩ := settings_checked e document g a
  have hcollection := collection_checked d document g a
  have hcollection' := collection_checked e document g a
  refine ⟨hresult, ?_, ?_, ?_, ?_, ?_, ?_, ?_⟩
  · exact (hsettings'.trans h.settings).trans hsettings.symm
  · exact (hdisk'.trans h.disk).trans hdisk.symm
  · exact (hgate'.trans h.gate).trans hgate.symm
  · rw [generations_checked, generations_checked]
    exact h.generation
  · rw [hcollection, hcollection', hresult]
    exact Collection.lookup_enter h.entry _
  · rw [hcollection, hcollection', Collection.disposed_enter, Collection.disposed_enter]
    exact h.disposed
  · rw [hcollection, hcollection', Collection.name_enter, Collection.name_enter]
    exact h.name

/-! ## What happens to other documents -/

/-- Handing out a generation of another document leaves the desk alike. -/
lemma alike_advance_of_ne (h : uri ≠ other) (d : Desk) : Alike uri d (d.advance other) :=
  { Alike.refl uri d with generation := Keyed.lookup_put_of_ne h _ _ }

/-- Entering the outcome of another document leaves the desk alike. -/
lemma alike_of_enter {o : Option Outcome} (hsettings : d'.settings = d.settings)
    (hdisk : d'.disk = d.disk) (hgate : d'.gate = d.gate)
    (hgenerations : d'.generations = d.generations)
    (hcollection : d'.collection = d.collection.enter o) (ho : ∀ p, o = some p → p.uri ≠ uri) :
    Alike uri d d' where
  settings := hsettings
  disk := hdisk
  gate := hgate
  generation := by rw [hgenerations]
  entry := by
    rw [hcollection]
    cases o with
    | none => rfl
    | some p => exact Keyed.lookup_put_of_ne (Ne.symm (ho p rfl)) _ _
  disposed := by rw [hcollection, Collection.disposed_enter]
  name := by rw [hcollection, Collection.name_enter]

end Desk

end LintRelay
