import LintRelay.Session.Task
import Mathlib.Tactic.Lemma

/-!
# Lints at the desk

What the moves of a task do to the desk, for a lint of one document in one generation.

A desk *stays still* in a move that changes nothing on it but the manifest that is kept and the
reports (`Desk.Still`).  All moves up to the linter's answer about the text leave the desk still;
after that answer only the collection may change, and only by a publication
(`Desk.collection_checked`).  `TaskResult.Fits` says how the lint of a document in a generation may
end, and the lemmas of this file show of every move that it goes on with the same document in the
same generation, or ends in a fitting result.
-/

namespace LintRelay

/-! ## What a lint ends with -/

/-- How the outcome of a lint fits the state of the desk: it is the outcome of that document in that
generation, it is published only while the generation is the newest, and superseded only when it is
not. -/
structure Outcome.Fits (d : Desk) (document : Document) (g : Int) (o : Outcome) : Prop where
  uri : o.uri = document.uri
  generation : o.generation = g
  attempted : o.status ≠ .skipped
  newest : o.status = .published → d.isCurrent document.uri g = true
  taken : o.status = .published → d.collection.disposed = false
  stale : o.status = .superseded → d.isCurrent document.uri g = false

/-- How the result of a task fits the lint of a document in a generation.  Besides having an
outcome, a lint may be cancelled or break down; on a collection that was disposed of it breaks down
only if it is the newest, and only if the collection was. -/
def TaskResult.Fits (d : Desk) (document : Document) (g : Int) : TaskResult → Prop
  | .outcome o => o.Fits d document g
  | .cancelled => True
  | .failed (.disposed _) => d.isCurrent document.uri g = true ∧ d.collection.disposed = true
  | .failed _ => True
  | _ => False

/-- The outcome that a result publishes, if it does. -/
def TaskResult.published? : TaskResult → Option Outcome
  | .outcome o => if o.status = .published then some o else none
  | _ => none

/-- A result publishes an outcome only if it is this outcome, with the status of a published one. -/
lemma TaskResult.published?_eq_some_iff {r : TaskResult} {o : Outcome} :
    r.published? = some o ↔ r = .outcome o ∧ o.status = .published := by
  cases r with
  | outcome o' =>
    simp only [published?, Option.ite_none_right_eq_some, Option.some.injEq, outcome.injEq]
    constructor
    · rintro ⟨h, rfl⟩
      exact ⟨rfl, h⟩
    · rintro ⟨rfl, h⟩
      exact ⟨h, rfl⟩
  | _ => simp [published?]

/-- The collection with the diagnostics of a published outcome in the place of those that its
document had. -/
def Collection.enter (c : Collection) : Option Outcome → Collection
  | some o => { c with entries := Keyed.put o.uri o.diagnostics c.entries }
  | none => c

/-- Publishing does not dispose of a collection. -/
@[simp] lemma Collection.disposed_enter (c : Collection) (p : Option Outcome) :
    (c.enter p).disposed = c.disposed := by
  cases p <;> rfl

/-- Publishing does not rename a collection. -/
@[simp] lemma Collection.name_enter (c : Collection) (p : Option Outcome) :
    (c.enter p).name = c.name := by
  cases p <;> rfl

/-- A published document has the diagnostics of its outcome. -/
lemma Collection.get_enter_self (c : Collection) (o : Outcome) :
    (c.enter (some o)).get o.uri = o.diagnostics := by
  simp [enter, get, Keyed.lookup_put_self]

/-- Publishing one document leaves the diagnostics of all others alone. -/
lemma Collection.get_enter_of_ne (c : Collection) {o : Outcome} {uri : String} (h : uri ≠ o.uri) :
    (c.enter (some o)).get uri = c.get uri := by
  simp [enter, get, Keyed.lookup_put_of_ne h]

/-- Publishing puts one document into the collection. -/
lemma Collection.contains_enter (c : Collection) (o : Outcome) (uri : String) :
    (c.enter (some o)).contains uri = true ↔ c.contains uri = true ∨ o.uri = uri := by
  unfold enter contains
  rw [or_comm]
  exact Keyed.has_put_iff

/-! ## Generations -/

/-- The next generation is one more. -/
@[simp] lemma Desk.generation_advance_self (d : Desk) (uri : String) :
    (d.advance uri).generation uri = d.generation uri + 1 := by
  simp [advance, generation, Keyed.lookup_put_self]

/-- A generation that is handed out leaves those of other documents alone. -/
lemma Desk.generation_advance_of_ne (d : Desk) {uri other : String} (h : other ≠ uri) :
    (d.advance uri).generation other = d.generation other := by
  simp [advance, generation, Keyed.lookup_put_of_ne h]

/-- A positive generation is the newest if it is the last that was handed out. -/
lemma Desk.isCurrent_iff (d : Desk) (uri : String) {g : Int} (hg : 0 < g) :
    d.isCurrent uri g = true ↔ d.generation uri = g := by
  unfold isCurrent generation
  cases d.generations.lookup uri with
  | none =>
    simp only [Option.getD_none]
    constructor
    · intro h
      simp at h
    · omega
  | some g' => simp

/-! ## Desks that stay still -/

/-- A desk as it was, but for the manifest that is kept and the reports. -/
structure Desk.Still (d d' : Desk) : Prop where
  settings : d'.settings = d.settings
  disk : d'.disk = d.disk
  gate : d'.gate = d.gate
  generations : d'.generations = d.generations
  collection : d'.collection = d.collection

namespace Desk

/-- A desk that nothing happens to stays still. -/
lemma Still.refl (d : Desk) : d.Still d :=
  ⟨rfl, rfl, rfl, rfl, rfl⟩

/-- Moves that leave the desk still can be joined. -/
lemma Still.trans {d d' d'' : Desk} (h : d.Still d') (h' : d'.Still d'') : d.Still d'' :=
  ⟨h'.settings.trans h.settings, h'.disk.trans h.disk, h'.gate.trans h.gate,
    h'.generations.trans h.generations, h'.collection.trans h.collection⟩

/-- On a desk that stays still, the newest generations are the same. -/
lemma Still.isCurrent {d d' : Desk} (h : d.Still d') (uri : String) (g : Int) :
    d'.isCurrent uri g = d.isCurrent uri g := by
  simp [Desk.isCurrent, h.generations]

/-- Reporting leaves the desk still. -/
lemma still_tell (d : Desk) (es : List Event) : d.Still (d.tell es) :=
  ⟨rfl, rfl, rfl, rfl, rfl⟩

/-- Keeping a manifest leaves the desk still. -/
lemma still_keep (d : Desk) (m : Manifest) : d.Still (d.keep m) := by
  unfold keep
  split
  · exact ⟨rfl, rfl, rfl, rfl, rfl⟩
  · exact Still.refl d

/-- Reading a manifest leaves the desk still. -/
lemma still_manifestOf (d : Desk) (a : Answer) : d.Still (d.manifestOf a).1 := by
  cases a with
  | finished o =>
    unfold manifestOf
    dsimp only
    split
    · exact (still_tell d _).trans (still_keep _ _)
    · exact Still.refl d
  | failed f => exact still_tell d _
  | crashed message => exact Still.refl d

/-- Looking a path up in a manifest leaves the desk still. -/
lemma still_verdict (d : Desk) (path : Path) (m : Except Breakdown Manifest) :
    d.Still (d.verdict path m).1 := by
  unfold verdict
  split
  · split <;> exact Still.refl d
  · exact still_tell d _
  · exact Still.refl d

/-- Judging a lint leaves the desk still. -/
lemma still_judgedLint (d : Desk) (document : Document) (g : Int) (eligible : Bool) :
    d.Still (d.judgedLint document g eligible).1 := by
  cases eligible with
  | false => exact still_tell d _
  | true =>
    unfold judgedLint
    dsimp only
    split
    · exact Still.refl d
    · exact still_tell d _

/-- Judging leaves the desk still. -/
lemma still_judged (d : Desk) (q : Question) (v : Except Breakdown Bool) :
    d.Still (d.judged q v).1 := by
  cases v with
  | error b => exact Still.refl d
  | ok eligible =>
    cases q with
    | lint document g => exact still_judgedLint d document g eligible
    | eligible path => exact Still.refl d

/-- Going on with a manifest leaves the desk still. -/
lemma still_informed (d : Desk) (m : Except Breakdown Manifest) (p : Purpose) :
    d.Still (d.informed m p).1 := by
  cases p with
  | manifest => cases m <;> exact Still.refl d
  | question q => exact (still_verdict d q.path m).trans (still_judged _ q _)

/-- Asking for a manifest leaves the desk still. -/
lemma still_inquire (d : Desk) (p : Purpose) : d.Still (d.inquire p).1 := by
  unfold inquire
  split
  · exact still_informed d _ p
  · exact Still.refl d

/-- Asking about a path leaves the desk still. -/
lemma still_vet (d : Desk) (q : Question) : d.Still (d.vet q).1 := by
  unfold vet
  split
  · exact still_inquire d _
  · exact still_judged d q _
  · exact still_judged d q _

/-- The linter's answer about the files of the project leaves the desk still. -/
lemma still_listed (d : Desk) (p : Purpose) (a : Answer) : d.Still (d.listed p a).1 :=
  (still_manifestOf d a).trans (still_informed _ _ p)

end Desk

/-- Whether an outcome fits a lint only hangs on the generations and on whether the collection was
disposed of. -/
lemma TaskResult.fits_congr {d d' : Desk} (hg : d'.generations = d.generations)
    (hc : d'.collection.disposed = d.collection.disposed) (document : Document) (g : Int)
    {r : TaskResult} : r.Fits d' document g ↔ r.Fits d document g := by
  have hcurrent : d'.isCurrent document.uri g = d.isCurrent document.uri g := by
    simp [Desk.isCurrent, hg]
  unfold TaskResult.Fits
  split
  · constructor
    · exact fun h => ⟨h.uri, h.generation, h.attempted, hcurrent ▸ h.newest, hc ▸ h.taken,
        hcurrent ▸ h.stale⟩
    · exact fun h => ⟨h.uri, h.generation, h.attempted, hcurrent ▸ h.newest, hc ▸ h.taken,
        hcurrent ▸ h.stale⟩
  · exact Iff.rfl
  · rw [hcurrent, hc]
  · exact Iff.rfl
  · exact Iff.rfl

/-! ## The lint of a document up to the call on its text -/

/-- How a task stands behind the eligibility step of a lint: it is about to have the text of the
document checked and the lint is the newest, or it has ended in a fitting result, with nothing
published. -/
def Onward.Suits (d : Desk) (document : Document) (g : Int) : Onward → Prop
  | .check document' g' =>
    document' = document ∧ g' = g ∧ d.isCurrent document.uri g = true
  | .ended r => r.Fits d document g ∧ r.published? = none

/-- How a task stands behind the first move of a lint. -/
def Opening.Suits (d : Desk) (document : Document) (g : Int) : Opening → Prop
  | .list p => p = .question (.lint document g)
  | .onward o => o.Suits d document g

namespace Desk

/-- A lint that has been judged goes on only if it is the newest; if it is not, it is superseded. -/
lemma judgedLint_suits (d : Desk) (document : Document) (g : Int) (eligible : Bool) :
    (d.judgedLint document g eligible).2.Suits d document g := by
  cases eligible with
  | false => exact ⟨⟨rfl, rfl, nofun, nofun, nofun, nofun⟩, rfl⟩
  | true =>
    unfold judgedLint
    dsimp only
    split
    · next h => exact ⟨rfl, rfl, h⟩
    · next h => exact ⟨⟨rfl, rfl, nofun, nofun, nofun, fun _ => Bool.eq_false_iff.2 h⟩, rfl⟩

/-- What fits a lint on a desk fits it after the desk has stayed still. -/
lemma Still.fits_iff {d d' : Desk} (h : d.Still d') (document : Document) (g : Int)
    {r : TaskResult} : r.Fits d' document g ↔ r.Fits d document g :=
  TaskResult.fits_congr h.generations (by rw [h.collection]) document g

/-- A lint stands as it has to on a desk if it does so after the desk has stayed still. -/
lemma Still.suits_iff {d d' : Desk} (h : d.Still d') (document : Document) (g : Int)
    {o : Onward} : o.Suits d' document g ↔ o.Suits d document g := by
  cases o with
  | check document' g' => simp only [Onward.Suits, h.isCurrent]
  | ended r => simp only [Onward.Suits, h.fits_iff document g]

/-- The same behind the first move. -/
lemma Still.suits_opening_iff {d d' : Desk} (h : d.Still d') (document : Document) (g : Int)
    {o : Opening} : o.Suits d' document g ↔ o.Suits d document g := by
  cases o with
  | list p => exact Iff.rfl
  | onward o => exact h.suits_iff document g

/-- A verdict never says that the collection takes nothing any more. -/
lemma verdict_ne_disposed (d : Desk) (path : Path) {m : Except Breakdown Manifest}
    (hm : ∀ message, m ≠ .error (.disposed message)) (message : String) :
    (d.verdict path m).2 ≠ .error (.disposed message) := by
  unfold verdict
  split
  · split <;> simp
  · simp
  · simpa using hm message

/-- A manifest never says that the collection takes nothing any more. -/
lemma manifestOf_ne_disposed (d : Desk) (a : Answer) (message : String) :
    (d.manifestOf a).2 ≠ .error (.disposed message) := by
  cases a with
  | finished o =>
    unfold manifestOf
    dsimp only
    split <;> simp
  | failed f => simp [manifestOf]
  | crashed m => simp [manifestOf]

/-- A breakdown fits every lint, unless it blames the collection. -/
lemma fits_failed (d : Desk) (document : Document) (g : Int) {b : Breakdown}
    (hb : ∀ message, b ≠ .disposed message) : (TaskResult.failed b).Fits d document g := by
  cases b with
  | disposed message => exact absurd rfl (hb message)
  | _ => trivial

/-- A lint goes on as it has to behind its verdict. -/
lemma judged_suits (d : Desk) (document : Document) (g : Int) {v : Except Breakdown Bool}
    (hv : ∀ message, v ≠ .error (.disposed message)) :
    (d.judged (.lint document g) v).2.Suits d document g := by
  cases v with
  | error b => exact ⟨fits_failed d document g fun message h => hv message (h ▸ rfl), rfl⟩
  | ok eligible => exact judgedLint_suits d document g eligible

/-- A lint goes on as it has to when it knows the files of the project. -/
lemma informed_suits (d : Desk) (document : Document) (g : Int) {m : Except Breakdown Manifest}
    (hm : ∀ message, m ≠ .error (.disposed message)) :
    (d.informed m (.question (.lint document g))).2.Suits d document g := by
  have hstill : d.Still (d.verdict document.path m).1 := still_verdict d document.path m
  have hsuits := judged_suits (d.verdict document.path m).1 document g
    (verdict_ne_disposed d document.path hm)
  exact (hstill.suits_iff document g).1 hsuits

/-- A lint goes on as it has to behind the linter's answer about the files of the project. -/
lemma listed_suits (d : Desk) (document : Document) (g : Int) (a : Answer) :
    (d.listed (.question (.lint document g)) a).2.Suits d document g :=
  ((still_manifestOf d a).suits_iff document g).1
    (informed_suits (d.manifestOf a).1 document g (manifestOf_ne_disposed d a))

/-- A lint goes on as it has to behind its eligibility step, however documents are judged. -/
lemma vet_suits (d : Desk) (document : Document) (g : Int) :
    (d.vet (.lint document g)).2.Suits d document g := by
  unfold vet
  split
  · unfold inquire
    split
    · exact informed_suits d document g (by simp)
    · exact rfl
  · next eligible _ => exact judged_suits d document g (v := .ok eligible) nofun
  · next message _ => exact judged_suits d document g (v := .error (.crashed message)) nofun

/-- The lint of a document in another language is skipped. -/
lemma beginLint_skipped {d : Desk} {document : Document}
    (hlanguage : document.languageId ≠ d.settings.languageId) (given : Option Int) :
    d.beginLint document given =
      (d, .onward (.ended (.outcome { uri := document.uri, status := .skipped }))) := by
  simp [beginLint, hlanguage]

/-- A lint that has been given its generation begins with its eligibility step. -/
lemma beginLint_given {d : Desk} {document : Document}
    (hlanguage : document.languageId = d.settings.languageId) (g : Int) :
    d.beginLint document (some g) = d.vet (.lint document g) := by
  simp [beginLint, hlanguage]

/-- A lint without a generation is given the next one, and begins with its eligibility step then. -/
lemma beginLint_next {d : Desk} {document : Document}
    (hlanguage : document.languageId = d.settings.languageId) :
    d.beginLint document none =
      (d.advance document.uri).vet (.lint document (d.generation document.uri + 1)) := by
  simp [beginLint, hlanguage]

/-- The first move of a lint leaves the settings, the disk and the gate alone. -/
lemma settings_beginLint (d : Desk) (document : Document) (given : Option Int) :
    (d.beginLint document given).1.settings = d.settings ∧
      (d.beginLint document given).1.disk = d.disk ∧
      (d.beginLint document given).1.gate = d.gate := by
  unfold beginLint
  split
  · exact ⟨rfl, rfl, rfl⟩
  · cases given with
    | some g =>
      have hstill := still_vet d (.lint document g)
      exact ⟨hstill.settings, hstill.disk, hstill.gate⟩
    | none =>
      have hstill := still_vet (d.advance document.uri)
        (.lint document ((d.advance document.uri).generation document.uri))
      exact ⟨hstill.settings, hstill.disk, hstill.gate⟩

end Desk

/-! ## Tasks without a lint -/

/-- A purpose that is no lint. -/
def Purpose.IsIdle : Purpose → Prop
  | .question (.lint ..) => False
  | _ => True

/-- Behind its eligibility step, a task without a lint has ended, with nothing published. -/
def Onward.IsIdle : Onward → Prop
  | .check .. => False
  | .ended r => r.published? = none

/-- Behind its first move, a task without a lint has ended, with nothing published, or asks for the
files of the project for a purpose that is no lint. -/
def Opening.IsIdle : Opening → Prop
  | .list p => p.IsIdle
  | .onward o => o.IsIdle

namespace Desk

/-- A task without a lint goes on without one when it knows the files of the project. -/
lemma informed_isIdle (d : Desk) (m : Except Breakdown Manifest) {p : Purpose} (hp : p.IsIdle) :
    (d.informed m p).2.IsIdle := by
  cases p with
  | manifest => cases m <;> exact rfl
  | question q =>
    cases q with
    | lint document g => exact hp.elim
    | eligible path =>
      unfold informed judged
      dsimp only
      split <;> exact rfl

/-- The same behind the linter's answer about the files of the project. -/
lemma listed_isIdle (d : Desk) {p : Purpose} (hp : p.IsIdle) (a : Answer) :
    (d.listed p a).2.IsIdle :=
  informed_isIdle _ _ hp

/-- The same behind its first move, if that asks for the files of the project. -/
lemma inquire_isIdle (d : Desk) {p : Purpose} (hp : p.IsIdle) : (d.inquire p).2.IsIdle := by
  unfold inquire
  split
  · exact informed_isIdle d _ hp
  · exact hp

/-- The same behind its first move, if that asks about a path. -/
lemma vet_eligible_isIdle (d : Desk) (path : Path) : (d.vet (.eligible path)).2.IsIdle := by
  unfold vet
  split
  · exact inquire_isIdle d trivial
  · exact rfl
  · exact rfl

/-! ## The last move of a lint -/

/-- The last move of a lint leaves the generations alone. -/
lemma generations_checked (d : Desk) (document : Document) (g : Int) (a : Answer) :
    (d.checked document g a).1.generations = d.generations := by
  cases a with
  | finished o =>
    unfold checked publish
    dsimp only
    split
    · split
      · split <;> rfl
      · rfl
    · rfl
  | failed f => rfl
  | crashed message => rfl

/-- The last move of a lint leaves the settings, the disk and the gate alone. -/
lemma settings_checked (d : Desk) (document : Document) (g : Int) (a : Answer) :
    (d.checked document g a).1.settings = d.settings ∧
      (d.checked document g a).1.disk = d.disk ∧ (d.checked document g a).1.gate = d.gate := by
  cases a with
  | finished o =>
    unfold checked publish
    dsimp only
    split
    · split
      · split <;> exact ⟨rfl, rfl, rfl⟩
      · exact ⟨rfl, rfl, rfl⟩
    · exact ⟨rfl, rfl, rfl⟩
  | failed f => exact ⟨rfl, rfl, rfl⟩
  | crashed message => exact ⟨rfl, rfl, rfl⟩

/-- A lint that may publish does so if it is the newest and the collection takes it, breaks down if
the collection takes nothing, and is superseded if it is not the newest. -/
lemma publish_fits (d : Desk) (document : Document) (g : Int) (r : Report) (returnCode : Int) :
    (d.publish document g r returnCode).2.Fits d document g := by
  unfold publish
  dsimp only
  split
  · next hcurrent =>
    unfold Collection.set?
    by_cases hdisposed : d.collection.disposed = true
    · simp only [hdisposed, if_true]
      exact ⟨hcurrent, hdisposed⟩
    · have hopen : d.collection.disposed = false := Bool.eq_false_iff.2 hdisposed
      simp only [hopen, Bool.false_eq_true, if_false]
      exact ⟨rfl, rfl, nofun, fun _ => hcurrent, fun _ => hopen, nofun⟩
  · next hstale => exact ⟨rfl, rfl, nofun, nofun, nofun, fun _ => Bool.eq_false_iff.2 hstale⟩

/-- The collection after a publication is the old one with the published outcome entered; a lint
that does not publish leaves the collection alone. -/
lemma collection_publish (d : Desk) (document : Document) (g : Int) (r : Report)
    (returnCode : Int) : (d.publish document g r returnCode).1.collection =
      d.collection.enter (d.publish document g r returnCode).2.published? := by
  unfold publish
  dsimp only
  split
  · unfold Collection.set?
    by_cases hdisposed : d.collection.disposed = true
    · simp [hdisposed, TaskResult.published?, Collection.enter]
    · simp [hdisposed, TaskResult.published?, Collection.enter, tell]
  · simp [TaskResult.published?, Collection.enter, tell]

/-- A lint ends in a fitting result when the linter has checked its text, or failed to. -/
lemma checked_fits (d : Desk) (document : Document) (g : Int) (a : Answer) :
    (d.checked document g a).2.Fits d document g := by
  cases a with
  | finished o =>
    unfold checked
    dsimp only
    split
    · exact ((still_tell d _).fits_iff document g).1 (publish_fits _ document g _ _)
    · trivial
  | failed f => exact ⟨rfl, rfl, nofun, nofun, nofun, nofun⟩
  | crashed message => trivial

/-- The last move of a lint changes the collection by its publication, and not at all if it
publishes nothing. -/
theorem collection_checked (d : Desk) (document : Document) (g : Int) (a : Answer) :
    (d.checked document g a).1.collection =
      d.collection.enter (d.checked document g a).2.published? := by
  cases a with
  | finished o =>
    unfold checked
    dsimp only
    split
    · exact collection_publish _ document g _ _
    · rfl
  | failed f => rfl
  | crashed message => rfl

end Desk

end LintRelay
