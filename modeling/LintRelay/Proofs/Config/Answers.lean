import LintRelay.Proofs.Config.Homeless
import LintRelay.Proofs.Config.Sources
import LintRelay.Proofs.Value.Equality

/-!
# When there is an answer to a bad configuration

Loading a configuration *answers* if it gives a configuration or a failure that tells of a bad file
or of a bad setting.  It answers if and only if the sources can be read and laid over each other
(`Config.Layered`) and what comes of them can be checked and told about
(`Config.Presentable`): this is `Config.load_answers_iff`.  A bad source beyond these bounds has no
answer; the smallest one is a file that sets a number (`Config.load_of_number`).
-/

namespace LintRelay

/-! ### Environments that can be read -/

namespace Environment

variable {depth : Nat}

/-- A variable that sets a list or a mapping inside a section is a document, but for a blank one.
A document is nested no deeper than `depth`. -/
def Decodes (depth : Nat) (part : Section) (e : String × String) : Prop :=
  ∀ k ∈ part.documents, path? e.1 = some (part.name, [k]) → e.2 ≠ "" →
    ∃ v, readDocument depth e.2 = .ok v

/-- The variables of a section are documents where documents are wanted.  Where the whole section is
set to something else than a mapping, the variables inside it are of no account. -/
structure Documented (depth : Nat) (env : Environment) (part : Section) : Prop where
  whole : ∀ text ∈ env.whole? part, ∃ v, readDocument depth text = .ok v
  inside : (∀ text ∈ env.whole? part, ∃ es, readDocument depth text = .ok (.map es)) →
    ∀ e ∈ env, Decodes depth part e

/-- The value of a setting can be read if and only if it is a document where one is wanted. -/
lemma exists_settingValue_iff {part : Section} {keys : List String} {text : String} :
    (∃ v, settingValue depth part keys text = .ok v) ↔
      ∀ k ∈ part.documents, keys = [k] → text ≠ "" → ∃ v, readDocument depth text = .ok v := by
  unfold settingValue
  split
  · rename_i k
    split
    · rename_i hwanted
      rw [Bool.and_eq_true, List.contains_iff_mem, Bool.not_eq_true', String.isEmpty_eq_false_iff]
        at hwanted
      constructor
      · exact fun h _ _ _ _ => h
      · exact fun h => h k hwanted.1 rfl hwanted.2
    · rename_i hunwanted
      refine iff_of_true ⟨_, rfl⟩ ?_
      intro k' hk' heq htext
      obtain rfl : k = k' := by simpa using heq
      exact absurd (by simpa using ⟨hk', htext⟩) hunwanted
  · rename_i hnot
    exact iff_of_true ⟨_, rfl⟩ fun k _ heq => absurd heq (hnot k)

/-- What the variables set inside a section can be read if and only if each of them can. -/
lemma exists_inside_iff {part : Section} {acc : Entries} {env : Environment} :
    (∃ es, inside depth part acc env = .ok es) ↔ ∀ e ∈ env, Decodes depth part e := by
  induction env generalizing acc with
  | nil => exact iff_of_true ⟨acc, rfl⟩ (by rintro _ ⟨⟩)
  | cons e env ih =>
    obtain ⟨name, text⟩ := e
    rw [List.forall_mem_cons]
    unfold inside
    split
    · rename_i t k ks hpath
      split
      · rename_i hpart
        have hvalue : (∃ v, settingValue depth part (k :: ks) text = .ok v) ↔
            Decodes depth part (name, text) := by
          rw [exists_settingValue_iff, Decodes, hpath, ← beq_iff_eq.1 hpart]
          simp
        rw [← hvalue]
        split
        · rename_i v hv
          rw [ih, and_iff_right ⟨v, hv⟩]
        · rename_i f hf
          refine iff_of_false (by rintro ⟨_, ⟨⟩⟩) ?_
          rintro ⟨⟨v, hv⟩, -⟩
          rw [hf] at hv
          cases hv
      · rename_i hother
        rw [ih, and_iff_right]
        intro k' _ hpath'
        rw [hpath] at hpath'
        obtain ⟨rfl, -⟩ := Prod.mk.inj (Option.some.inj hpath')
        exact absurd (beq_self_eq_true _) hother
    · rename_i hnone
      rw [ih, and_iff_right]
      intro k _ hpath
      exact absurd hpath (hnone _ _ _)

/-- A section can be read if and only if its variables are documents where documents are wanted. -/
lemma exists_sectionValue?_iff {env : Environment} {part : Section} :
    (∃ v?, env.sectionValue? depth part = .ok v?) ↔ Documented depth env part := by
  have hdocumented : Documented depth env part ↔
      (∀ text ∈ env.whole? part, ∃ v, readDocument depth text = .ok v) ∧
      ((∀ text ∈ env.whole? part, ∃ es, readDocument depth text = .ok (.map es)) →
        ∃ es, inside depth part [] env = .ok es) := by
    rw [exists_inside_iff]
    exact ⟨fun h => ⟨h.whole, h.inside⟩, fun h => ⟨h.1, h.2⟩⟩
  rw [hdocumented]
  unfold sectionValue?
  cases env.whole? part with
  | none => exact (exists_bind_eq_ok_iff_left fun es => ⟨_, rfl⟩).trans (by simp)
  | some text =>
    refine exists_bind_eq_ok_iff.trans ?_
    simp only [Option.mem_some_iff, forall_eq']
    cases readDocument depth text with
    | error f => simp
    | ok w =>
      cases w with
      | map es =>
        have hinside : (∃ v?, (inside depth part [] env >>= fun es' => pure (some
            (Value.map (usualNames part (Layer.merge es es'))))) = .ok v?) ↔
              ∃ es', inside depth part [] env = .ok es' :=
          exists_bind_eq_ok_iff_left fun es' => ⟨_, rfl⟩
        simpa using hinside
      | _ => exact iff_of_true ⟨_, rfl, _, rfl⟩ ⟨⟨_, rfl⟩, by rintro ⟨_, ⟨⟩⟩⟩

/-- An environment can be read if and only if its variables are documents where documents are
wanted. -/
theorem exists_layer_iff {env : Environment} :
    (∃ es, env.layer depth = .ok es) ↔ ∀ part ∈ sections, Documented depth env.distinct part := by
  have hpart (part : Section) : (∃ e?, (do
      return (← env.distinct.sectionValue? depth part).map fun v => (Value.text part.name, v) :
        Except Flaw (Option (Value × Value))) = .ok e?) ↔ Documented depth env.distinct part :=
    (exists_bind_eq_ok_iff_left fun v => ⟨_, rfl⟩).trans exists_sectionValue?_iff
  refine (exists_bind_eq_ok_iff_left fun values => ⟨_, rfl⟩).trans ?_
  rw [exists_mapM_eq_ok_iff]
  exact forall₂_congr fun part _ => hpart part

end Environment

namespace Config

open Check Layer

variable {α β : Type} {depth : Nat} {depths : Depths}

/-! ### Answers -/

/-- The outcome is a result, or a failure that tells of a bad file or of a bad setting. -/
def Answers (r : Except LoadError α) : Prop :=
  (∃ a, r = .ok a) ∨
    ∃ f, r = .error (.failure f) ∧ (f.code = .configParse ∨ f.code = .configValue)

@[simp] lemma answers_ok (a : α) : Answers (.ok a) :=
  .inl ⟨a, rfl⟩

lemma answers_error_iff {e : LoadError} : Answers (.error e : Except LoadError α) ↔
    ∃ f, e = .failure f ∧ (f.code = .configParse ∨ f.code = .configValue) := by
  simp [Answers]

instance (r : Except LoadError α) : Decidable (Answers r) :=
  match r with
  | .ok a => .isTrue (answers_ok a)
  | .error (.failure f) =>
    decidable_of_iff (f.code = .configParse ∨ f.code = .configValue) (by simp [answers_error_iff])
  | .error (.scalar _) | .error .encoding | .error .directory | .error (.unreachable _)
  | .error (.environment _) | .error .unnamed | .error .homeless =>
    .isFalse (by simp [answers_error_iff])

/-- Two steps answer if and only if the first one does, and the second one after each result of the
first. -/
lemma answers_bind_iff {x : Except LoadError α} {f : α → Except LoadError β} :
    Answers (x >>= f) ↔ Answers x ∧ ∀ a, x = .ok a → Answers (f a) := by
  cases x with
  | ok a =>
    have hbind : (Except.ok a >>= f) = f a := rfl
    simp [hbind]
  | error e =>
    have hbind : ((Except.error e : Except LoadError α) >>= f) = .error e := rfl
    simp [hbind, answers_error_iff]

/-! ### Sources that can be read -/

/-- In a text or in bytes nothing is wrong but what breaks the rules of YAML themselves. -/
def Legible (depths : Depths) (e : Yaml.Excerpt) : Prop :=
  ∀ f, Yaml.decode depths.yaml depths.merges e = .error f → f = .malformed

/-- A file that is not there, or in which nothing is wrong but what breaks the rules of YAML
themselves.  No file has a name that no system takes. -/
@[mk_iff]
structure Readable (d : Disk) (path : Path) : Prop where
  short : path.flaw? = none → d.locate path ≠ .error .nameTooLong
  legible : path.flaw? = none → ∀ place e, d.locate path = .ok (place, e) →
    ∃ bytes executable, e = .file bytes executable ∧ Legible d.depths (.ofBytes bytes)

/-- The entries of a text answer if and only if it is legible. -/
lemma answers_entriesOf_iff {path : Path} {e : Yaml.Excerpt} :
    Answers (entriesOf depths path e) ↔ Legible depths e := by
  unfold entriesOf Legible
  cases hdecode : Yaml.decode depths.yaml depths.merges e with
  | ok v =>
    refine iff_of_true ?_ (by rintro _ ⟨⟩)
    dsimp only
    split
    · exact answers_ok _
    · split
      · exact answers_ok _
      · simp [answers_error_iff, Failure.code]
  | error f =>
    cases f <;> simp [answers_error_iff, Failure.code]

/-- A file answers if and only if it can be read. -/
lemma answers_entriesAt_iff {d : Disk} {path : Path} :
    Answers (entriesAt d path) ↔ Readable d path := by
  rw [readable_iff]
  unfold entriesAt
  cases path.flaw? with
  | some flaw => simp
  | none =>
    rw [Option.isSome_none, if_neg Bool.false_ne_true]
    cases d.locate path with
    | error e => cases e <;> simp [answers_error_iff]
    | ok found =>
      obtain ⟨place, e⟩ := found
      cases e with
      | file bytes executable =>
        rw [answers_entriesOf_iff, and_iff_right (by rintro - ⟨⟩)]
        constructor
        · rintro hlegible - _ _ ⟨⟩
          exact ⟨bytes, executable, rfl, hlegible⟩
        · intro h
          obtain ⟨_, _, ⟨⟩, hlegible⟩ := h rfl place _ rfl
          exact hlegible
      | _ => simp [answers_error_iff]

/-- One layer can be laid over another one if and only if this does not go too deep. -/
lemma answers_lay_iff {lower upper : Entries} :
    Answers (lay depth lower upper) ↔ isTooDeep depth lower upper = false := by
  unfold lay
  cases isTooDeep depth lower upper <;> simp [answers_error_iff]

lemma answers_lay_bind_iff {lower upper : Entries} {f : Entries → Except LoadError α} :
    Answers (lay depth lower upper >>= f) ↔
      isTooDeep depth lower upper = false ∧ Answers (f (merge lower upper)) := by
  rw [answers_bind_iff, answers_lay_iff]
  refine and_congr_right fun hdeep => ?_
  simp [lay, hdeep]

/-- What the environment gives answers if and only if the environment can be read. -/
lemma answers_environment_iff {env : Environment} {f : Entries → Except LoadError α} :
    Answers (match env.layer depth with
      | .ok es => f es
      | .error e => .error (.environment e)) ↔
      (∀ part ∈ Environment.sections, Environment.Documented depth env.distinct part) ∧
        ∀ es, env.layer depth = .ok es → Answers (f es) := by
  rw [← Environment.exists_layer_iff]
  cases env.layer depth with
  | ok es => simp
  | error e => simp [answers_error_iff]

/-! ### Layers -/

/-- What the files of the user and of the project give. -/
structure FilesGive (s : ConfigSources) (user project : Entries) : Prop where
  user : entriesAt s.disk s.userFile = .ok user
  project : entriesAt s.disk (s.projectRoot.join (.ofText fileName)) = .ok project

/-- The sources can be read and laid over each other, as far as none of them tells itself what is
wrong with it. -/
structure Layered (s : ConfigSources) : Prop where
  user : Readable s.disk s.userFile
  project : ∀ user, entriesAt s.disk s.userFile = .ok user →
    Readable s.disk (s.projectRoot.join (.ofText fileName))
  files : ∀ user project, FilesGive s user project →
    isTooDeep s.disk.depths.layers user project = false
  environment : ∀ user project, FilesGive s user project →
    ∀ part ∈ Environment.sections,
      Environment.Documented s.disk.depths.json s.environment.distinct part
  given : ∀ user project, FilesGive s user project →
    ∀ env, s.environment.layer s.disk.depths.json = .ok env →
      isTooDeep s.disk.depths.layers env (usualSections s.given) = false ∧
        isTooDeep s.disk.depths.layers (merge user project)
          (merge env (usualSections s.given)) = false

/-- The layers answer if and only if the sources can be read and laid over each other. -/
lemma answers_layers_iff {s : ConfigSources} : Answers (layers s) ↔ Layered s := by
  have hlayers : layers s = (do
      let user ← entriesAt s.disk s.userFile
      let project ← entriesAt s.disk (s.projectRoot.join (.ofText fileName))
      let depth := s.disk.depths.layers
      let files ← lay depth user project
      match s.environment.layer s.disk.depths.json with
      | .ok env => do lay depth files (← lay depth env (usualSections s.given))
      | .error e => .error (.environment e)) := by
    unfold layers
    cases s.environment.layer s.disk.depths.json <;> rfl
  rw [hlayers]
  simp only [↓answers_lay_bind_iff, answers_bind_iff, answers_entriesAt_iff,
    answers_environment_iff, answers_lay_iff]
  constructor
  · rintro ⟨huser, h⟩
    exact {
      user := huser
      project := fun user hu => (h user hu).1
      files := fun user project hg => ((h user hg.user).2 project hg.project).1
      environment := fun user project hg => ((h user hg.user).2 project hg.project).2.1
      given := fun user project hg => ((h user hg.user).2 project hg.project).2.2 }
  · rintro ⟨huser, hproject, hfiles, henv, hgiven⟩
    refine ⟨huser, fun user hu => ⟨hproject user hu, fun project hp => ?_⟩⟩
    have hg : FilesGive s user project := ⟨hu, hp⟩
    exact ⟨hfiles user project hg, henv user project hg, hgiven user project hg⟩

/-! ### Settings -/

variable {homes : Homes} {es : Entries}

/-- The issue that is reported of settings, if there is one. -/
def issue? (homes : Homes) (es : Entries) : Option Issue :=
  match checkSections homes es with
  | .accepted _ => (nameIssue? es).or (extraIssue? es)
  | .refused i _ => some ((nameIssue? es).getD i)
  | .homeless => none

/-- Settings whose names are texts and that can be checked, with an issue that can be told if there
is one. -/
@[mk_iff]
structure Presentable (depth : Nat) (homes : Homes) (es : Entries) : Prop where
  named : ∀ e ∈ es, isName e.1 = true
  housed : ∀ v, IsDestination es v → ¬ Homeless homes v
  shown : ∀ i ∈ issue? homes es, i.value.unshown? [] depth = none

/-- An issue is reported by a failure if and only if its value can be shown. -/
lemma answers_report_iff {i : Issue} :
    Answers (.error (report depth i) : Except LoadError α) ↔ i.value.unshown? [] depth = none := by
  unfold report
  cases i.value.unshown? [] depth with
  | none => simp [answers_error_iff, failureOf, Failure.code]
  | some e => cases e <;> simp [answers_error_iff]

/-- What comes of the layers answers if and only if it is presentable. -/
lemma answers_ofLayers_iff : Answers (ofLayers depth homes es) ↔ Presentable depth homes es := by
  have hhoused : checkSections homes es ≠ .homeless ↔
      ∀ v, IsDestination es v → ¬ Homeless homes v := by
    rw [Ne, checkSections_eq_homeless_iff, not_exists]
    exact forall_congr' fun v => not_and
  rw [presentable_iff, ← hhoused]
  unfold ofLayers issue?
  split
  · rename_i hany
    obtain ⟨e, he, hkey⟩ := List.any_eq_true.1 hany
    refine iff_of_false (by simp [answers_error_iff]) ?_
    rintro ⟨hnamed, -⟩
    rw [hnamed e he] at hkey
    cases hkey
  · rename_i hany
    have hnamed : ∀ e ∈ es, isName e.1 = true := by simpa using hany
    rw [and_iff_right hnamed]
    cases checkSections homes es with
    | homeless => simp [answers_error_iff]
    | refused i is => simp [answers_report_iff]
    | accepted c =>
      cases (nameIssue? es).or (extraIssue? es) with
      | none => simp
      | some i => simp [answers_report_iff]

end Config

end LintRelay
