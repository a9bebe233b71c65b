import LintRelay.Proofs.CommandLine.ExitStatus
import LintRelay.Proofs.CommandLine.Regular
import Mathlib.Data.List.Forall2

/-!
# Linting many files

To lint many files in one run of the program is to lint each of them in a run of its own, where the
root of the project is given and the linter is steady: if every one of the single runs completes,
then so does the run for all files, the array that it prints has the entries of the arrays that the
single runs print, in the order of the files, and its status is the greatest of their statuses
(`run_lint_batch`).  Files may be given several times, and by several ways to one file, and it makes
no difference whether manifests are kept.
-/

namespace LintRelay

/-! ## Arrays that are printed -/

/-- The items of a list are written one by one. -/
lemma Json.indentedItems_eq_map (level : Nat) (ts : List Tree) :
    indentedItems level ts = ts.map (encodeIndented level) := by
  induction ts with
  | nil => rfl
  | cons t ts ih => rw [indentedItems, ih, List.map_cons]

namespace Presentation

/-- The text of an array with one entry at least, which has these texts for its entries. -/
def arrayText (entries : List String) : String :=
  "[\n  " ++ ",\n  ".intercalate entries ++ "\n]\n"

/-- The text of the entry for the outcome of a document. -/
def entryText (p : Document × Outcome) : String :=
  Json.encodeIndented 1 (.ofOutcome p.1.path p.2)

/-- Outcomes are printed as the array of their entries, in their order. -/
theorem outcomesAsJson_eq {linted : List (Document × Outcome)} (h : linted ≠ []) :
    outcomesAsJson linted = arrayText (linted.map entryText) := by
  obtain ⟨p, ps, rfl⟩ := List.exists_cons_of_ne_nil h
  have hopen : "[" ++ Json.newline 1 = "[\n  " := by decide
  have hbetween : "," ++ Json.newline 1 = ",\n  " := by decide
  have hclose : Json.newline 0 ++ "]" ++ "\n" = "\n]\n" := by decide
  have hentries (ps : List (Document × Outcome)) :
      Json.indentedItems 1 (ps.map fun p => .ofOutcome p.1.path p.2) = ps.map entryText := by
    rw [Json.indentedItems_eq_map, List.map_map]
    rfl
  calc outcomesAsJson (p :: ps)
      = "[" ++ Json.newline 1 ++ ("," ++ Json.newline 1).intercalate
          (Json.indentedItems 1 ((p :: ps).map fun p => .ofOutcome p.1.path p.2)) ++
            Json.newline 0 ++ "]" ++ "\n" := by
        rw [outcomesAsJson, List.map_cons, Json.encodeIndented]
    _ = arrayText ((p :: ps).map entryText) := by
        rw [hentries, hopen, hbetween, arrayText, ← hclose]
        simp only [String.append_assoc]

end Presentation

/-! ## Runs that complete -/

/-- Whether a run of the program has come to its end with nothing to complain about. -/
def Ending.completes (e : Ending) : Bool :=
  e.fault.isNone && e.complaints.isEmpty

namespace CommandLine

/-- A text is cut into one piece at least. -/
lemma splitOnAux_ne_nil (s sep : String) (b i j : String.Pos.Raw) (pieces : List String) :
    s.splitOnAux sep b i j pieces ≠ [] := by
  fun_induction String.splitOnAux s sep b i j pieces with
  | case1 => simp
  | case2 _ _ _ _ _ _ _ _ _ ih => exact ih
  | case3 _ _ _ _ _ _ _ _ _ ih => exact ih
  | case4 _ _ _ _ _ _ ih => exact ih

/-- The same with the whole text. -/
lemma splitOn_ne_nil (s sep : String) : s.splitOn sep ≠ [] := by
  unfold String.splitOn
  split
  · exact List.cons_ne_nil _ _
  · exact splitOnAux_ne_nil s sep 0 0 0 []

/-- A run that stops early does not complete. -/
lemma completes_stopped (e : Stop) : (stopped e).completes = false := by
  cases e with
  | usage e =>
    have hlines : e.lines ≠ [] := by
      unfold UsageError.lines
      exact List.append_ne_nil_of_right_ne_nil _ (splitOn_ne_nil _ _)
    simpa [Ending.completes, stopped] using hlines
  | complaint message => simpa [Ending.completes, stopped] using splitOn_ne_nil _ _
  | fault f => rfl

/-- Linting with the outcomes printed as JSON completes if all that it starts from can be had and
every lint comes to an outcome. -/
lemma lint_of_json {s : Surroundings} (least : Level) {a : LintArguments} (hjson : a.json = true)
    {settings : Settings} {documents : List Document} {s' : Session} {os : List Outcome}
    (hprepared : prepareLint s a = .ok (settings, documents))
    (hall : lintAll (session s settings) documents = (s', .ok os)) :
    (lint s least a).completes = true ∧
      (lint s least a).output = Presentation.outcomesAsJson (documents.zip os) ∧
      (lint s least a).status = lintStatus ((documents.zip os).map (·.2)) := by
  have hlint : lint s least a = seen least s' (lintEnding settings true (documents.zip os)) := by
    unfold lint
    rw [hprepared]
    dsimp only
    rw [hall, hjson]
  rw [hlint]
  exact ⟨rfl, rfl, rfl⟩

/-- It does not complete otherwise. -/
lemma exists_of_completes {s : Surroundings} {least : Level} {a : LintArguments}
    (h : (lint s least a).completes = true) :
    ∃ settings documents s' os, prepareLint s a = .ok (settings, documents) ∧
      lintAll (session s settings) documents = (s', .ok os) := by
  unfold lint at h
  cases hprepared : prepareLint s a with
  | error e =>
    rw [hprepared] at h
    rw [completes_stopped] at h
    cases h
  | ok p =>
    obtain ⟨settings, documents⟩ := p
    rw [hprepared] at h
    dsimp only at h
    cases hall : lintAll (session s settings) documents with
    | mk s' r =>
      cases r with
      | error f =>
        rw [hall] at h
        have hstopped : (stopped (.fault f)).completes = true := h
        rw [completes_stopped] at hstopped
        cases hstopped
      | ok os => exact ⟨settings, documents, s', os, rfl, hall⟩

/-! ## What linting starts from -/

/-- What linting starts from where the root of the project is given: the root and every file can be
found, and the settings are the same whatever files there are. -/
lemma prepareLint_eq_ok_iff {s : Surroundings} {a : LintArguments} {root : String}
    (hroot : a.root = some root) {settings : Settings} {documents : List Document} :
    prepareLint s a = .ok (settings, documents) ↔
      a.files ≠ [] ∧ checkPath s (.root .lint) root = .ok () ∧
        (∀ f ∈ a.files, checkPath s .file f = .ok ()) ∧
        (∃ p, projectRoot s (some root) (.ofText root) = .ok p ∧
          CommandLine.settings s p a.strict = .ok settings) ∧
        List.Forall₂ (fun f d => document s settings.languageId f = .ok d) a.files documents := by
  unfold prepareLint
  rw [hroot]
  cases hfiles : a.files with
  | nil =>
    refine iff_of_false (fun h => ?_) fun h => h.1 rfl
    obtain ⟨-, -, h⟩ := exists_of_bind_eq_ok h
    cases h
  | cons first rest =>
    constructor
    · intro h
      obtain ⟨⟨⟩, hcheck, h⟩ := exists_of_bind_eq_ok h
      obtain ⟨⟨⟩, hchecks, h⟩ := exists_of_bind_eq_ok h
      obtain ⟨p, hp, h⟩ := exists_of_bind_eq_ok h
      obtain ⟨settings', hsettings, h⟩ := exists_of_bind_eq_ok h
      obtain ⟨documents', hdocuments, h⟩ := exists_of_bind_eq_ok h
      cases h
      exact ⟨List.cons_ne_nil _ _, hcheck, forM_eq_ok_iff.1 hchecks, ⟨p, hp, hsettings⟩,
        mapM_eq_ok_iff.1 hdocuments⟩
    · rintro ⟨-, hcheck, hchecks, ⟨p, hp, hsettings⟩, hdocuments⟩
      have hcheck : (some root).forM (checkPath s (.root .lint)) = .ok () := hcheck
      have hp : projectRoot s (some root) (.ofText first) = .ok p := hp
      simp only [hcheck, forM_eq_ok_iff.2 hchecks, hp, bind, Except.bind, hsettings,
        mapM_eq_ok_iff.2 hdocuments, pure, Except.pure]

/-- What linting many files starts from is what linting each of them starts from, with the same
settings for all. -/
lemma prepareLint_of_singles {s : Surroundings} {a : LintArguments} {root : String}
    (hroot : a.root = some root) (hfiles : a.files ≠ [])
    (hsingles : ∀ f ∈ a.files, ∃ settings documents,
      prepareLint s { a with files := [f] } = .ok (settings, documents)) :
    ∃ settings documents, prepareLint s a = .ok (settings, documents) ∧
      List.Forall₂ (fun f d => prepareLint s { a with files := [f] } = .ok (settings, [d]))
        a.files documents := by
  have hroot₁ (f : String) : ({ a with files := [f] } : LintArguments).root = some root := hroot
  have hsingle : ∀ f ∈ a.files, ∃ settings d,
      prepareLint s { a with files := [f] } = .ok (settings, [d]) := by
    intro f hf
    obtain ⟨settings, documents, hprepared⟩ := hsingles f hf
    obtain ⟨-, -, -, -, hdocuments⟩ := (prepareLint_eq_ok_iff (hroot₁ f)).1 hprepared
    obtain ⟨d, rest, -, hrest, rfl⟩ := List.forall₂_cons_left_iff.1 hdocuments
    obtain rfl := List.forall₂_nil_left_iff.1 hrest
    exact ⟨settings, d, hprepared⟩
  obtain ⟨first, hfirst⟩ := List.exists_mem_of_ne_nil a.files hfiles
  obtain ⟨settings, d₁, hprepared₁⟩ := hsingle first hfirst
  obtain ⟨-, hcheck, -, ⟨p, hp, hsettings⟩, -⟩ :=
    (prepareLint_eq_ok_iff (hroot₁ first)).1 hprepared₁
  -- The settings come from the root, so they are those of the first file for all files.
  have hsame : ∀ f ∈ a.files, ∃ d, prepareLint s { a with files := [f] } = .ok (settings, [d]) := by
    intro f hf
    obtain ⟨settings', d, hprepared⟩ := hsingle f hf
    obtain ⟨-, -, -, ⟨p', hp', hsettings'⟩, -⟩ := (prepareLint_eq_ok_iff (hroot₁ f)).1 hprepared
    rw [hp] at hp'
    cases hp'
    rw [hsettings] at hsettings'
    cases hsettings'
    exact ⟨d, hprepared⟩
  obtain ⟨documents, hdocuments⟩ : ∃ documents, List.Forall₂
      (fun f d => prepareLint s { a with files := [f] } = .ok (settings, [d]))
        a.files documents :=
    exists_forall₂ hsame
  refine ⟨settings, documents, (prepareLint_eq_ok_iff hroot).2
    ⟨hfiles, hcheck, fun f hf => ?_, ⟨p, hp, hsettings⟩, ?_⟩, hdocuments⟩
  · obtain ⟨d, hprepared⟩ := hsame f hf
    obtain ⟨-, -, hchecks, -⟩ := (prepareLint_eq_ok_iff (hroot₁ f)).1 hprepared
    exact hchecks f List.mem_cons_self
  · refine hdocuments.imp fun f d hprepared => ?_
    obtain ⟨-, -, -, -, hread⟩ := (prepareLint_eq_ok_iff (hroot₁ f)).1 hprepared
    exact (List.forall₂_cons.1 hread).1

/-! ## One lint after the other -/

open Session

variable {runner : Runner} {disk : Disk} {settings : Settings}

/-- The session in which linting begins is regular. -/
lemma regular_session (s : Surroundings) (settings : Settings) :
    Regular s.runner s.disk settings (session s settings) where
  runner := rfl
  disk := rfl
  settings := rfl
  gate := rfl
  agenda := rfl
  drains t := by
    rintro ⟨task, others, htask, -⟩
    cases htask
  opened := rfl
  kept m hm := by
    unfold Desk.kept? session at hm
    dsimp only at hm
    split at hm <;> cases hm

/-- A document with what comes of the lone lint of it, but for the generation. -/
def LoneOutcome (runner : Runner) (disk : Disk) (settings : Settings) (d : Document)
    (o : Outcome) : Prop :=
  ∃ o₁, loneEnd? runner disk settings d 1 = some (.outcome o₁) ∧
    o = { o₁ with generation := o.generation }

/-- A regular session that lints documents one after the other comes to the outcomes of lone lints,
if there is one for every document. -/
theorem lintAll_of_regular {s : Session} (h : Regular runner disk settings s)
    (hsteady : runner.Steady) {ds : List Document}
    (hds : ∀ d ∈ ds, d.languageId = settings.languageId ∧
      ∃ o, loneEnd? runner disk settings d 1 = some (.outcome o)) :
    ∃ s' os, lintAll s ds = (s', .ok os) ∧
      List.Forall₂ (LoneOutcome runner disk settings) ds os := by
  induction ds generalizing s with
  | nil => exact ⟨s, [], rfl, .nil⟩
  | cons d ds ih =>
    rw [List.forall_mem_cons] at hds
    obtain ⟨⟨hlanguage, o, ho⟩, hds⟩ := hds
    obtain ⟨hregular, hresult⟩ := h.lint hsteady hlanguage
    obtain ⟨s', os, hall, hos⟩ := ih hregular hds
    let o' : Outcome := { o with generation := s.desk.generation d.uri + 1 }
    have hfirst : result? (s.add (.lint d none)) =
        ((s.add (.lint d none)).1.run, some (.outcome o')) := by
      rw [loneEnd?_inGeneration 1, ho] at hresult
      exact congrArg (Prod.mk _) hresult
    refine ⟨s', o' :: os, ?_, .cons ⟨o, ho, rfl⟩ hos⟩
    rw [lintAll, hfirst]
    dsimp only
    rw [hall]

/-- A regular session that lints one document comes to an outcome only if the lone lint of it does.
-/
lemma loneEnd?_of_lintAll {s : Session} (h : Regular runner disk settings s)
    (hsteady : runner.Steady) {d : Document} (hlanguage : d.languageId = settings.languageId)
    {s' : Session} {os : List Outcome} (hall : lintAll s [d] = (s', .ok os)) :
    ∃ o, os = [o] ∧ loneEnd? runner disk settings d (s.desk.generation d.uri + 1) =
      some (.outcome o) := by
  obtain ⟨-, hresult⟩ := h.lint hsteady hlanguage
  rw [← hresult]
  unfold lintAll at hall
  have hfirst : result? (s.add (.lint d none)) = ((s.add (.lint d none)).1.run,
      (s.add (.lint d none)).1.run.result? s.tasks.length) := rfl
  rw [hfirst] at hall
  cases hend : (s.add (.lint d none)).1.run.result? s.tasks.length with
  | none =>
    rw [hend] at hall
    cases hall
  | some r =>
    rw [hend] at hall
    cases r with
    | outcome o =>
      cases hall
      exact ⟨o, rfl, rfl⟩
    | _ => cases hall

/-! ## Many files and single files -/

/-- What is known of the first and the second components of pairs is known of the pairs. -/
lemma forall₂_zip {α β γ : Type} {R : α → β → Prop} {S : β → γ → Prop} {xs : List α} {ys : List β}
    {zs : List γ} (hxs : List.Forall₂ R xs ys) (hzs : List.Forall₂ S ys zs) :
    List.Forall₂ (fun x p => R x p.1 ∧ S p.1 p.2) xs (ys.zip zs) := by
  induction hxs generalizing zs with
  | nil => exact .nil
  | cons hx _ ih =>
    obtain ⟨z, zs', hz, hzs', rfl⟩ := List.forall₂_cons_left_iff.1 hzs
    exact .cons ⟨hx, hz⟩ (ih hzs')

/-- What follows of the second component of related pairs holds throughout the second list. -/
lemma forall_of_forall₂ {α β : Type} {R : α → β → Prop} {Q : β → Prop} {xs : List α} {ys : List β}
    (h : List.Forall₂ R xs ys) (hR : ∀ x y, R x y → Q y) : ∀ y ∈ ys, Q y := by
  induction h with
  | nil => exact nofun
  | cons hx _ ih => exact List.forall_mem_cons.2 ⟨hR _ _ hx, ih⟩

/-- The status of lints is that of the worst. -/
lemma lintStatus_eq_foldr (os : List Outcome) :
    lintStatus os = (os.map fun o => lintStatus [o]).foldr max 0 := by
  induction os with
  | nil => rfl
  | cons o os ih =>
    rw [List.map_cons, List.foldr_cons, ← ih]
    unfold lintStatus
    simp only [List.any_cons, List.any_nil, Bool.or_false]
    have hworst : ∀ a b c d : Bool, (if a || c then 2 else if b || d then 1 else 0 : Nat) =
        max (if a then 2 else if b then 1 else 0) (if c then 2 else if d then 1 else 0) := by
      decide
    exact hworst _ _ _ _

/-- To lint a single file with its outcome printed as JSON is to print what comes of the lone lint
of its document. -/
lemma lint_single {s : Surroundings} {least : Level} {a : LintArguments} {f : String}
    {settings : Settings} {d : Document} (hjson : a.json = true) (hsteady : s.runner.Steady)
    (hcompletes : (lint s least { a with files := [f] }).completes = true)
    (hprepared : prepareLint s { a with files := [f] } = .ok (settings, [d])) :
    d.languageId = settings.languageId ∧
      ∃ o, loneEnd? s.runner s.disk settings d 1 = some (.outcome o) ∧
        (lint s least { a with files := [f] }).output = Presentation.outcomesAsJson [(d, o)] ∧
        (lint s least { a with files := [f] }).status = lintStatus [o] := by
  obtain ⟨settings', documents, s', os, hprepared', hall⟩ := exists_of_completes hcompletes
  rw [hprepared] at hprepared'
  cases hprepared'
  have hlanguage := languageId_of_prepareLint hprepared d List.mem_cons_self
  obtain ⟨o, rfl, ho⟩ := loneEnd?_of_lintAll (regular_session s settings) hsteady hlanguage hall
  obtain ⟨-, houtput, hstatus⟩ :=
    lint_of_json least (a := { a with files := [f] }) hjson hprepared hall
  exact ⟨hlanguage, o, ho, houtput, hstatus⟩

/-- To lint many files with the outcomes printed as JSON is to lint each of them so. -/
lemma lint_batch {s : Surroundings} {least : Level} {a : LintArguments} {root : String}
    (hroot : a.root = some root) (hjson : a.json = true) (hsteady : s.runner.Steady)
    (hfiles : a.files ≠ [])
    (hsingles : ∀ f ∈ a.files, (lint s least { a with files := [f] }).completes = true) :
    let e := lint s least a
    e.completes = true ∧ ∃ linted : List (Document × Outcome),
      List.Forall₂ (fun f p =>
        let e₁ := lint s least { a with files := [f] }
        e₁.output = Presentation.outcomesAsJson [p] ∧ e₁.status = lintStatus [p.2] ∧
          p.2.status ≠ .skipped ∧ p.2.status ≠ .superseded) a.files linted ∧
      e.output = Presentation.outcomesAsJson linted ∧
      e.status = lintStatus (linted.map (·.2)) := by
  intro e
  have hprepares : ∀ f ∈ a.files, ∃ settings documents,
      prepareLint s { a with files := [f] } = .ok (settings, documents) := by
    intro f hf
    obtain ⟨settings, documents, s', os, hprepared, -⟩ := exists_of_completes (hsingles f hf)
    exact ⟨settings, documents, hprepared⟩
  obtain ⟨settings, documents, hprepared, hdocuments⟩ :=
    prepareLint_of_singles hroot hfiles hprepares
  have hpairs := (List.forall₂_and_left _ _).2 ⟨hsingles, hdocuments⟩
  obtain ⟨s', os, hall, hos⟩ := lintAll_of_regular (regular_session s settings) hsteady
    (forall_of_forall₂ hpairs fun f d h => by
      obtain ⟨hlanguage, o, ho, -⟩ := lint_single hjson hsteady h.1 h.2
      exact ⟨hlanguage, o, ho⟩)
  obtain ⟨hcompletes, houtput, hstatus⟩ := lint_of_json least hjson hprepared hall
  refine ⟨hcompletes, documents.zip os, ?_, houtput, hstatus⟩
  refine (forall₂_zip hpairs hos).imp ?_
  rintro f ⟨d, o⟩ ⟨⟨hone, hprepared₁⟩, o₁, ho₁, hsame⟩
  obtain ⟨-, o₂, ho₂, houtput₁, hstatus₁⟩ := lint_single hjson hsteady hone hprepared₁
  rw [ho₁] at ho₂
  cases ho₂
  have hended := status_of_loneEnd? ho₁
  dsimp only at hsame ⊢
  rw [hsame]
  exact ⟨houtput₁, hstatus₁, hended⟩

/-! ## The arguments -/

/-- An option without a value is told apart by its name. -/
lemma tellApart_flag {t : OptionTable} {mixed : Bool} {options : List GivenOption}
    {others rest : List String} {name : String} (hend : (name == "--") = false)
    (hoption : OptionTable.isOption name = true)
    (hname : OptionTable.attachment name = (name, none)) (hvalued : t.valued.contains name = false)
    (hflag : t.flags.contains name = true) :
    t.tellApart mixed options others (name :: rest) =
      t.tellApart mixed (.flag name :: options) others rest := by
  rw [OptionTable.tellApart]
  simp only [hend, hoption, hname, hvalued, hflag, Bool.not_true, Bool.false_eq_true, if_false,
    if_true, Option.isSome_none]

/-- An option with a value takes the argument behind it, whatever it is. -/
lemma tellApart_value {t : OptionTable} {mixed : Bool} {options : List GivenOption}
    {others rest : List String} {name value : String} (hend : (name == "--") = false)
    (hoption : OptionTable.isOption name = true)
    (hname : OptionTable.attachment name = (name, none)) (hvalued : t.valued.contains name = true) :
    t.tellApart mixed options others (name :: value :: rest) =
      t.tellApart mixed (.value name value :: options) others rest := by
  rw [OptionTable.tellApart]
  simp only [hend, hoption, hname, hvalued, Bool.not_true, Bool.false_eq_true, if_false, if_true]

/-- Behind two dashes alone there are no options, whatever the arguments look like. -/
lemma tellApart_end (t : OptionTable) (mixed : Bool) (options : List GivenOption)
    (others rest : List String) : t.tellApart mixed options others ("--" :: rest) =
      .ok (options.reverse, others.reverse ++ rest) := by
  rw [OptionTable.tellApart]
  simp only [beq_self_eq_true, if_true]

/-- The first argument that is no option ends the options before a command. -/
lemma tellApart_command {t : OptionTable} {options : List GivenOption} {others rest : List String}
    {name : String} (hoption : OptionTable.isOption name = false)
    (hend : (name == "--") = false) : t.tellApart false options others (name :: rest) =
      .ok (options.reverse, others.reverse ++ name :: rest) := by
  rw [OptionTable.tellApart]
  simp only [hend, hoption, Bool.not_false, Bool.false_eq_true, if_false, if_true]

/-- The option that says whether the linter is to be strict, if it is to be said. -/
def strictness : Option Bool → List String
  | some true => ["--strict"]
  | some false => ["--no-strict"]
  | none => []

/-- The arguments that ask to lint files with a given root and to print the outcomes as JSON. -/
def batchArguments (verbose : Bool) (root : String) (strict : Option Bool) (files : List String) :
    List String :=
  (if verbose then ["--verbose"] else []) ++
    "lint" :: "--json" :: "--root" :: root :: (strictness strict ++ "--" :: files)

/-- The options behind a word for strictness. -/
def strictnessOptions : Option Bool → List GivenOption
  | some true => [.flag "--strict"]
  | some false => [.flag "--no-strict"]
  | none => []

/-- A word for strictness in front of the files is told apart from them. -/
lemma tellApart_strictness (strict : Option Bool) (files : List String)
    (options : List GivenOption) :
    Invocation.lintOptions.tellApart true options [] (strictness strict ++ "--" :: files) =
      .ok (options.reverse ++ strictnessOptions strict, files) := by
  have hword (name : String) (hend : (name == "--") = false)
      (hoption : OptionTable.isOption name = true)
      (hname : OptionTable.attachment name = (name, none))
      (hvalued : Invocation.lintOptions.valued.contains name = false)
      (hflag : Invocation.lintOptions.flags.contains name = true) :
      Invocation.lintOptions.tellApart true options [] (name :: "--" :: files) =
        .ok (options.reverse ++ [.flag name], files) := by
    rw [tellApart_flag hend hoption hname hvalued hflag, tellApart_end, List.reverse_cons]
    rfl
  rcases strict with - | - | -
  · change Invocation.lintOptions.tellApart true options [] ("--" :: files) = _
    rw [tellApart_end, strictnessOptions, List.append_nil]
    rfl
  · exact hword "--no-strict" (by decide) (by decide) (by decide) (by decide) (by decide)
  · exact hword "--strict" (by decide) (by decide) (by decide) (by decide) (by decide)

/-- The arguments are those of a command behind the options of the program. -/
lemma readGeneral_batchArguments (verbose : Bool) (root : String) (strict : Option Bool)
    (files : List String) : Invocation.readGeneral (batchArguments verbose root strict files) =
      .ok (if verbose then [.flag "--verbose"] else [],
        "lint" :: "--json" :: "--root" :: root :: (strictness strict ++ "--" :: files)) := by
  unfold Invocation.readGeneral OptionTable.read batchArguments
  cases verbose with
  | true =>
    rw [if_pos rfl, List.cons_append, List.nil_append,
      tellApart_flag (by decide) (by decide) (by decide) (by decide) (by decide),
      tellApart_command (by decide) (by decide)]
    rfl
  | false =>
    rw [if_neg Bool.false_ne_true, List.nil_append, tellApart_command (by decide) (by decide)]
    rfl

/-- The arguments behind the name of the command are its options and the files. -/
lemma read_lintOptions (root : String) (strict : Option Bool) (files : List String) :
    Invocation.lintOptions.read true
      ("--json" :: "--root" :: root :: (strictness strict ++ "--" :: files)) =
        .ok (.flag "--json" :: .value "--root" root :: strictnessOptions strict, files) := by
  unfold OptionTable.read
  rw [tellApart_flag (by decide) (by decide) (by decide) (by decide) (by decide),
    tellApart_value (by decide) (by decide) (by decide) (by decide), tellApart_strictness]
  rfl

/-- These arguments are read as they are meant, whatever the root and the files look like. -/
lemma read_batchArguments (verbose : Bool) (root : String) (strict : Option Bool)
    (files : List String) : Invocation.read (batchArguments verbose root strict files) =
      .ok (.lint verbose { files, root := some root, strict, json := true }) := by
  have hcommand : Invocation.readCommand verbose .lint
      ("--json" :: "--root" :: root :: (strictness strict ++ "--" :: files)) =
        .ok (.lint verbose { files, root := some root, strict, json := true }) := by
    unfold Invocation.readCommand
    dsimp only
    rw [read_lintOptions]
    rcases strict with - | - | - <;> rfl
  have hnonempty : (batchArguments verbose root strict files).isEmpty = false := by
    cases verbose <;> rfl
  unfold Invocation.read
  rw [readGeneral_batchArguments, hnonempty]
  cases verbose with
  | true => exact hcommand
  | false => exact hcommand

/-- To run the program for these arguments is to lint the files. -/
lemma run_batchArguments (s : Surroundings) (verbose : Bool) (root : String)
    (strict : Option Bool) (files : List String) :
    run s (batchArguments verbose root strict files) =
      lint s (leastLevel verbose) { files, root := some root, strict, json := true } := by
  unfold run
  rw [read_batchArguments]

/-- Linting a batch of files in one run is linting each of them in a run of its own.  Where the root
of the project is given and the linter answers every call of one kind in the same way, and where
every single run completes, the run for all files completes, too; each single run prints an array
with one entry, and the run for all files the array of these entries, in the order of the files; no
file is skipped or superseded; and the status is the greatest of the statuses of the single runs. -/
theorem run_lint_batch {s : Surroundings} (hsteady : s.runner.Steady) {verbose : Bool}
    {root : String} {strict : Option Bool} {files : List String} (hfiles : files ≠ [])
    (hsingles : ∀ f ∈ files, (run s (batchArguments verbose root strict [f])).completes = true) :
    let e := run s (batchArguments verbose root strict files)
    let single (f : String) := run s (batchArguments verbose root strict [f])
    e.completes = true ∧
      e.status = (files.map fun f => (single f).status).foldr max 0 ∧
      ∃ linted : List (Document × Outcome),
        List.Forall₂ (fun f p => (single f).output = Presentation.arrayText
          [Presentation.entryText p]) files linted ∧
        e.output = Presentation.arrayText (linted.map Presentation.entryText) ∧
        ∀ p ∈ linted, p.2.status ≠ .skipped ∧ p.2.status ≠ .superseded := by
  simp only [run_batchArguments] at hsingles ⊢
  obtain ⟨hcompletes, linted, hlinted, houtput, hstatus⟩ :=
    lint_batch (a := { files, root := some root, strict, json := true }) rfl rfl hsteady hfiles
      hsingles
  have hstatuses : (files.map fun f => (lint s (leastLevel verbose)
      { files := [f], root := some root, strict, json := true }).status) =
        linted.map fun p => lintStatus [p.2] := by
    rw [← List.forall₂_eq_eq_eq, List.forall₂_map_left_iff, List.forall₂_map_right_iff]
    exact hlinted.imp fun f p h => h.2.1
  have hsome : linted ≠ [] := by
    rintro rfl
    exact hfiles (List.forall₂_nil_right_iff.1 hlinted)
  rw [Presentation.outcomesAsJson_eq hsome] at houtput
  refine ⟨hcompletes, ?_, linted, hlinted.imp fun f p h => ?_, houtput,
    forall_of_forall₂ hlinted fun f p h => h.2.2⟩
  · rw [hstatus, lintStatus_eq_foldr, hstatuses, List.map_map]
    rfl
  · exact h.1.trans (Presentation.outcomesAsJson_eq (List.cons_ne_nil p []))

/-- A file that is given twice and by a link, where the manifest is kept after the first lint: its
diagnostics are printed three times. -/
theorem run_lint_batch_repeated :
    let disk : Disk := {
      entries := [(["proj"], .directory), (["proj", "mix.exs"], .file [] false),
        (["proj", "a.ex"], .file [] false), (["proj", "b.ex"], .link "a.ex")]
      workingPlace := ["proj"] }
    let listing := "\x7b\"config\": \x7b\"files\": [\"a.ex\"]\x7d\x7d"
    let finding := "a.ex:3:5: W: m [Credo.Check.Warning.IoInspect]\n"
    let runner : Runner := fun mode _ => {
      held := false
      answer := fun _ =>
        .finished { text := if mode == .list then finding else listing, returnCode := 0 } }
    let s : Surroundings := {
      disk, runner
      environment := [("CREDOLINT__LINTER__CACHE_MANIFEST", "true")]
      userFile := .ofNames ["etc", "config.yaml"] }
    let files := ["a.ex", "b.ex", "a.ex"]
    let single (f : String) := run s (batchArguments false "." none [f])
    let e := run s (batchArguments false "." none files)
    (∀ f ∈ files, (single f).completes = true) ∧
      e.completes = true ∧
      ∃ p q r : Document × Outcome,
        (single "a.ex").output = Presentation.arrayText [Presentation.entryText p] ∧
        (single "b.ex").output = Presentation.arrayText [Presentation.entryText q] ∧
        (single "a.ex").output = Presentation.arrayText [Presentation.entryText r] ∧
        e.output = Presentation.arrayText ([p, q, r].map Presentation.entryText) := by
  intro disk listing finding runner s files single e
  have hsteady : s.runner.Steady := fun _ _ _ => rfl
  have hsingles : ∀ f ∈ files, (single f).completes = true := by decide +kernel
  obtain ⟨hcompletes, -, linted, hlinted, houtput, -⟩ :=
    run_lint_batch hsteady (List.cons_ne_nil _ _) hsingles
  obtain ⟨p, rest, hp, hrest, rfl⟩ := List.forall₂_cons_left_iff.1 hlinted
  obtain ⟨q, tail, hq, htail, rfl⟩ := List.forall₂_cons_left_iff.1 hrest
  obtain ⟨r, none, hr, hnone, rfl⟩ := List.forall₂_cons_left_iff.1 htail
  obtain rfl := List.forall₂_nil_left_iff.1 hnone
  exact ⟨hsingles, hcompletes, p, q, r, hp, hq, hr, houtput⟩

end CommandLine

end LintRelay
