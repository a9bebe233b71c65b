import LintRelay.Proofs.Manifest.Document
import LintRelay.Proofs.Manifest.Membership

/-!
# The shape of a report on files

What comes of a report that can be decoded hangs on the value under `config.files` alone
(`filesMember?`).  Nothing there, or a value that counts as absent, is a project without files; a
list is one with the files that its texts name; and any other value makes the report malformed.
`listing_of_member` and `listing_of_none` say so of the report, and `ofOutput_shape` carries this
over to its text.

Not only `null` counts as absent, but `false`, zero, the empty text and the empty mapping do too
(`ofOutput_of_false`).
-/

namespace LintRelay.Manifest

variable {d : Disk} {root : Path} {report files : Value} {raw : String} {depth : Nat}

/-- The value under `config.files`.  There is one only if the report is a mapping and its `config`
is one. -/
def filesMember? (report : Value) : Option Value :=
  (report.field? "config").bind (Value.field? "files")

/-- What this value lists. -/
def listingOf : Value → Listing
  | .list items => .files (items.filterMap path?)
  | files => if files.isFalsy then .files [] else .noList

/-- A value that counts as absent lists no files. -/
lemma listingOf_of_isFalsy (h : files.isFalsy = true) : listingOf files = .files [] := by
  unfold listingOf
  split
  · next items =>
    rw [List.isEmpty_iff.1 h]
    rfl
  · exact if_pos h

/-- Any other value but a list lists no files but something else. -/
lemma listingOf_eq_noList_iff :
    listingOf files = .noList ↔ files.isFalsy = false ∧ ∀ items, files ≠ .list items := by
  unfold listingOf
  split
  · next items => exact iff_of_false nofun fun h => h.2 items rfl
  · next hlist =>
    cases files.isFalsy with
    | true => exact iff_of_false nofun nofun
    | false => exact iff_of_true rfl ⟨rfl, hlist⟩

/-- What a report lists is read off the value that stands there. -/
lemma listing_of_member (h : filesMember? report = some files) :
    listing report = listingOf files := by
  obtain ⟨config, hconfig, hfiles⟩ := Option.bind_eq_some_iff.1 h
  unfold listing
  rw [hconfig]
  cases config with
  | map entries =>
    dsimp only
    rw [hfiles]
    cases files <;> rfl
  | _ => cases hfiles

/-- Where nothing stands there it lists no files. -/
lemma listing_of_none (h : filesMember? report = none) :
    listing report = .absent ∨ listing report = .files [] := by
  unfold listing
  split
  · next entries hconfig =>
    have hnone : Value.field? "files" (.map entries) = none := by
      rw [filesMember?, hconfig] at h
      exact h
    rw [hnone]
    exact .inr rfl
  · exact .inl rfl

/-- Neither does it where the value counts as absent. -/
lemma listing_of_absent (h : ∀ files, filesMember? report = some files → files.isFalsy = true) :
    listing report = .absent ∨ listing report = .files [] := by
  cases hfiles : filesMember? report with
  | none => exact listing_of_none hfiles
  | some files =>
    rw [listing_of_member hfiles]
    exact .inr (listingOf_of_isFalsy (h files hfiles))

/-- It lists no files but something else if and only if the value neither counts as absent nor is a
list. -/
lemma listing_eq_noList_iff :
    listing report = .noList ↔ ∃ files, filesMember? report = some files ∧
      files.isFalsy = false ∧ ∀ items, files ≠ .list items := by
  constructor
  · intro h
    cases hfiles : filesMember? report with
    | none => rcases listing_of_none hfiles with h' | h' <;> cases h.symm.trans h'
    | some files =>
      rw [listing_of_member hfiles] at h
      exact ⟨files, rfl, listingOf_eq_noList_iff.1 h⟩
  · rintro ⟨files, hfiles, h⟩
    rw [listing_of_member hfiles]
    exact listingOf_eq_noList_iff.2 h

/-- A text of ASCII characters holds no line break that may stand in a string. -/
lemma document_decodes_of_ascii (hascii : ∀ c ∈ raw.toList, c.toNat < 128)
    (hdecode : Json.decode depth raw.toList = .ok report) :
    Json.decode depth (document raw) = .ok report := by
  refine (document_decodes_iff hdecode).1.2 fun c hc hmem => ?_
  have hlow := hascii c hmem
  simp only [List.mem_cons, List.not_mem_nil, or_false] at hc
  rcases hc with rfl | rfl | rfl <;> exact absurd hlow (by decide)

/-- The path in a text that holds neither the character that no name can hold nor halves of
surrogate pairs has names that can stand on a disk. -/
lemma isProper_of_mem_paths {items : List Value}
    (hnul : ∀ s, .text s ∈ items → '\x00' ∉ s.toList) (hhalf : ∀ ps, .points ps ∉ items) :
    ∀ file ∈ items.filterMap path?, file.isProper = true := by
  intro file hfile
  obtain ⟨item, hitem, hpath⟩ := List.mem_filterMap.1 hfile
  cases item with
  | text s =>
    cases hpath
    exact Path.isProper_ofText (hnul s hitem)
  | points ps => exact absurd hitem (hhalf ps)
  | _ => cases hpath

/-- A report in ASCII characters that can be decoded is malformed if and only if something stands
under `config.files` that neither counts as absent nor is a list.  If nothing stands there or it
counts as absent the project has no files.  If it is a list the project has the files that its texts
name, in order, by their canonical paths. -/
theorem ofOutput_shape (hd : d.Shallow) (hroot : d.Passable root)
    (hascii : ∀ c ∈ raw.toList, c.toNat < 128)
    (hdecode : Json.decode d.depths.json raw.toList = .ok report) :
    ((∃ reason text, ofOutput d root raw = .error (.malformed reason text)) ↔
      ∃ files, filesMember? report = some files ∧ files.isFalsy = false ∧
        ∀ items, files ≠ .list items) ∧
    (∀ reason text, ofOutput d root raw = .error (.malformed reason text) →
      reason = "config.files is not a list" ∧ text = String.ofList (document raw)) ∧
    ((∀ files, filesMember? report = some files → files.isFalsy = true) →
      ∃ m, ofOutput d root raw = .ok m ∧ m.files = []) ∧
    ∀ items, filesMember? report = some (.list items) →
      (∀ s, .text s ∈ items → '\x00' ∉ s.toList) → (∀ ps, .points ps ∉ items) →
      ∃ m, ofOutput d root raw = .ok m ∧ d.Canonical root m.root ∧
        List.Forall₂ (fun file found => d.Canonical (root.join file) found)
          (items.filterMap path?) m.files := by
  have hdocument := document_decodes_of_ascii hascii hdecode
  have hmalformed : ∀ reason text, ofOutput d root raw = .error (.malformed reason text) →
      listing report = .noList ∧ reason = "config.files is not a list" ∧
        text = String.ofList (document raw) := by
    intro reason text h
    cases hlisting : listing report with
    | absent => simp [ofOutput, hdocument, hlisting] at h
    | files names => exact absurd h (ofOutput_ne_malformed hdocument hlisting reason text)
    | noList =>
      simp only [ofOutput, hdocument, hlisting] at h
      cases h
      exact ⟨rfl, rfl, rfl⟩
  have hfiles : ∀ files, listing report = .files files → (∀ file ∈ files, file.isProper = true) →
      ∃ m, ofOutput d root raw = .ok m ∧ d.Canonical root m.root ∧
        List.Forall₂ (fun file found => d.Canonical (root.join file) found) files m.files := by
    intro files hlisting hproper
    obtain ⟨m, hm⟩ := exists_ofRelative hd hroot hproper
    exact ⟨m, (ofOutput_eq_ok_iff hdocument hlisting).2 hm, (ofRelative_iff hd hroot hproper).1 hm⟩
  refine ⟨?_, fun reason text h => (hmalformed reason text h).2, ?_, ?_⟩
  · rw [← listing_eq_noList_iff]
    constructor
    · rintro ⟨reason, text, h⟩
      exact (hmalformed reason text h).1
    · intro h
      refine ⟨"config.files is not a list", String.ofList (document raw), ?_⟩
      simp only [ofOutput, hdocument, h]
  · intro h
    rcases listing_of_absent h with hlisting | hlisting
    · refine ⟨empty root, ?_, rfl⟩
      simp only [ofOutput, hdocument, hlisting]
    · obtain ⟨m, hm, -, hnone⟩ := hfiles [] hlisting (List.forall_mem_nil _)
      exact ⟨m, hm, List.forall₂_nil_left_iff.1 hnone⟩
  · intro items hitems hnul hhalf
    exact hfiles _ (listing_of_member hitems) (isProper_of_mem_paths hnul hhalf)

/-- Items that are no texts are passed over, and a file that is named twice is there twice. -/
theorem ofOutput_shape_mixed :
    let disk : Disk := { entries := [], workingPlace := [] }
    let raw :=
      "\x7b\"config\":\n\x7b\"files\": [\"a.ex\", 0, [\"b.ex\"], null, \"lib/../a.ex\"]\x7d\x7d"
    disk.Shallow ∧ ∃ m, ofOutput disk (.ofText "/proj") raw = .ok m ∧
      m.files = [.ofText "/proj/a.ex", .ofText "/proj/a.ex"] := by
  intro disk raw
  have hdisk : disk.Shallow :=
    ⟨disk.clear_nil, ⟨0, by decide, fun p n target h => nomatch Disk.mem_entries_of_link? h⟩,
      fun place target h => nomatch Disk.mem_entries_of_link? h⟩
  have hdecode : Json.decode 990 raw.toList = .ok (.map [(.text "config", .map [(.text "files",
      .list [.text "a.ex", .int 0, .list [.text "b.ex"], .null, .text "lib/../a.ex"])])]) := by
    decide +kernel
  have hproj : disk.Leads 0 [] ["proj"] ["proj"] := .down (by decide) (by decide) .stop
  have hfile : disk.Leads 0 ["proj"] ["a.ex"] ["proj", "a.ex"] :=
    .down (by decide) (by decide) .stop
  have hplain : disk.Canonical (.join (.ofText "/proj") (.ofText "a.ex"))
      (.ofText "/proj/a.ex") :=
    ⟨0, _, Disk.leads_append.2 ⟨_, hproj, hfile⟩, rfl⟩
  have hdotted : disk.Canonical (.join (.ofText "/proj") (.ofText "lib/../a.ex"))
      (.ofText "/proj/a.ex") :=
    ⟨0, _, Disk.leads_append.2 ⟨_, hproj, .down (by decide) (by decide) (.up hfile)⟩, rfl⟩
  have hroot : disk.Passable (.ofText "/proj") := hdisk.passable (by decide) (by decide)
  have hascii : ∀ c ∈ raw.toList, c.toNat < 128 := by
    have hall : (raw.toList.all fun c => decide (c.toNat < 128)) = true := by decide +kernel
    exact fun c hc => of_decide_eq_true (List.all_eq_true.1 hall c hc)
  obtain ⟨-, -, -, hlist⟩ := ofOutput_shape hdisk hroot hascii hdecode
  obtain ⟨m, hm, -, hfiles⟩ := hlist _ rfl (by simp) (by simp)
  refine ⟨hdisk, m, hm, ?_⟩
  obtain ⟨x, xs, hx, hxs, hcons⟩ := List.forall₂_cons_left_iff.1 hfiles
  obtain ⟨y, ys, hy, hys, rfl⟩ := List.forall₂_cons_left_iff.1 hxs
  rw [hcons, List.forall₂_nil_left_iff.1 hys, ← hplain.unique hx, ← hdotted.unique hy]

/-- The value `false` stands under `config.files`, which is no list, and yet the report is not
malformed. -/
theorem ofOutput_of_false :
    let disk : Disk := { entries := [], workingPlace := [] }
    let raw := "\x7b\"config\": \x7b\"files\": false\x7d\x7d"
    let report : Value := .map [(.text "config", .map [(.text "files", .bool false)])]
    Json.decode disk.depths.json raw.toList = .ok report ∧
      filesMember? report = some (.bool false) ∧
      ofOutput disk (.ofText "/proj") raw = .ok ⟨.ofText "/proj", []⟩ := by
  intro disk raw report
  have hdecode : Json.decode 990 (document raw) = .ok report := by decide +kernel
  have hlisting : listing report = .files [] := by decide
  have hempty : ofRelative disk (.ofText "/proj") [] = .ok ⟨.ofText "/proj", []⟩ := by
    decide +kernel
  exact ⟨by decide +kernel, by decide, (ofOutput_eq_ok_iff hdecode hlisting).2 hempty⟩

end LintRelay.Manifest
