import LintRelay.Collection
import LintRelay.Document
import LintRelay.Proofs.Disk.Lookup
import LintRelay.Proofs.Disk.Overlooked
import LintRelay.Proofs.Keyed
import LintRelay.Proofs.Text.Utf8
import LintRelay.Session.Desk

/-!
# One URI for each file

A URI spells the bytes of a path, each byte as itself or as a percent sign with two hexadecimal
digits.  Since neither spelling begins another one, the bytes can be told from the URI
(`flatMap_uriByte_injective`), so paths with the same URI have the same bytes (`uriOf_eq_iff`).

A document that is read from the disk has the URI of the path that its own path is resolved to.  If
the program can go along both paths, two documents have the same URI if and only if their paths lead
to the same file, and only then they share what is kept of a document (`uri_eq_iff_same_file`).  A
path with a link that is overlooked may lead to another file (`uri_eq_of_overlooked`).
-/

namespace LintRelay.Document

variable {b b' : UInt8} {cs cs' : List Char} {p q : Path}

/-! ## Spelling bytes -/

/-- A byte that stands for itself is that of an ASCII character other than the percent sign. -/
lemma isPlainByte_spec (h : isPlainByte b = true) : b.toNat < 128 ∧ b.toNat ≠ '%'.toNat := by
  simp only [isPlainByte, Bool.or_eq_true, Bool.and_eq_true, decide_eq_true_eq, beq_iff_eq] at h
  have hmark : '%'.toNat = 37 := rfl
  omega

/-- Two digits are told apart in upper case. -/
lemma upper_digitChar_inj {i j : Nat} (hi : i < 16) (hj : j < 16)
    (h : (Nat.digitChar i).toUpper = (Nat.digitChar j).toUpper) : i = j := by
  have hall : ∀ i < 16, ∀ j < 16,
      (Nat.digitChar i).toUpper = (Nat.digitChar j).toUpper → i = j := by
    decide
  exact hall i hi j hj h

/-- A byte that stands for itself does so without a percent sign. -/
lemma uriByte_of_plain (h : isPlainByte b = true) :
    ∃ c, uriByte b = [c] ∧ c.toNat = b.toNat ∧ c ≠ '%' := by
  obtain ⟨hlow, hmark⟩ := isPlainByte_spec h
  have hc : (Char.ofNat b.toNat).toNat = b.toNat := by
    have hvalid : b.toNat.isValidChar := .inl (by omega)
    rw [Char.ofNat, dif_pos hvalid]
    rfl
  exact ⟨_, if_pos h, hc, fun heq => hmark (heq ▸ hc).symm⟩

/-- Any other byte is a percent sign with two digits. -/
lemma uriByte_of_not_plain (h : isPlainByte b = false) : uriByte b =
    ['%', (Nat.digitChar (b.toNat / 16 % 16)).toUpper, (Nat.digitChar (b.toNat % 16)).toUpper] := by
  rw [uriByte, h, if_neg Bool.false_ne_true]
  rfl

/-- No spelling of a byte begins another one. -/
lemma uriByte_append_inj (h : uriByte b ++ cs = uriByte b' ++ cs') : b = b' ∧ cs = cs' := by
  cases hb : isPlainByte b with
  | true =>
    obtain ⟨c, hc, hnat, hmark⟩ := uriByte_of_plain hb
    cases hb' : isPlainByte b' with
    | true =>
      obtain ⟨c', hc', hnat', -⟩ := uriByte_of_plain hb'
      rw [hc, hc'] at h
      obtain ⟨rfl, rfl⟩ := List.cons_eq_cons.1 h
      exact ⟨UInt8.toNat_inj.1 (hnat.symm.trans hnat'), rfl⟩
    | false =>
      rw [hc, uriByte_of_not_plain hb'] at h
      exact absurd (List.cons_eq_cons.1 h).1 hmark
  | false =>
    cases hb' : isPlainByte b' with
    | true =>
      obtain ⟨c', hc', -, hmark⟩ := uriByte_of_plain hb'
      rw [hc', uriByte_of_not_plain hb] at h
      exact absurd (List.cons_eq_cons.1 h).1.symm hmark
    | false =>
      rw [uriByte_of_not_plain hb, uriByte_of_not_plain hb'] at h
      simp only [List.cons_append, List.nil_append, List.cons.injEq, true_and] at h
      obtain ⟨hhigh, hlow, rfl⟩ := h
      have hlt : b.toNat < 256 := b.toNat_lt
      have hlt' : b'.toNat < 256 := b'.toNat_lt
      have hhigh := upper_digitChar_inj (by omega) (by omega) hhigh
      have hlow := upper_digitChar_inj (by omega) (by omega) hlow
      exact ⟨UInt8.toNat_inj.1 (by omega), rfl⟩

/-- Bytes can be told from their spellings in a row. -/
theorem flatMap_uriByte_injective :
    Function.Injective fun bs : List UInt8 => bs.flatMap uriByte := by
  have hspelled : ∀ b, uriByte b ≠ [] := by
    intro b
    unfold uriByte
    split <;> nofun
  intro bs bs' h
  dsimp only at h
  induction bs generalizing bs' with
  | nil =>
    cases bs' with
    | nil => rfl
    | cons b' bs' => exact absurd (List.append_eq_nil_iff.1 h.symm).1 (hspelled b')
  | cons b bs ih =>
    cases bs' with
    | nil => exact absurd (List.append_eq_nil_iff.1 h).1 (hspelled b)
    | cons b' bs' =>
      obtain ⟨rfl, hrest⟩ := uriByte_append_inj h
      rw [ih hrest]

/-- Two paths have the same URI if and only if they have the same bytes. -/
theorem uriOf_eq_iff : uriOf p = uriOf q ↔ p.bytes = q.bytes := by
  refine ⟨fun h => ?_, fun h => by rw [uriOf, h, uriOf]⟩
  exact flatMap_uriByte_injective (String.ofList_injective ((String.append_right_inj _).1 h))

example : uriOf (.ofText "/a b") ≠ uriOf (.ofText "/a%20b") := by decide

/-! ## Documents read from a disk -/

variable {d : Disk} {place place' : Place} {bytes bytes' : List UInt8} {x x' : Bool} {e e' : Entry}

/-- The document of a file that is found under a path which the program can go along: it is read
under the canonical path, if that is no longer than paths can be. -/
theorem ofFile_of_locate (hd : d.Sound) (hp : d.Passable p)
    (h : d.locate p = .ok (place, .file bytes x)) (languageId : String) :
    ofFile d p languageId = if Disk.pathLimit < (Path.ofNames place).size then
        .error (.unreachable .nameTooLong)
      else .ok {
        uri := uriOf (.ofNames place)
        path := .ofNames place
        languageId
        text := textOf bytes } := by
  obtain ⟨hcanonical, hfound⟩ := hd.resolve_of_locate hp h
  obtain ⟨-, hentry, hlink⟩ := hd.leads_of_locate hcanonical.isProper h
  unfold ofFile
  rw [hfound]
  dsimp only
  rw [hd.locate_place hentry hlink]
  by_cases hsize : Disk.pathLimit < (Path.ofNames place).size
  · rw [if_pos hsize, if_pos hsize]
  · rw [if_neg hsize, if_neg hsize]

/-- Two places have the same URI only if they are the same. -/
lemma place_eq_of_uriOf_eq (hd : d.Sound) (h : d.entry? place = some e)
    (h' : d.entry? place' = some e') (huri : uriOf (.ofNames place) = uriOf (.ofNames place')) :
    place = place' := by
  have hproper : ∀ {place e}, d.entry? place = some e → (Path.ofNames place).isProper = true :=
    fun hentry => List.all_eq_true.2 fun n hn => (hd.fileName hentry n hn).isName.proper
  have hbytes := uriOf_eq_iff.1 huri
  rw [Path.bytes_of_isProper (hproper h), Path.bytes_of_isProper (hproper h')] at hbytes
  have htext := congrArg Path.ofText (String.toList_inj.1 (Utf8.encode_injective hbytes))
  rw [hd.ofText_place h, hd.ofText_place h'] at htext
  exact congrArg Path.names htext

/-- Whether two documents share what is kept of a document: a generation that is handed out for one
is the next one of the other, and the diagnostics of one are those of the other. -/
structure Shares (a b : Document) : Prop where
  generation : ∀ desk : Desk, (desk.advance a.uri).generation b.uri = desk.generation b.uri + 1
  set : ∀ c c' : Collection, ∀ ds, c.set? a.uri ds = some c' → c'.get b.uri = ds
  delete : ∀ c : Collection, (c.delete a.uri).get b.uri = []

/-- Whether nothing that is done to what is kept of one document changes what is kept of the other
one. -/
structure Apart (a b : Document) : Prop where
  generation : ∀ desk : Desk, (desk.advance a.uri).generation b.uri = desk.generation b.uri
  set : ∀ c c' : Collection, ∀ ds, c.set? a.uri ds = some c' → c'.get b.uri = c.get b.uri
  delete : ∀ c : Collection, (c.delete a.uri).get b.uri = c.get b.uri

/-- Setting the diagnostics of a document sets its entry. -/
lemma entries_of_set? {c c' : Collection} {uri : String} {ds : List Diagnostic}
    (h : c.set? uri ds = some c') : c'.entries = Keyed.put uri ds c.entries := by
  unfold Collection.set? at h
  split at h
  · cases h
  · cases h
    rfl

/-- Documents with the same URI share what is kept. -/
lemma shares_of_uri_eq {a b : Document} (h : a.uri = b.uri) : Shares a b where
  generation desk := by
    unfold Desk.advance Desk.generation
    rw [h, Keyed.lookup_put_self, Option.getD_some]
  set c c' ds hset := by
    unfold Collection.get
    rw [entries_of_set? hset, h, Keyed.lookup_put_self, Option.getD_some]
  delete c := by
    unfold Collection.delete Collection.get
    rw [h, Keyed.lookup_remove_self, Option.getD_none]

/-- Documents with different URIs share nothing. -/
lemma apart_of_uri_ne {a b : Document} (h : a.uri ≠ b.uri) : Apart a b where
  generation desk := by
    unfold Desk.advance Desk.generation
    rw [Keyed.lookup_put_of_ne h.symm]
  set c c' ds hset := by
    unfold Collection.get
    rw [entries_of_set? hset, Keyed.lookup_put_of_ne h.symm]
  delete c := by
    unfold Collection.delete Collection.get
    rw [Keyed.lookup_remove_of_ne h.symm]

/-- Under each path of a file that the program can go along, the document can be read if the
canonical path is no longer than paths can be.  Two such documents have the same URI if and only if
their paths have the same canonical path; then they share what is kept of a document, and otherwise
they share nothing of it. -/
theorem uri_eq_iff_same_file (hd : d.Sound) (hp : d.Passable p) (hq : d.Passable q)
    (hfile : d.locate p = .ok (place, .file bytes x))
    (hfile' : d.locate q = .ok (place', .file bytes' x')) (languageId languageId' : String) :
    d.Canonical p (.ofNames place) ∧ d.Canonical q (.ofNames place') ∧
    ((∃ a, ofFile d p languageId = .ok a) ↔ (Path.ofNames place).size ≤ Disk.pathLimit) ∧
    ∀ a b, ofFile d p languageId = .ok a → ofFile d q languageId' = .ok b →
      (a.uri = b.uri ↔ ∃ r, d.Canonical p r ∧ d.Canonical q r) ∧
      ((∃ r, d.Canonical p r ∧ d.Canonical q r) → Shares a b) ∧
      ((¬∃ r, d.Canonical p r ∧ d.Canonical q r) → Apart a b) := by
  obtain ⟨hcanonical, -⟩ := hd.resolve_of_locate hp hfile
  obtain ⟨hcanonical', -⟩ := hd.resolve_of_locate hq hfile'
  obtain ⟨-, hentry, -⟩ := hd.leads_of_locate hcanonical.isProper hfile
  obtain ⟨-, hentry', -⟩ := hd.leads_of_locate hcanonical'.isProper hfile'
  have hsame : (∃ r, d.Canonical p r ∧ d.Canonical q r) ↔ place = place' := by
    constructor
    · rintro ⟨r, hr, hr'⟩
      have heq : Path.ofNames place = .ofNames place' :=
        (hcanonical.unique hr).trans (hr'.unique hcanonical')
      exact congrArg Path.names heq
    · rintro rfl
      exact ⟨_, hcanonical, hcanonical'⟩
  have huri : ∀ {p place bytes x languageId a}, d.Passable p →
      d.locate p = .ok (place, .file bytes x) → ofFile d p languageId = .ok a →
        a.uri = uriOf (.ofNames place) := by
    intro p place bytes x languageId a hp hlocate hread
    rw [ofFile_of_locate hd hp hlocate] at hread
    split at hread
    · cases hread
    · cases hread
      rfl
  refine ⟨hcanonical, hcanonical', ?_, fun a b ha hb => ?_⟩
  · rw [ofFile_of_locate hd hp hfile]
    split
    · next hsize => simpa using hsize
    · next hsize => simpa using hsize
  · have heq : a.uri = b.uri ↔ ∃ r, d.Canonical p r ∧ d.Canonical q r := by
      rw [hsame, huri hp hfile ha, huri hq hfile' hb]
      exact ⟨place_eq_of_uriOf_eq hd hentry hentry', fun h => h ▸ rfl⟩
    exact ⟨heq, fun h => shares_of_uri_eq (heq.2 h), fun h => apart_of_uri_ne (mt heq.1 h)⟩

/-- A file under a name with a percent sign, a blank and a letter outside ASCII, once behind a link
and double dots, once counted from the root. -/
theorem uri_eq_of_spellings :
    let place : Place := ["proj", "a b%20", "ü.ex"]
    let d : Disk := {
      entries := [(["proj"], .directory), (["proj", "a b%20"], .directory),
        (place, .file [0x61] false), (["l"], .link "proj/a b%20")]
      workingPlace := ["proj"] }
    let p : Path := .ofText "../l/../a b%20/./ü.ex"
    let q : Path := .ofText "/l//ü.ex"
    uriOf (.ofNames place) = "file:///proj/a%20b%2520/%C3%BC.ex" ∧
    ∃ a b, ofFile d p "elixir" = .ok a ∧ ofFile d q "text" = .ok b ∧
      a.uri = b.uri ∧ Shares a b := by
  intro place d p q
  have hd : d.Sound := ⟨by decide +kernel, by decide +kernel, by decide +kernel⟩
  have hlinks : d.Shallow := hd.shallow (by decide) (by decide +kernel)
  have hp : d.Passable p := by
    have hlink : d.link? (d.placeOf (Trail.down ⟨false, [".."]⟩ "l")) = some "proj/a b%20" := by
      decide +kernel
    have htarget : Disk.targetStart ⟨false, [".."]⟩ "proj/a b%20" = ⟨false, [".."]⟩ ∧
        Disk.targetNames "proj/a b%20" = ["proj", "a b%20"] := by decide +kernel
    have hthere : d.Follows 0 ⟨false, [".."]⟩ ["proj", "a b%20"]
        ⟨false, ["..", "proj", "a b%20"]⟩ :=
      .down (by decide) (by decide +kernel) (.down (by decide) (by decide +kernel) .stop)
    have hbehind : d.Follows 1 ⟨false, ["..", "proj", "a b%20"]⟩ ["..", "a b%20", "ü.ex"]
        ⟨false, ["..", "proj", "a b%20", "ü.ex"]⟩ :=
      .up (.down (by decide) (by decide +kernel) (.down (by decide) (by decide +kernel) .stop))
    have hspelled : p.start = ⟨false, []⟩ ∧ p.names = ["..", "l", "..", "a b%20", "ü.ex"] := by
      decide +kernel
    refine ⟨1, by decide, ⟨false, ["..", "proj", "a b%20", "ü.ex"]⟩, ?_⟩
    rw [hspelled.1, hspelled.2]
    refine .up (.follow (by decide) hlink (by decide +kernel) ?_ hbehind)
    rw [show Trail.up ⟨false, []⟩ = ⟨false, [".."]⟩ from rfl, htarget.1, htarget.2]
    exact hthere
  have hq : d.Passable q := hlinks.passable (by decide +kernel) (by decide +kernel)
  have hfile : d.locate p = .ok (place, .file [0x61] false) := by decide +kernel
  have hfile' : d.locate q = .ok (place, .file [0x61] false) := by decide +kernel
  obtain ⟨hcanonical, hcanonical', ⟨-, hread⟩, hdocuments⟩ :=
    uri_eq_iff_same_file hd hp hq hfile hfile' "elixir" "text"
  obtain ⟨-, -, ⟨-, hread'⟩, -⟩ := uri_eq_iff_same_file hd hq hp hfile' hfile "text" "elixir"
  have hsize : (Path.ofNames place).size ≤ Disk.pathLimit := by decide +kernel
  obtain ⟨a, ha⟩ := hread hsize
  obtain ⟨b, hb⟩ := hread' hsize
  obtain ⟨huri, hshares, -⟩ := hdocuments a b ha hb
  have hsame : ∃ r, d.Canonical p r ∧ d.Canonical q r := ⟨_, hcanonical, hcanonical'⟩
  exact ⟨by decide +kernel, a, b, ha, hb, huri.2 hsame, hshares hsame⟩

/-- Two different files have the same URI, if one of them is behind a link that is overlooked. -/
theorem uri_eq_of_overlooked :
    let d := Disk.climbs 1365
    let p := Disk.throughLinks
    let q := Path.ofNames ["v", "f"]
    d.locate p = .ok (["w", "f"], .file [0x32] false) ∧
      d.locate q = .ok (["v", "f"], .file [0x31] false) ∧
      (∃ a b, ofFile d p "elixir" = .ok a ∧ ofFile d q "elixir" = .ok b ∧ a.uri = b.uri) ∧
      ¬∃ r, d.Canonical p r ∧ d.Canonical q r := by
  intro d p q
  have hd : d.Sound := ⟨by decide +kernel, by decide +kernel, by decide +kernel⟩
  have hp : d.locate p = .ok (["w", "f"], .file [0x32] false) := Disk.locate_climbs 1365
  have hq : d.locate q = .ok (["v", "f"], .file [0x31] false) := rfl
  have hresolve : d.resolve p = .ok q := Disk.resolve_climbs (by decide)
  have hread (p : Path) (h : d.resolve p = .ok q) : ofFile d p "elixir" = .ok {
      uri := uriOf q, path := q, languageId := "elixir", text := textOf [0x31] } := by
    unfold ofFile
    rw [h]
    dsimp only
    rw [hq]
  refine ⟨hp, hq, ⟨_, _, hread p hresolve, hread q rfl, rfl⟩, ?_⟩
  rintro ⟨r, hr, hr'⟩
  obtain ⟨hleads, -, -⟩ := hd.leads_of_locate (by decide) hp
  obtain ⟨hleads', -, -⟩ := hd.leads_of_locate (by decide) hq
  have hfirst : d.Canonical p (.ofNames ["w", "f"]) := ⟨_, _, hleads, rfl⟩
  have hsecond : d.Canonical q (.ofNames ["v", "f"]) := ⟨_, _, hleads', rfl⟩
  exact absurd ((hfirst.unique hr).trans (hr'.unique hsecond)) (by decide)

end LintRelay.Document
