import LintRelay.Execution
import LintRelay.Proofs.Document.Uri
import LintRelay.Proofs.Session.Calls

/-!
# From the file to the linter

A document that is read from the disk has line feeds for its line ends, and the linter reads the
bytes of its text.  So a file that is valid UTF-8 reaches the linter with a line feed for each
carriage return, alone or before a line feed (`encode_textOf`): unchanged if and only if it holds no
carriage return (`withLineFeeds_eq_self_iff`).

This is what happens along every course of a session (`stdin_of_list_call`).
-/

namespace LintRelay

/-! ## Bytes with line feeds -/

/-- The bytes of a text with a line feed for each carriage return, alone or before a line feed. -/
def withLineFeeds : List UInt8 → List UInt8
  | [] => []
  | 13 :: 10 :: bs => 10 :: withLineFeeds bs
  | b :: bs => (if b = 13 then 10 else b) :: withLineFeeds bs

variable {bs bs' : List UInt8} {cs : List Char}

/-- A byte that does not begin a line end of two stays alone. -/
lemma withLineFeeds_cons {b : UInt8} (h : b = 13 → bs.head? ≠ some 10) :
    withLineFeeds (b :: bs) = (if b = 13 then 10 else b) :: withLineFeeds bs := by
  rw [withLineFeeds]
  rintro bs' rfl rfl
  exact h rfl rfl

/-- Bytes without carriage returns stay as they are, whatever follows. -/
lemma withLineFeeds_append (h : 13 ∉ bs) (bs' : List UInt8) :
    withLineFeeds (bs ++ bs') = bs ++ withLineFeeds bs' := by
  induction bs with
  | nil => rfl
  | cons b bs ih =>
    obtain ⟨hb, hbs⟩ := not_or.1 (mt List.mem_cons.2 h)
    rw [List.cons_append, withLineFeeds_cons fun heq => absurd heq.symm hb, if_neg (Ne.symm hb),
      ih hbs, List.cons_append]

/-- No carriage return is left. -/
lemma not_mem_withLineFeeds (bs : List UInt8) : 13 ∉ withLineFeeds bs := by
  fun_induction withLineFeeds bs with
  | case1 => exact List.not_mem_nil
  | case2 bs ih => exact List.not_mem_cons_of_ne_of_not_mem (by decide) ih
  | case3 b bs _ ih =>
    refine List.not_mem_cons_of_ne_of_not_mem ?_ ih
    split
    · decide
    · next hb => exact Ne.symm hb

/-- Bytes stay as they are if and only if there is no carriage return among them. -/
theorem withLineFeeds_eq_self_iff : withLineFeeds bs = bs ↔ 13 ∉ bs := by
  constructor
  · exact fun h => h ▸ not_mem_withLineFeeds bs
  · intro h
    simpa [withLineFeeds] using withLineFeeds_append h []

/-- Only a text that starts with a line feed has bytes that do. -/
lemma head?_encode_ne (h : cs.head? ≠ some '\n') : (Utf8.encode cs).head? ≠ some 10 := by
  cases cs with
  | nil => nofun
  | cons c cs =>
    intro hhead
    obtain ⟨b, bs, hc⟩ := List.exists_cons_of_ne_nil (show String.utf8EncodeChar c ≠ [] from
      String.utf8EncodeChar_ne_nil)
    rw [Utf8.encode, List.flatMap_cons, hc] at hhead
    obtain rfl := Option.some.inj hhead
    have hmem : (10 : UInt8) ∈ String.utf8EncodeChar c := hc ▸ List.mem_cons_self
    exact h (congrArg some (Utf8.eq_of_mem_utf8EncodeChar hmem (by decide)))

/-- The bytes of a text with line feeds for its line ends, behind what comes before it. -/
lemma encode_unifyFrom (done cs : List Char) : Utf8.encode (Text.unifyFrom done cs) =
    Utf8.encode done.reverse ++ withLineFeeds (Utf8.encode cs) := by
  have hconcat : ∀ (done : List Char) c, Utf8.encode (c :: done).reverse =
      Utf8.encode done.reverse ++ String.utf8EncodeChar c := by
    intro done c
    simp [Utf8.encode]
  fun_induction Text.unifyFrom done cs with
  | case1 done => exact (List.append_nil _).symm
  | case2 done cs ih =>
    have hbytes : Utf8.encode ('\r' :: '\n' :: cs) = 13 :: 10 :: Utf8.encode cs := rfl
    rw [ih, hconcat, hbytes, withLineFeeds, List.append_assoc]
    rfl
  | case3 done c cs hpair ih =>
    rw [ih, hconcat, List.append_assoc]
    congr 1
    by_cases hc : c = '\r'
    · subst hc
      have hhead : cs.head? ≠ some '\n' := by
        intro hhead
        obtain ⟨rest, rfl⟩ := List.head?_eq_some_iff.1 hhead
        exact hpair rest rfl rfl
      have hbytes : Utf8.encode ('\r' :: cs) = 13 :: Utf8.encode cs := rfl
      rw [hbytes, withLineFeeds_cons fun _ => head?_encode_ne hhead]
      rfl
    · have hbytes : Utf8.encode (c :: cs) = String.utf8EncodeChar c ++ Utf8.encode cs := rfl
      have hmem : 13 ∉ String.utf8EncodeChar c := fun hmem =>
        hc (Utf8.eq_of_mem_utf8EncodeChar hmem (by decide))
      rw [hbytes, withLineFeeds_append hmem, if_neg (by simpa using hc)]

/-- What the linter reads of a file that is valid: its bytes with line feeds. -/
theorem encode_textOf (h : bs.toByteArray.IsValidUTF8) :
    Utf8.encode (Document.textOf bs).toList = withLineFeeds bs := by
  rw [Document.textOf, String.toList_ofList, Text.unifyLineEnds, encode_unifyFrom,
    Utf8.encode_decodeLossy h]
  rfl

/-! ## The way to the linter -/

/-- What the linter reads when it is called on a text: the bytes of the text. -/
lemma stdin_listRequest (settings : Settings) (text : String) :
    (settings.listRequest text).execution.stdin = Utf8.encode text.toList :=
  rfl

/-- The text of a document that is read from the disk is that of the file at its path. -/
lemma Document.text_of_ofFile {d : Disk} {path : Path} {place : Place} {x : Bool}
    {languageId : String} {document : Document}
    (hread : ofFile d path languageId = .ok document)
    (hfile : d.locate document.path = .ok (place, .file bs x)) : document.text = textOf bs := by
  unfold ofFile at hread
  split at hread
  · cases hread
  · split at hread
    · cases hread
    · next hlocate =>
      cases hread
      cases hlocate.symm.trans hfile
      rfl
    · cases hread

namespace Session

/-- A file that is valid UTF-8 reaches the linter with line feeds for its line ends.  Along every
course of a session, each call on a text that is made for a document that was read from this file
has the linter read the bytes of the file with a line feed for each carriage return, alone or before
a line feed.  These are the bytes of the file if and only if it holds no carriage return. -/
theorem stdin_of_list_call (settings : Settings) (gate : Gate)
    (entries : List (String × List Diagnostic)) (runner : Runner) (ms : List Move) {disk : Disk}
    {path : Path} {place : Place} {bytes : List UInt8} {x : Bool} {languageId : String}
    {document : Document} (hread : Document.ofFile disk path languageId = .ok document)
    (hfile : disk.locate document.path = .ok (place, .file bytes x))
    (hvalid : bytes.toByteArray.IsValidUTF8) :
    let s₀ := opening settings disk gate entries runner
    let s := s₀.after ms
    ∀ (m : Move), ∀ c ∈ (s.make m).calls.drop s.calls.length, c.request.mode = .list →
      (c.task, document) ∈ s₀.gather requested? ms →
        c.request.execution.stdin = withLineFeeds bytes ∧
        (c.request.execution.stdin = bytes ↔ 13 ∉ bytes) := by
  intro s₀ s m c hc hmode hrequested
  have hbytes : c.request.execution.stdin = withLineFeeds bytes := by
    by_cases hwake : ∃ t w, m = .motion (.wake t w)
    · obtain ⟨t, w, rfl⟩ := hwake
      obtain ⟨document', g, hengaged, -, -, rfl, hrequest⟩ := judgement_of_list_call hc hmode
      obtain rfl := (lints_of_requested hrequested).document_of_engaged hengaged
      rw [hrequest, stdin_listRequest, Document.text_of_ofFile hread hfile,
        encode_textOf hvalid]
    · rw [calls_make_of_not_wake fun t w heq => hwake ⟨t, w, heq⟩, List.drop_length] at hc
      cases hc
  exact ⟨hbytes, hbytes ▸ withLineFeeds_eq_self_iff⟩

/-- A file with a letter of two bytes and a line feed reaches the linter unchanged. -/
theorem stdin_of_list_call_unchanged :
    let settings : Settings := { workingRoot := .ofNames ["proj"], timeout := none }
    let bytes : List UInt8 := [0xC3, 0xA9, 0x0A]
    let disk : Disk := {
      entries := [(["proj"], .directory), (["proj", "a.ex"], .file bytes false)]
      workingPlace := ["proj"] }
    let files : Output := {
      text := "\x7b\"config\": \x7b\"files\": [\"a.ex\"]\x7d\x7d", returnCode := 0 }
    let runner : Runner := fun _ _ => { held := false, answer := fun _ => .finished files }
    ∃ document, Document.ofFile disk (.ofText "a.ex") = .ok document ∧
      let s := (opening settings disk .manifest [] runner).after [.lint document]
      ∃ c ∈ (s.make (.motion (.wake 0 .start))).calls.drop s.calls.length,
        c.request.mode = .list ∧ c.request.execution.stdin = bytes := by
  intro settings bytes disk files runner
  have hfile : disk.locate (.ofNames ["proj", "a.ex"]) =
      .ok (["proj", "a.ex"], .file bytes false) := by decide +kernel
  have hvalid : bytes.toByteArray.IsValidUTF8 := ⟨['\u00e9', '\n'], by decide +kernel⟩
  let document : Document := {
    uri := Document.uriOf (.ofNames ["proj", "a.ex"])
    path := .ofNames ["proj", "a.ex"]
    languageId := "elixir"
    text := Document.textOf bytes }
  have hread : Document.ofFile disk (.ofText "a.ex") = .ok document := by decide +kernel
  refine ⟨document, hread, ?_⟩
  intro s
  let m : Move := .motion (.wake 0 .start)
  have hcalls : ((s.make m).calls.drop s.calls.length).map (fun c => (c.request.mode, c.task)) =
      [(.info, 0), (.list, 0)] := by
    decide +kernel
  have hmem : (Mode.list, 0) ∈
      ((s.make m).calls.drop s.calls.length).map (fun c => (c.request.mode, c.task)) := by
    rw [hcalls]
    decide
  obtain ⟨c, hc, hcall⟩ := List.mem_map.1 hmem
  obtain ⟨hmode, htask⟩ := Prod.mk.inj hcall
  have hrequested : (c.task, document) ∈
      (opening settings disk .manifest [] runner).gather requested? [.lint document] := by
    rw [htask]
    exact List.mem_singleton_self _
  obtain ⟨-, hsame⟩ := stdin_of_list_call settings .manifest [] runner [.lint document] hread hfile
    hvalid m c hc hmode hrequested
  exact ⟨c, hc, hmode, hsame.2 (by decide)⟩

/-- A file with a carriage return before its line feed reaches the linter without it. -/
theorem stdin_of_carriage_return :
    let settings : Settings := { workingRoot := .ofNames ["proj"], timeout := none }
    let bytes : List UInt8 := [0x61, 0x0D, 0x0A]
    let disk : Disk := {
      entries := [(["proj"], .directory), (["proj", "a.ex"], .file bytes false)]
      workingPlace := ["proj"] }
    let files : Output := {
      text := "\x7b\"config\": \x7b\"files\": [\"a.ex\"]\x7d\x7d", returnCode := 0 }
    let runner : Runner := fun _ _ => { held := false, answer := fun _ => .finished files }
    bytes.toByteArray.IsValidUTF8 ∧
    ∃ document, Document.ofFile disk (.ofText "a.ex") = .ok document ∧
      let s := (opening settings disk .manifest [] runner).after [.lint document]
      ∃ c ∈ (s.make (.motion (.wake 0 .start))).calls.drop s.calls.length,
        c.request.mode = .list ∧ c.request.execution.stdin = [0x61, 0x0A] ∧
          c.request.execution.stdin ≠ bytes := by
  intro settings bytes disk files runner
  let document : Document := {
    uri := Document.uriOf (.ofNames ["proj", "a.ex"])
    path := .ofNames ["proj", "a.ex"]
    languageId := "elixir"
    text := Document.textOf bytes }
  have hread : Document.ofFile disk (.ofText "a.ex") = .ok document := by decide +kernel
  refine ⟨⟨['a', '\r', '\n'], by decide +kernel⟩, document, hread, ?_⟩
  intro s
  have hcalls : ((s.make (.motion (.wake 0 .start))).calls.drop s.calls.length).map
      (fun c => (c.request.mode, c.request.execution.stdin)) =
        [(.info, []), (.list, [0x61, 0x0A])] := by
    decide +kernel
  have hmem : (Mode.list, [0x61, 0x0A]) ∈ ((s.make (.motion (.wake 0 .start))).calls.drop
      s.calls.length).map fun c => (c.request.mode, c.request.execution.stdin) := by
    rw [hcalls]
    decide
  obtain ⟨c, hc, hcall⟩ := List.mem_map.1 hmem
  obtain ⟨hmode, hstdin⟩ := Prod.mk.inj hcall
  exact ⟨c, hc, hmode, hstdin, hstdin ▸ by decide⟩

end Session

end LintRelay
