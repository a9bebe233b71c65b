import LintRelay.Proofs.Journal.Opening

/-!
# Where an event goes

An event that is reported to a journal is received by those outputs of the last configuration that
admit it (`LoggingConfig.Admits`): its level is not below that of the output, and not below the
level at which its reporter is heard at all.  Every such output writes one line, in its own format,
to the sink that it leads to, and nothing else is written anywhere (`Journal.content_report`).

This is so whatever was done with the journal before it was configured, and whatever has been
reported since (`Journal.outputs_receive`): all that is done with a journal keeps its disk tidy
(`Journal.tidy_after`), and a journal that serves a configuration serves it until it is configured
again (`Journal.Serves.after`).
-/

namespace LintRelay

open Disk

/-- The least level at which a reporter is heard. -/
def LoggingConfig.gate (c : LoggingConfig) : Reporter → Level
  | .program => c.level
  | .library name => if Journal.isTalkative name then .warning else c.level

/-- Whether an output admits the events of a reporter that have a level. -/
def LoggingConfig.Admits (c : LoggingConfig) (r : Reporter) (l : Level) (o : OutputConfig) :
    Prop :=
  (o.level.getD c.level).rank ≤ l.rank ∧ (c.gate r).rank ≤ l.rank

instance (c : LoggingConfig) (r : Reporter) (l : Level) : DecidablePred (c.Admits r l) := fun o =>
  inferInstanceAs (Decidable ((o.level.getD c.level).rank ≤ l.rank ∧ (c.gate r).rank ≤ l.rank))

namespace Journal

open Value (WriteError)

variable {j j' j'' : Journal} {c : LoggingConfig} {sinks : List Sink} {s t : Sink}
  {cs : List Channel} {r : Reporter} {l : Level} {e : Event}

/-! ## What has been written -/

/-- The bytes that are written for a line. -/
def bytesOf (line : String) : List UInt8 :=
  Utf8.encode (line ++ "\n").toList

/-- What has been written to a sink, with all that was in a file before. -/
def content (j : Journal) : Sink → List UInt8
  | .stderr => j.errors.flatMap bytesOf
  | .stdout => j.output.flatMap bytesOf
  | .file place =>
    match j.disk.entry? place with
    | some (.file bytes _) => bytes
    | _ => []

/-- Whether a sink can be written to. -/
def IsOpen (j : Journal) : Sink → Prop
  | .file place => j.disk.HasFile place
  | _ => True

/-- A sink that a destination leads to can be written to. -/
lemma isOpen_of_leadsTo {destination : Destination} (h : destination.LeadsTo j.disk s) :
    j.IsOpen s := by
  cases destination with
  | stderr | stdout =>
    rw [h]
    trivial
  | file p =>
    obtain ⟨place, rfl, hplace, -⟩ := h
    exact hplace

/-- Whether a journal goes on without being configured: its disk has grown or is the same, and its
level and its channels, what it can render and how it complains are as before. -/
structure Continues (j j' : Journal) : Prop where
  grows : j.disk.Grows j'.disk
  level : j'.level = j.level
  channels : j'.channels = j.channels
  depths : j'.disk.depths = j.disk.depths
  complaint : j'.complaint = j.complaint

lemma Continues.refl (j : Journal) : j.Continues j :=
  ⟨.refl j.disk, rfl, rfl, rfl, rfl⟩

lemma Continues.trans (h : j.Continues j') (h' : j'.Continues j'') : j.Continues j'' where
  grows := h.grows.trans h'.grows
  level := h'.level.trans h.level
  channels := h'.channels.trans h.channels
  depths := h'.depths.trans h.depths
  complaint := h'.complaint.trans h.complaint

/-- A journal goes on when a line is written. -/
lemma continues_write (j : Journal) (line : String) (s : Sink) :
    j.Continues (j.write line s) := by
  cases s with
  | stderr | stdout => exact ⟨.refl j.disk, rfl, rfl, rfl, rfl⟩
  | file place =>
    unfold write
    dsimp only
    split
    · next bytes x hentry => exact ⟨grows_write ⟨bytes, x, hentry⟩ _ x, rfl, rfl, rfl, rfl⟩
    · exact .refl j

/-- A sink that can be written to stays so. -/
lemma Continues.isOpen (h : j.Continues j') (hs : j.IsOpen s) : j'.IsOpen s := by
  cases s with
  | stderr | stdout => trivial
  | file place => exact h.grows.files place hs

/-- A line is written to the end of its sink, and no other sink changes. -/
lemma content_write (h : j.IsOpen s) (line : String) (t : Sink) :
    (j.write line s).content t = j.content t ++ if s = t then bytesOf line else [] := by
  cases s with
  | stderr =>
    cases t <;> simp [write, content]
  | stdout =>
    cases t <;> simp [write, content]
  | file place =>
    obtain ⟨bytes, x, hentry⟩ := h
    have hplace : place ≠ [] := HasFile.ne_nil ⟨bytes, x, hentry⟩
    have hwrite : j.write line (.file place) =
        { j with disk := j.disk.insert place (.file (bytes ++ bytesOf line) x) } := by
      unfold write
      dsimp only
      rw [hentry]
      rfl
    rw [hwrite]
    cases t with
    | stderr | stdout => simp [content]
    | file other =>
      by_cases hother : place = other
      · subst hother
        unfold content
        dsimp only
        rw [stands_insert_self hplace, hentry, if_pos rfl]
      · unfold content
        dsimp only
        rw [stands_insert_of_ne (Ne.symm hother), if_neg (by simpa using hother), List.append_nil]

/-! ## One record -/

/-- Whether a rendering is not nested too deeply. -/
def fits : Except WriteError String → Bool
  | .error .tooDeep => false
  | _ => true

/-- What an output that leads to one sink adds to another one: its line, if they are the same, or a
complaint about the record, which goes to the error stream. -/
def addedBy (complaint : String) (made : Except WriteError String) (s t : Sink) : List UInt8 :=
  match made with
  | .ok line => if s = t then bytesOf line else []
  | .error .refused => if t = .stderr then bytesOf complaint else []
  | .error .tooDeep => []

variable {record : List (String × Value)} {made : Except WriteError String}

/-- A journal goes on when a record is written to a sink. -/
lemma continues_deliver (j : Journal) (record : List (String × Value)) (s : Sink)
    (made : Except WriteError String) : j.Continues (j.deliver record s made).1 := by
  rcases made with (_ | _) | line
  · exact j.continues_write (j.complaint record) .stderr
  · exact .refl j
  · exact j.continues_write line s

/-- What is not nested too deeply is written, or complained about. -/
lemma content_deliver (h : j.IsOpen s) (record : List (String × Value))
    (made : Except WriteError String) (t : Sink) :
    (j.deliver record s made).1.content t =
      j.content t ++ addedBy (j.complaint record) made s t := by
  rcases made with (_ | _) | line
  · have hcomplaint := content_write (j := j) (s := .stderr) trivial (j.complaint record) t
    rwa [if_congr eq_comm rfl rfl] at hcomplaint
  · exact (List.append_nil _).symm
  · exact content_write h line t

/-- An output on the error stream adds nothing to any other sink. -/
lemma addedBy_stderr_of_ne (ht : t ≠ .stderr) (complaint : String) :
    addedBy complaint made .stderr t = [] := by
  rcases made with (_ | _) | _
  · exact if_neg ht
  · rfl
  · exact if_neg ht.symm

/-- Nothing else goes wrong. -/
lemma deliver_snd (j : Journal) (record : List (String × Value)) (s : Sink)
    (made : Except WriteError String) :
    (j.deliver record s made).2 = if fits made then none else some .tooDeep := by
  rcases made with (_ | _) | _ <;> rfl

/-- How a record is written to channels: to the first of them, and then to those behind it, unless
it is nested too deeply for the first one. -/
lemma writeAll_cons (j : Journal) (record : List (String × Value)) (ch : Channel)
    (cs : List Channel) :
    j.writeAll record (ch :: cs) =
      if fits (line j.disk.depths.shown record ch) then
        (j.deliver record ch.sink (line j.disk.depths.shown record ch)).1.writeAll record cs
      else (j, some .tooDeep) := by
  rw [writeAll]
  unfold deliver fits
  rcases line j.disk.depths.shown record ch with (_ | _) | _ <;> rfl

/-- A journal goes on when a record is written to channels. -/
lemma continues_writeAll (j : Journal) (record : List (String × Value)) (cs : List Channel) :
    j.Continues (j.writeAll record cs).1 := by
  induction cs generalizing j with
  | nil => exact .refl j
  | cons ch cs ih =>
    rw [writeAll_cons]
    split
    · exact (j.continues_deliver record ch.sink _).trans (ih _)
    · exact .refl j

/-- Each channel adds to its sink what it makes of the record, up to the first one for which the
record is nested too deeply. -/
lemma content_writeAll (record : List (String × Value)) (hcs : ∀ ch ∈ cs, j.IsOpen ch.sink)
    (t : Sink) :
    (j.writeAll record cs).1.content t = j.content t ++
      (cs.takeWhile fun ch => fits (line j.disk.depths.shown record ch)).flatMap fun ch =>
        addedBy (j.complaint record) (line j.disk.depths.shown record ch) ch.sink t := by
  induction cs generalizing j with
  | nil => exact (List.append_nil _).symm
  | cons ch cs ih =>
    obtain ⟨hch, hcs⟩ := List.forall_mem_cons.1 hcs
    rw [writeAll_cons]
    by_cases hfits : fits (line j.disk.depths.shown record ch) = true
    · set written := (j.deliver record ch.sink (line j.disk.depths.shown record ch)).1 with hwritten
      have hgoes : j.Continues written := j.continues_deliver record ch.sink _
      have hrest : ∀ ch' ∈ cs, written.IsOpen ch'.sink :=
        fun ch' hch' => hgoes.isOpen (hcs ch' hch')
      have hbehind := ih hrest
      rw [hgoes.depths, hgoes.complaint] at hbehind
      rw [if_pos hfits, List.takeWhile_cons_of_pos (by exact hfits), hbehind, hwritten,
        content_deliver hch, List.append_assoc, List.flatMap_cons]
    · rw [if_neg hfits, List.takeWhile_cons_of_neg (by exact hfits)]
      exact (List.append_nil _).symm

/-- It is written to all of them, or else that it is nested too deeply is told. -/
lemma writeAll_snd (j : Journal) (record : List (String × Value)) (cs : List Channel) :
    (j.writeAll record cs).2 =
      if ∀ ch ∈ cs, fits (line j.disk.depths.shown record ch) = true then none
      else some .tooDeep := by
  induction cs generalizing j with
  | nil => rfl
  | cons ch cs ih =>
    rw [writeAll_cons]
    by_cases hfits : fits (line j.disk.depths.shown record ch) = true
    · have hgoes := j.continues_deliver record ch.sink (line j.disk.depths.shown record ch)
      rw [if_pos hfits, ih, hgoes.depths]
      simp only [List.forall_mem_cons, hfits, true_and]
    · rw [if_neg hfits, if_neg fun h => hfits (h ch List.mem_cons_self)]

/-! ## One event -/

/-- Whether the program itself reports an event that it cannot report. -/
def Clashes (j : Journal) (r : Reporter) (e : Event) : Prop :=
  r = .program ∧ j.clashes e = true

instance (j : Journal) (r : Reporter) (e : Event) : Decidable (j.Clashes r e) :=
  inferInstanceAs (Decidable (r = .program ∧ j.clashes e = true))

/-- An event that cannot be reported changes nothing. -/
lemma report_of_clashes (h : j.Clashes r e) (clock : String) :
    j.report clock r e = (j, some .clash) := by
  obtain ⟨rfl, h⟩ := h
  exact if_pos (by simpa using h)

/-- Any other event is reported if its reporter is heard. -/
lemma report_of_not_clashes (h : ¬j.Clashes r e) (clock : String) :
    j.report clock r e =
      if !j.admits r e.level then (j, none)
      else if j.channels.isEmpty then
        if Level.warning.rank ≤ e.level.rank then
          j.deliver (j.told clock e) .stderr
            (bareLine j.disk.depths.shown r e (j.told clock e))
        else (j, none)
      else j.writeAll (j.told clock e)
        (j.channels.filter fun ch => ch.threshold.rank ≤ e.level.rank) :=
  if_neg (by simpa [Clashes] using h)

/-- A journal goes on when an event is reported. -/
lemma continues_report (j : Journal) (clock : String) (r : Reporter) (e : Event) :
    j.Continues (j.report clock r e).1 := by
  by_cases hclash : j.Clashes r e
  · rw [report_of_clashes hclash]
    exact .refl j
  · rw [report_of_not_clashes hclash]
    split
    · exact .refl j
    · split
      · split
        · exact j.continues_deliver _ _ _
        · exact .refl j
      · exact j.continues_writeAll _ _

namespace Serves

/-- A journal serves a configuration until it is configured again. -/
lemma continues (h : j.Serves c sinks) (hj : j.Continues j') : j'.Serves c sinks where
  tidy := hj.grows.tidy h.tidy
  level := hj.level.trans h.level
  leads := h.leads.imp fun _ _ hs => hs.mono hj.grows
  channels := hj.channels.trans h.channels

/-- The channels are those of the outputs, each with the sink that it leads to. -/
lemma channels_eq_map (h : j.Serves c sinks) :
    j.channels = (c.outputs.zip sinks).map fun p => p.1.channel c.level p.2 := by
  rw [h.channels, ← List.map_uncurry_zip_eq_zipWith]
  rfl

/-- There is none if and only if the configuration has no output. -/
lemma channels_eq_nil_iff (h : j.Serves c sinks) : j.channels = [] ↔ c.outputs = [] := by
  have hlength : c.outputs.length = sinks.length := h.leads.length_eq
  rw [h.channels_eq_map, List.map_eq_nil_iff, List.zip_eq_nil_iff]
  refine ⟨fun hnil => hnil.elim id fun hsinks => ?_, .inl⟩
  rwa [hsinks, List.length_nil, List.length_eq_zero_iff] at hlength

/-- All of them can be written to. -/
lemma isOpen (h : j.Serves c sinks) : ∀ ch ∈ j.channels, j.IsOpen ch.sink := by
  intro ch hch
  rw [h.channels_eq_map] at hch
  obtain ⟨⟨o, s⟩, hmem, rfl⟩ := List.mem_map.1 hch
  have hs : o.destination.LeadsTo j.disk s := List.forall₂_zip h.leads hmem
  exact isOpen_of_leadsTo hs

/-- An event is not dropped at once if and only if its reporter is heard at its level. -/
lemma admits_iff (h : j.Serves c sinks) :
    j.admits r l = true ↔ (c.gate r).rank ≤ l.rank := by
  unfold admits
  rw [h.level]
  cases r with
  | program => exact decide_eq_true_iff
  | library name =>
    unfold LoggingConfig.gate
    dsimp only
    split <;> exact decide_eq_true_iff

/-- An event of a reporter that is heard at its level is not dropped. -/
lemma not_dropped (h : j.Serves c sinks) (hgate : (c.gate r).rank ≤ l.rank) :
    ¬(!j.admits r l) = true := by
  rw [h.admits_iff.2 hgate]
  exact Bool.false_ne_true

/-- An event of a reporter that is not heard at its level changes nothing. -/
lemma report_of_not_heard (h : j.Serves c sinks) (clock : String) (hclash : ¬j.Clashes r e)
    (hgate : ¬(c.gate r).rank ≤ e.level.rank) : j.report clock r e = (j, none) := by
  have hdropped : (!j.admits r e.level) = true := by
    rw [Bool.not_eq_true', ← Bool.not_eq_true, h.admits_iff]
    exact hgate
  rw [report_of_not_clashes hclash, if_pos hdropped]

/-- If the reporter is heard and there is an output, the event is written to the channels whose
threshold it reaches. -/
lemma report_of_heard (h : j.Serves c sinks) (clock : String) (hclash : ¬j.Clashes r e)
    (hc : c.outputs ≠ []) (hgate : (c.gate r).rank ≤ e.level.rank) :
    j.report clock r e = j.writeAll (j.told clock e)
      (j.channels.filter fun ch => ch.threshold.rank ≤ e.level.rank) := by
  have hchannels : ¬j.channels.isEmpty = true := by
    rwa [List.isEmpty_iff, h.channels_eq_nil_iff]
  rw [report_of_not_clashes hclash, if_neg (h.not_dropped hgate), if_neg hchannels]

/-- If there is no output, warnings and worse are shown on the error stream. -/
lemma report_of_no_output (h : j.Serves c sinks) (clock : String) (hclash : ¬j.Clashes r e)
    (hc : c.outputs = []) (hgate : (c.gate r).rank ≤ e.level.rank) :
    j.report clock r e = if Level.warning.rank ≤ e.level.rank then
      j.deliver (j.told clock e) .stderr (bareLine j.disk.depths.shown r e (j.told clock e))
      else (j, none) := by
  have hchannels : j.channels.isEmpty = true := by
    rw [List.isEmpty_iff, h.channels_eq_nil_iff]
    exact hc
  rw [report_of_not_clashes hclash, if_neg (h.not_dropped hgate), if_pos hchannels]

end Serves

/-- The outputs that admit an event, with the sinks that they lead to. -/
def admitting (c : LoggingConfig) (sinks : List Sink) (r : Reporter) (l : Level) :
    List (OutputConfig × Sink) :=
  (c.outputs.zip sinks).filter fun p => c.Admits r l p.1

/-- What an output of a configuration that leads to a sink makes of a record. -/
def rendered (depth : Nat) (c : LoggingConfig) (record : List (String × Value))
    (p : OutputConfig × Sink) : Except WriteError String :=
  line depth record (p.1.channel c.level p.2)

/-- If the reporter is heard, the channels whose threshold an event reaches are those of the outputs
that admit it. -/
lemma Serves.channels_filter_eq (h : j.Serves c sinks) (hgate : (c.gate r).rank ≤ l.rank) :
    (j.channels.filter fun ch => ch.threshold.rank ≤ l.rank) =
      (admitting c sinks r l).map fun p => p.1.channel c.level p.2 := by
  rw [h.channels_eq_map, List.filter_map, admitting]
  congr 1
  exact List.filter_congr fun p _ => decide_eq_decide.2 (and_iff_left hgate).symm

/-- If the reporter is not heard, no output admits the event. -/
lemma admitting_eq_nil_of_not_heard (hgate : ¬(c.gate r).rank ≤ l.rank) :
    admitting c sinks r l = [] := by
  rw [admitting, List.filter_eq_nil_iff]
  exact fun p _ hp => hgate (of_decide_eq_true hp).2

/-- Without outputs, none admits the event. -/
lemma admitting_eq_nil_of_no_output (hc : c.outputs = []) : admitting c sinks r l = [] := by
  rw [admitting, hc]
  rfl

/-- Where there is an output, an event is received by exactly those outputs that admit it, up to the
first one for which it is nested too deeply.  Without outputs it adds nothing, except to the error
stream. -/
theorem content_report (h : j.Serves c sinks) (clock : String) (hclash : ¬j.Clashes r e)
    (ht : c.outputs ≠ [] ∨ t ≠ .stderr) :
    let made := rendered j.disk.depths.shown c (j.told clock e)
    (j.report clock r e).1.content t = j.content t ++
      ((admitting c sinks r e.level).takeWhile fun p => fits (made p)).flatMap fun p =>
        addedBy (j.complaint (j.told clock e)) (made p) p.2 t := by
  intro made
  by_cases hgate : (c.gate r).rank ≤ e.level.rank
  · by_cases hc : c.outputs = []
    · have hother : t ≠ .stderr := ht.resolve_left (not_not_intro hc)
      rw [h.report_of_no_output clock hclash hc hgate, admitting_eq_nil_of_no_output hc,
        List.takeWhile_nil, List.flatMap_nil, List.append_nil]
      split
      · rw [content_deliver (s := .stderr) trivial, addedBy_stderr_of_ne hother, List.append_nil]
      · rfl
    · have hopen : ∀ ch ∈ j.channels.filter fun ch => ch.threshold.rank ≤ e.level.rank,
          j.IsOpen ch.sink := fun ch hch => h.isOpen ch (List.mem_of_mem_filter hch)
      rw [h.report_of_heard clock hclash hc hgate, content_writeAll _ hopen,
        h.channels_filter_eq hgate, List.takeWhile_map, List.flatMap_map]
      rfl
  · rw [h.report_of_not_heard clock hclash hgate, admitting_eq_nil_of_not_heard hgate,
      List.takeWhile_nil, List.flatMap_nil, List.append_nil]

/-- If there is an output, nothing goes wrong unless the event is nested too deeply for an output
that admits it. -/
theorem report_snd (h : j.Serves c sinks) (clock : String) (hclash : ¬j.Clashes r e)
    (hc : c.outputs ≠ []) :
    (j.report clock r e).2 =
      if ∀ p ∈ admitting c sinks r e.level,
        fits (rendered j.disk.depths.shown c (j.told clock e) p) = true then none
      else some .tooDeep := by
  by_cases hgate : (c.gate r).rank ≤ e.level.rank
  · rw [h.report_of_heard clock hclash hc hgate, writeAll_snd, h.channels_filter_eq hgate]
    simp only [List.forall_mem_map]
    rfl
  · rw [h.report_of_not_heard clock hclash hgate, admitting_eq_nil_of_not_heard hgate,
      if_pos (List.forall_mem_nil _)]

/-- Without outputs, an event is shown bare on the error stream if it is a warning or worse and its
reporter is heard. -/
theorem report_of_no_output (h : j.Serves c sinks) (clock : String) (hclash : ¬j.Clashes r e)
    (hc : c.outputs = []) :
    let shown := (c.gate r).rank ≤ e.level.rank ∧ Level.warning.rank ≤ e.level.rank
    let bare := bareLine j.disk.depths.shown r e (j.told clock e)
    ((j.report clock r e).1.content .stderr = j.content .stderr ++
      if shown then addedBy (j.complaint (j.told clock e)) bare .stderr .stderr else []) ∧
    (j.report clock r e).2 = if shown ∧ ¬fits bare = true then some .tooDeep else none := by
  intro shown bare
  by_cases hshown : shown
  · obtain ⟨hgate, hwarning⟩ := id hshown
    have hreport : j.report clock r e = j.deliver (j.told clock e) .stderr bare := by
      rw [h.report_of_no_output clock hclash hc hgate, if_pos hwarning]
    rw [hreport, content_deliver (s := .stderr) trivial, deliver_snd, if_pos hshown]
    have hfits : (if fits bare = true then none else some ReportError.tooDeep) =
        if shown ∧ ¬fits bare = true then some .tooDeep else none := by
      simp only [hshown, true_and, ite_not]
    exact ⟨rfl, hfits⟩
  · have hreport : j.report clock r e = (j, none) := by
      by_cases hgate : (c.gate r).rank ≤ e.level.rank
      · rw [h.report_of_no_output clock hclash hc hgate,
          if_neg fun hwarning => hshown ⟨hgate, hwarning⟩]
      · exact h.report_of_not_heard clock hclash hgate
    rw [hreport, if_neg hshown, if_neg fun hboth => hshown hboth.1, List.append_nil]
    exact ⟨rfl, rfl⟩

/-! ## All that is done with a journal -/

/-- What can be done with a journal. -/
inductive Move where
  | configure (c : LoggingConfig)
  | report (clock : String) (r : Reporter) (e : Event)
  /-- The events to come are marked. -/
  | mark (fresh id : String)
  | unmark

/-- The journal after a move. -/
def make (j : Journal) : Move → Journal
  | .configure c => (j.configure c).1
  | .report clock r e => (j.report clock r e).1
  | .mark fresh id => j.setLintId fresh id
  | .unmark => j.clearLintId

/-- The journal after moves. -/
def after (j : Journal) (ms : List Move) : Journal :=
  ms.foldl make j

/-- Whether all outputs of a configuration that is put in force have sound destinations. -/
def Move.Sound : Move → Prop
  | .configure c => ∀ o ∈ c.outputs, o.destination.Sound
  | _ => True

/-- Whether a move leaves the configuration in force. -/
def Move.Leaves : Move → Prop
  | .configure _ => False
  | _ => True

variable {m : Move} {ms : List Move}

/-- A journal goes on with every move that leaves the configuration in force. -/
lemma continues_make (j : Journal) (hm : m.Leaves) : j.Continues (j.make m) := by
  cases m with
  | configure c => exact hm.elim
  | report clock r e => exact j.continues_report clock r e
  | mark fresh id => exact ⟨.refl j.disk, rfl, rfl, rfl, rfl⟩
  | unmark => exact ⟨.refl j.disk, rfl, rfl, rfl, rfl⟩

/-- Its disk stays tidy with every move. -/
lemma tidy_make (hd : j.disk.Tidy) (hm : m.Sound) : (j.make m).disk.Tidy := by
  have hleaves : m.Leaves → (j.make m).disk.Tidy :=
    fun hm => (j.continues_make hm).grows.tidy hd
  cases m with
  | configure c => exact (grows_configure hd hm).tidy hd
  | report | mark | unmark => exact hleaves trivial

/-- So it is after all moves. -/
theorem tidy_after (hd : j.disk.Tidy) (hms : ∀ m ∈ ms, m.Sound) : (j.after ms).disk.Tidy := by
  induction ms generalizing j with
  | nil => exact hd
  | cons m ms ih =>
    obtain ⟨hm, hms⟩ := List.forall_mem_cons.1 hms
    exact ih (tidy_make hd hm) hms

/-- A journal serves a configuration as long as it is left in force. -/
theorem Serves.after (h : j.Serves c sinks) (hms : ∀ m ∈ ms, m.Leaves) :
    (j.after ms).Serves c sinks := by
  induction ms generalizing j with
  | nil => exact h
  | cons m ms ih =>
    obtain ⟨hm, hms⟩ := List.forall_mem_cons.1 hms
    exact ih (h.continues (j.continues_make hm)) hms

/-- Whatever has been done with a journal: once it has been configured without an error, an event is
received by each output that admits it, which adds exactly one line to the sink that it leads to, in
its own format, or a complaint to the error stream where the event cannot be written; and nothing
else is written anywhere.  An event that is nested too deeply for an output gets neither to that
output nor to those behind it, and one with a field that clashes with the event itself changes
nothing; both are told.  If the configuration has no output, warnings and worse are shown on the
error stream. -/
theorem outputs_receive {d : Disk} {complaint : List (String × Value) → String}
    {past later : List Move} (hd : d.Tidy) (hpast : ∀ m ∈ past, m.Sound)
    (hc : ∀ o ∈ c.outputs, o.destination.Sound)
    (hconfigured : ((({ disk := d, complaint } : Journal).after past).configure c).2 = none)
    (hlater : ∀ m ∈ later, m.Leaves) :
    let j := ((({ disk := d, complaint } : Journal).after past).configure c).1.after later
    ∃ sinks, List.Forall₂ (fun o s => o.destination.LeadsTo j.disk s) c.outputs sinks ∧
      ∀ clock r e,
        let reported := j.report clock r e
        let record := j.told clock e
        let depth := j.disk.depths.shown
        (j.Clashes r e → reported = (j, some .clash)) ∧
        (¬j.Clashes r e →
          (∀ s, c.outputs ≠ [] ∨ s ≠ .stderr →
            reported.1.content s = j.content s ++
              ((admitting c sinks r e.level).takeWhile fun p =>
                fits (rendered depth c record p)).flatMap fun p =>
                  addedBy (j.complaint record) (rendered depth c record p) p.2 s) ∧
          (c.outputs ≠ [] → reported.2 =
            if ∀ p ∈ admitting c sinks r e.level, fits (rendered depth c record p) = true then none
            else some .tooDeep) ∧
          (c.outputs = [] →
            let shown := (c.gate r).rank ≤ e.level.rank ∧ Level.warning.rank ≤ e.level.rank
            let bare := bareLine depth r e record
            (reported.1.content .stderr = j.content .stderr ++
              if shown then addedBy (j.complaint record) bare .stderr .stderr else []) ∧
            reported.2 = if shown ∧ ¬fits bare = true then some .tooDeep else none)) := by
  intro j
  obtain ⟨sinks, hserves⟩ := serves_configure (tidy_after hd hpast) hc hconfigured
  have hj : j.Serves c sinks := hserves.after hlater
  refine ⟨sinks, hj.leads, fun clock r e => ⟨fun hclash => ?_, fun hclash => ⟨fun s hs => ?_,
    fun hsome => ?_, fun hnone => ?_⟩⟩⟩
  · exact report_of_clashes hclash clock
  · exact content_report hj clock hclash hs
  · exact report_snd hj clock hclash hsome
  · exact report_of_no_output hj clock hclash hnone

/-- A journal that wrote to one file is configured anew: what is informative goes to the new file
only, not to the old one and not to the error stream, which has a level of its own. -/
theorem outputs_receive_reconfigured :
    let d : Disk := { entries := [], workingPlace := [] }
    let old : OutputConfig := { destination := .file (.ofNames ["old"]) }
    let new : OutputConfig := {
      destination := .file (.ofNames ["new"]), level := some .debug, format := .json }
    let c : LoggingConfig := { outputs := [new, { level := some .error }] }
    let past : List Move := [.configure { outputs := [old] }]
    let later : List Move := [.mark "" "lint"]
    let j := ((({ disk := d } : Journal).after past).configure c).1.after later
    let e : Event := { name := "linted", level := .info, fields := [] }
    let j' := (j.report "now" .program e).1
    let text := "\x7b\"event\": \"linted\", \"level\": \"info\", " ++
      "\"timestamp\": \"now\", \"lint_id\": \"lint\"\x7d"
    ((({ disk := d } : Journal).after past).configure c).2 = none ∧
      j'.content (.file ["new"]) =
        j.content (.file ["new"]) ++ bytesOf text ∧
      j'.content (.file ["old"]) = j.content (.file ["old"]) ∧
      j'.content .stderr = j.content .stderr := by
  intro d old new c past later j e j' text
  have hd : d.Tidy := by
    refine ⟨⟨nofun, nofun, rfl⟩, fun p target hlink => ?_⟩
    cases mem_entries_of_link? hlink
  have hsound : ∀ name : String, Path.PlainName name →
      (Destination.file (.ofNames [name])).Sound := by
    intro name hname
    refine ⟨rfl, fun n hn => ?_⟩
    obtain rfl : n = name := List.mem_singleton.1 hn
    exact hname
  have hpast : ∀ m ∈ past, m.Sound := by
    intro m hm
    obtain rfl : m = _ := List.mem_singleton.1 hm
    intro o ho
    obtain rfl : o = old := List.mem_singleton.1 ho
    exact hsound "old" ⟨by decide, by decide, by decide⟩
  have hc : ∀ o ∈ c.outputs, o.destination.Sound := by
    refine List.forall_mem_cons.2 ⟨hsound "new" ⟨by decide, by decide, by decide⟩, ?_⟩
    exact List.forall_mem_cons.2 ⟨trivial, nofun⟩
  have hconfigured : ((({ disk := d } : Journal).after past).configure c).2 = none := by decide
  have hlater : ∀ m ∈ later, m.Leaves := by
    intro m hm
    obtain rfl : m = _ := List.mem_singleton.1 hm
    trivial
  obtain ⟨sinks, hleads, hreceive⟩ := outputs_receive hd hpast hc hconfigured hlater
  -- The sinks of the outputs are the new file and the error stream.
  have hfile : new.destination.LeadsTo j.disk (.file ["new"]) :=
    ⟨["new"], rfl, ⟨[], false, by decide⟩, 0, .down (by decide) (by decide) .stop⟩
  obtain ⟨s, rest, hfirst, hrest, rfl⟩ := List.forall₂_cons_left_iff.1 hleads
  obtain ⟨t, tail, hsecond, htail, rfl⟩ := List.forall₂_cons_left_iff.1 hrest
  obtain rfl : s = .file ["new"] := hfirst.unique hfile
  obtain rfl : t = .stderr := hsecond
  obtain rfl : tail = [] := List.forall₂_nil_left_iff.1 htail
  have houtputs : c.outputs ≠ [] := List.cons_ne_nil _ _
  have hclash : ¬j.Clashes .program e := by decide
  have hreceived := fun s => ((hreceive "now" .program e).2 hclash).1 s (.inl houtputs)
  have hadmitting : admitting c [.file ["new"], .stderr] .program e.level =
      [(new, .file ["new"])] := by decide
  have hrendered : rendered j.disk.depths.shown c (j.told "now" e) (new, .file ["new"]) =
      .ok text := by decide +kernel
  have hadded : ∀ s, j'.content s = j.content s ++
      if Sink.file ["new"] = s then bytesOf text else [] := by
    intro s
    rw [hreceived, hadmitting, List.takeWhile_cons_of_pos (by rw [hrendered]; rfl),
      List.takeWhile_nil, List.flatMap_singleton, hrendered]
    rfl
  refine ⟨hconfigured, ?_, ?_, ?_⟩
  · rw [hadded, if_pos rfl]
  · rw [hadded, if_neg (by decide), List.append_nil]
  · rw [hadded, if_neg (by decide), List.append_nil]

/-- That its level is not below that of an output does not make an event be received.  An output of
its own level stays without what is below the level of the whole configuration, and without what
the talkative library reports below warnings. -/
theorem unheard_at_own_level :
    let e (l : Level) : Event := { name := "told", level := l, fields := [] }
    let o : OutputConfig := { destination := .stderr, level := some .debug }
    let quiet : LoggingConfig := { level := .info, outputs := [o] }
    let loud : LoggingConfig := { level := .debug, outputs := [o] }
    let configured (c : LoggingConfig) : Journal × Option OpenError :=
      configure { disk := { entries := [], workingPlace := [] } } c
    ((configured quiet).2 = none ∧ (o.level.getD quiet.level).rank ≤ Level.debug.rank ∧
      ((configured quiet).1.report "now" .program (e .debug)).1.content .stderr =
        (configured quiet).1.content .stderr) ∧
    ((configured loud).2 = none ∧ (o.level.getD loud.level).rank ≤ Level.info.rank ∧
      ((configured loud).1.report "now" (.library "asyncio") (e .info)).1.content .stderr =
        (configured loud).1.content .stderr) := by
  decide

end Journal

end LintRelay
