import LintRelay.Proofs.Disk.Journey

/-!
# Links that are overlooked

`Disk.resolve` finds no link at the end of a trail that is longer than a path can be
(`pass_beyond`), and takes the name for a plain one.  A path that gets there by way of a link to far
above can itself be short, and the disk follows every link on it.  So the canonical path that is
found may be that of another file than the one that the path leads to (`locate_climbs`,
`resolve_climbs`).
-/

namespace LintRelay.Disk

variable {d : Disk} {ups : Nat} {n : String} {names rest : List String} {t : Trail} {memo : Memo}
  {enter : Memo → Trail → List String → Journey}

/-! ## Behind many double dots -/

/-- The trail to names behind so many double dots. -/
def beyond (ups : Nat) (names : List String) : Trail :=
  ⟨false, List.replicate ups ".." ++ names⟩

lemma down_beyond (ups : Nat) (names : List String) (n : String) :
    (beyond ups names).down n = beyond ups (names ++ [n]) :=
  congrArg (Trail.mk false) (List.append_assoc _ _ _)

lemma up_beyond (ups : Nat) (names : List String) (hn : IsName n) :
    (beyond ups (names ++ [n])).up = beyond ups names := by
  rw [← down_beyond, up_down _ hn]

/-- If there are no names behind them, there is one pair of dots more above. -/
lemma up_beyond_nil (ups : Nat) : (beyond ups []).up = beyond (ups + 1) [] := by
  rw [up_replicate rfl (List.append_nil _), Trail.down, beyond, beyond, List.replicate_succ']
  simp

/-- Nothing is above the root. -/
lemma placeOf_beyond (hroot : d.workingPlace = []) (hnames : ∀ n ∈ names, IsName n) :
    d.placeOf (beyond ups names) = names := by
  have hups : lexical (List.replicate ups "..") = [] := by
    induction ups with
    | zero => rfl
    | succ ups ih => rw [List.replicate_succ', lexical_concat_up, ih, List.dropLast_nil]
  have hlaid : (beyond ups names).Laid := ⟨ups, names, rfl, hnames, nofun⟩
  rw [placeOf_eq (by simp [hroot]) hlaid, if_neg (by simp [beyond]), hroot, List.nil_append, beyond,
    lexical_append _ hnames, hups, List.nil_append]

/-- The bytes of double dots in front of names, each with a slash behind it. -/
lemma size_ups (ups : Nat) (hnames : names ≠ []) :
    ("/".intercalate (List.replicate ups ".." ++ names)).utf8ByteSize =
      3 * ups + ("/".intercalate names).utf8ByteSize := by
  have hdots : "..".utf8ByteSize = 2 := rfl
  have hslash : "/".utf8ByteSize = 1 := rfl
  induction ups with
  | zero => simp
  | succ ups ih =>
    rw [List.replicate_succ, List.cons_append,
      String.intercalate_cons_of_ne_nil (List.append_ne_nil_of_right_ne_nil _ hnames)]
    simp only [String.utf8ByteSize_append, ih, hdots, hslash]
    omega

/-- If there are many of them, the trail is too long for a path. -/
lemma long_beyond (hups : pathLimit ≤ 3 * ups) (hnames : ∀ m ∈ names, Path.isProperName m = true)
    (hsize : 0 < ("/".intercalate names).utf8ByteSize) :
    pathLimit < (beyond ups names).path.size := by
  have hsome : names ≠ [] := by
    rintro rfl
    exact absurd hsize (by decide)
  have hproper : Path.isProper ⟨.here, List.replicate ups ".." ++ names⟩ = true := by
    refine List.all_eq_true.2 (List.forall_mem_append.2 ⟨fun m hm => ?_, hnames⟩)
    rw [List.eq_of_mem_replicate hm]
    decide
  have htext : Path.text ⟨.here, List.replicate ups ".." ++ names⟩ =
      "/".intercalate (List.replicate ups ".." ++ names) := by
    unfold Path.text
    split
    · next heq => exact absurd heq (List.append_ne_nil_of_right_ne_nil _ hsome)
    · exact String.empty_append
  calc pathLimit ≤ 3 * ups := hups
    _ < 3 * ups + ("/".intercalate names).utf8ByteSize := Nat.lt_add_of_pos_right hsize
    _ = (beyond ups names).path.size := by
      rw [← size_ups ups hsome, ← htext]
      exact (Path.size_of_isProper hproper).symm

/-- No link is found there. -/
theorem pass_beyond (hups : pathLimit ≤ 3 * ups) (names : List String) (hn : IsName n)
    (hproper : ∀ m ∈ names ++ [n], Path.isProperName m = true)
    (hsize : 0 < ("/".intercalate (names ++ [n])).utf8ByteSize) :
    d.pass enter memo (beyond ups names) (n :: rest) =
      d.pass enter memo (beyond ups (names ++ [n])) rest := by
  rw [← down_beyond]
  refine pass_down hn ?_
  rw [down_beyond]
  exact if_pos (long_beyond hups hproper hsize)

/-! ## A link to far above -/

/-- The target of a link that goes up so many times. -/
def climb (ups : Nat) : String :=
  String.ofList (List.replicate ups ['.', '.', '/']).flatten

/-- Between its slashes there are double dots, and nothing is behind the last slash. -/
lemma segments_climb (ups : Nat) :
    Path.segments (climb ups).toList = List.replicate ups ['.', '.'] ++ [[]] := by
  rw [climb, String.toList_ofList]
  induction ups with
  | zero => rfl
  | succ ups ih => simp [List.replicate_succ, Path.segments, ih]

/-- The names that are gone along to resolve it. -/
lemma targetNames_climb (ups : Nat) :
    targetNames (climb ups) = List.replicate ups ".." ++ [""] := by
  rw [targetNames, segments_climb]
  simp

/-- It is counted from where the link stands. -/
lemma targetStart_climb (origin : Trail) (ups : Nat) : targetStart origin (climb ups) = origin := by
  have hslash : (climb ups).startsWith "/" = false := by
    cases ups <;> simp [climb, List.replicate_succ]
  exact if_neg (by simp [hslash])

/-- The path that the disk follows. -/
lemma ofText_climb (ups : Nat) :
    Path.ofText (climb ups) = ⟨.here, List.replicate ups ".."⟩ := by
  have hanchor : Path.anchorOf (climb ups).toList = .here := by
    rw [climb, String.toList_ofList]
    cases ups <;> rfl
  have hnames : Path.namesOf (Path.segments (climb ups).toList) = List.replicate ups ".." := by
    rw [segments_climb, Path.namesOf]
    simp
  exact congrArg₂ Path.mk hanchor hnames

/-- A walk from the root along double dots stays there. -/
lemma walk_ups (d : Disk) (ups : Nat) (names : List String) :
    d.walk true [] (List.replicate ups ".." ++ names) = d.walk true [] names := by
  induction ups with
  | zero => rfl
  | succ ups ih =>
    rw [List.replicate_succ, List.cons_append, walk, if_pos (by decide)]
    exact ih

/-- What happens at double dots. -/
lemma pass_up : d.pass enter memo t (".." :: names) = d.pass enter memo t.up names := by
  rw [pass, if_neg (by decide), if_pos (by decide)]

/-- A way along double dots goes up as many times. -/
lemma pass_ups (done ups : Nat) :
    d.pass enter memo (beyond done []) (List.replicate ups ".." ++ names) =
      d.pass enter memo (beyond (done + ups) []) names := by
  induction ups generalizing done with
  | zero => rfl
  | succ ups ih =>
    rw [List.replicate_succ, List.cons_append, pass_up, up_beyond_nil, ih, Nat.add_right_comm,
      Nat.add_assoc]

/-! ## A file that is taken for another one -/

/-- A disk with a link that goes up to the root, and one from a directory into another one. -/
def climbs (ups : Nat) : Disk where
  entries := [(["l"], .link (climb ups)), (["v"], .directory), (["v", "f"], .file [0x31] false),
    (["v", "k"], .link "../w/d"), (["w"], .directory), (["w", "d"], .directory),
    (["w", "f"], .file [0x32] false)]
  workingPlace := []

/-- The path through both links and up again. -/
def throughLinks : Path :=
  ⟨.here, ["l", "v", "k", "..", "f"]⟩

/-- It leads to the file in the other directory. -/
theorem locate_climbs (ups : Nat) :
    (climbs ups).locate throughLinks = .ok (["w", "f"], .file [0x32] false) := by
  have hclimb : (climbs ups).locate throughLinks =
      (climbs ups).locateFrom true [] (List.replicate ups ".." ++ ["v", "k", "..", "f"]) 39 := by
    have hwalk : (climbs ups).walk true [] throughLinks.names =
        .atLink [] (climb ups) ["v", "k", "..", "f"] := rfl
    have hlocate : (climbs ups).locate throughLinks =
        (climbs ups).locateFrom true [] throughLinks.names 40 := rfl
    rw [hlocate, locateFrom, hwalk]
    dsimp only
    rw [ofText_climb]
    rfl
  have hfrom (names : List String) :
      (climbs ups).locateFrom true [] (List.replicate ups ".." ++ names) 39 =
        (climbs ups).locateFrom true [] names 39 := by
    unfold locateFrom
    rw [walk_ups]
  rw [hclimb, hfrom]
  rfl

/-- If the first link goes up often enough, the second one is overlooked. -/
lemma pass_climbs (hups : pathLimit ≤ 3 * ups) :
    d.pass enter memo (beyond ups []) ["v", "k", "..", "f"] =
      .arrived memo (beyond ups ["v", "f"]) :=
  calc d.pass enter memo (beyond ups []) ["v", "k", "..", "f"]
      = d.pass enter memo (beyond ups ["v"]) ["k", "..", "f"] :=
        pass_beyond hups [] (by decide) (by decide) (by decide)
    _ = d.pass enter memo (beyond ups ["v", "k"]) ["..", "f"] :=
        pass_beyond hups ["v"] (by decide) (by decide) (by decide)
    _ = d.pass enter memo (beyond ups ["v"]) ["f"] := by
        have hup : (beyond ups ["v", "k"]).up = beyond ups ["v"] := up_beyond ups ["v"] (by decide)
        rw [pass_up, hup]
    _ = d.pass enter memo (beyond ups ["v", "f"]) [] :=
        pass_beyond hups ["v"] (by decide) (by decide) (by decide)
    _ = .arrived memo (beyond ups ["v", "f"]) := rfl

/-- Then the file in its own directory is found. -/
theorem resolve_climbs (hups : pathLimit ≤ 3 * ups) :
    (climbs ups).resolve throughLinks = .ok (.ofNames ["v", "f"]) := by
  have hlink : (climbs ups).linkAt? (Trail.down (beyond 0 []) "l") = some (climb ups) := rfl
  have htarget (memo : Memo) : (climbs ups).journey 969 memo (beyond 0 [])
      (targetNames (climb ups)) = .arrived memo (beyond ups []) := by
    change (climbs ups).pass ((climbs ups).journey 968) memo (beyond 0 []) _ = _
    rw [targetNames_climb, pass_ups, Nat.zero_add]
    rfl
  have hjourney : (climbs ups).journey 970 [] (beyond 0 []) throughLinks.names =
      .arrived [(Trail.down (beyond 0 []) "l", some (beyond ups [])),
        (Trail.down (beyond 0 []) "l", none)] (beyond ups ["v", "f"]) := by
    change (climbs ups).pass ((climbs ups).journey 969) [] (beyond 0 []) throughLinks.names = _
    rw [throughLinks, pass_link (by decide) hlink, List.lookup_nil, targetStart_climb, htarget]
    exact pass_climbs hups
  have hplace : (climbs ups).placeOf (beyond ups ["v", "f"]) = ["v", "f"] :=
    placeOf_beyond rfl (by decide)
  have hresolve : (climbs ups).resolve throughLinks =
      (climbs ups).settle (.ofNames ((climbs ups).placeOf (beyond ups ["v", "f"]))) := by
    unfold resolve
    rw [show (climbs ups).journey (climbs ups).depths.links [] ⟨throughLinks.isAbsolute, []⟩
      throughLinks.names = _ from hjourney]
  rw [hresolve, hplace]
  rfl

end LintRelay.Disk
