import LintRelay.Proofs.Disk.Trails
import Mathlib.Data.Nat.Find

/-!
# The way to a canonical path

`Disk.resolve` goes along the names of a path and keeps a memo of the links that it has met.  It
gets to where the names are followed (`journey_of_follows`), for these reasons: a link in the memo
whose end is known is followed there (`Trusted.settled`); and a link whose target is still being
gone through is not met again, since its target is followed to its end through fewer links within
one another than the link itself (`Trusted.unsettled`).  So a path that can be followed through
links that lie no deeper within one another than the program can go (`Disk.Passable`) has a
canonical path, which is the place where its names lead (`Follows.resolve`).

Deeper than that, it may have none, even if the links do not lead back to themselves
(`resolve_stair`).
-/

namespace LintRelay

namespace Disk

variable {d : Disk} {k depth : Nat} {p : Place} {n target : String} {names : List String}
  {s t t' there : Trail} {memo : Memo}

/-! ## What the memo holds -/

/-- The target of the link at the trail `there` is followed to `s`, through links that lie at most
so deep within one another. -/
def TargetFollows (d : Disk) (k : Nat) (there s : Trail) : Prop :=
  ∃ t n target, there = t.down n ∧ d.link? (d.placeOf there) = some target ∧
    d.Follows k (targetStart t target) (targetNames target) s

/-- A trail ends in one name only. -/
lemma down_inj {m : String} (h : t.down n = t'.down m) : t = t' ∧ n = m := by
  obtain ⟨absolute, ns⟩ := t
  obtain ⟨absolute', ms⟩ := t'
  simp only [Trail.down, Trail.mk.injEq] at h
  obtain ⟨rfl, hnames⟩ := h
  obtain ⟨rfl, hlast⟩ := List.append_inj' hnames rfl
  exact ⟨rfl, List.singleton_inj.1 hlast⟩

/-- Where the target of a link behind the trail `t` is followed. -/
lemma targetFollows_iff (hlink : d.link? (d.placeOf (t.down n)) = some target) :
    d.TargetFollows k (t.down n) s ↔
      d.Follows k (targetStart t target) (targetNames target) s := by
  constructor
  · rintro ⟨t', n', target', hdown, hlink', h⟩
    cases hlink.symm.trans hlink'
    exact (down_inj hdown).1 ▸ h
  · exact fun h => ⟨t, n, target, rfl, hlink, h⟩

/-- The target of a link is followed to one trail only. -/
lemma TargetFollows.unique {k' : Nat} (h : d.TargetFollows k there s)
    (h' : d.TargetFollows k' there t) : s = t := by
  obtain ⟨t, n, target, rfl, hlink, hs⟩ := h
  exact hs.unique ((targetFollows_iff hlink).1 h')

/-- There is a least depth at which it is followed there. -/
lemma TargetFollows.exists_least (h : d.TargetFollows k there s) :
    ∃ j ≤ k, d.TargetFollows j there s ∧ ∀ i < j, ∀ s', ¬d.TargetFollows i there s' := by
  classical
  have hsome : ∃ j, ∃ s', d.TargetFollows j there s' := ⟨k, s, h⟩
  obtain ⟨s', hs'⟩ := Nat.find_spec hsome
  refine ⟨Nat.find hsome, Nat.find_min' hsome ⟨s, h⟩, hs'.unique h ▸ hs', fun i hi s' hleads => ?_⟩
  exact Nat.find_min hsome hi ⟨s', hleads⟩

/-- What a memo holds on the way through links that lie at most so deep within one another. -/
structure Trusted (d : Disk) (k : Nat) (memo : Memo) : Prop where
  /-- Each link whose end is known is followed there. -/
  settled : ∀ there s, memo.lookup there = some (some s) → ∃ j, d.TargetFollows j there s
  /-- No link whose end is not known is followed anywhere through fewer links. -/
  unsettled : ∀ there, memo.lookup there = some none →
    ∀ j < k, ∀ s, ¬d.TargetFollows j there s

/-- A way gets along names from the trail `t` to the trail `t'`, with each memo that can be trusted.
No link is left without an end that had one or was not in the memo. -/
def Arrives (d : Disk) (k : Nat) (way : Memo → Trail → List String → Journey) (t : Trail)
    (names : List String) (t' : Trail) : Prop :=
  ∀ memo, d.Trusted k memo → ∃ memo', way memo t names = .arrived memo' t' ∧ d.Trusted k memo' ∧
    ∀ there, memo'.lookup there = some none → memo.lookup there = some none

/-- The memo can be trusted while the target of a link is gone through, if the link was not in the
memo and its target is not followed anywhere through fewer links. -/
lemma Trusted.open (hmemo : d.Trusted k memo) {j : Nat} (hj : j ≤ k)
    (hleast : ∀ i < j, ∀ s, ¬d.TargetFollows i there s) :
    d.Trusted j ((there, none) :: memo) where
  settled there' s hs := by
    rw [List.lookup_cons] at hs
    split at hs
    · cases hs
    · exact hmemo.settled there' s hs
  unsettled there' hnone i hi s := by
    rw [List.lookup_cons] at hnone
    split at hnone
    · next heq => exact eq_of_beq heq ▸ hleast i hi s
    · exact hmemo.unsettled there' hnone i (hi.trans_le hj) s

/-- And it can be trusted when the end of this link is known. -/
lemma Trusted.settle {memo' : Memo} {j : Nat} (hmemo : d.Trusted k memo)
    (hmemo' : d.Trusted j memo') (hfollows : d.TargetFollows j there s)
    (hopen : ∀ x, memo'.lookup x = some none →
      ((there, none) :: memo : Memo).lookup x = some none) :
    d.Trusted k ((there, some s) :: memo') ∧
      ∀ x, ((there, some s) :: memo' : Memo).lookup x = some none → memo.lookup x = some none := by
  have hsub : ∀ x, ((there, some s) :: memo' : Memo).lookup x = some none →
      memo.lookup x = some none := by
    intro x hx
    rw [List.lookup_cons] at hx
    split at hx
    · cases hx
    · next hne =>
      have hx := hopen x hx
      rw [List.lookup_cons, hne] at hx
      exact hx
  refine ⟨⟨?_, fun x hx => hmemo.unsettled x (hsub x hx)⟩, hsub⟩
  intro x s' hx
  rw [List.lookup_cons] at hx
  split at hx
  · next heq =>
    cases hx
    cases eq_of_beq heq
    exact ⟨j, hfollows⟩
  · exact hmemo'.settled x s' hx

/-! ## Going along the names -/

/-- The link that is found behind a trail is the one that stands there, if the way to it can be
written down. -/
lemma linkAt?_down (hcwd : ∀ n ∈ d.workingPlace, IsName n) (ht : t.Laid) (hn : IsName n) :
    d.linkAt? (t.down n) =
      if pathLimit < (t.down n).path.size then none else d.link? (d.placeOf (t.down n)) := by
  have hplace : (d.placeOf (t.down n)).map Path.nameOnDisk = d.placeOf (t.down n) :=
    Path.map_nameOnDisk fun m hm => noHalf_of_mem_placeOf hcwd (laid_down hcwd ht hn).1 hm
  exact congrArg (fun place => if pathLimit < (t.down n).path.size then none else d.link? place)
    hplace

/-- What happens at a name where no link is found. -/
lemma pass_down {enter : Memo → Trail → List String → Journey} (hn : IsName n)
    (hlink : d.linkAt? (t.down n) = none) :
    d.pass enter memo t (n :: names) = d.pass enter memo (t.down n) names := by
  rw [pass, if_neg (by simp [hn.nonempty, hn.notDot]), if_neg (by simp [hn.ne_up])]
  dsimp only
  rw [hlink, Path.nameFlaw?_of_isProperName hn.proper]

/-- What happens at a name where a link is found. -/
lemma pass_link {enter : Memo → Trail → List String → Journey} (hn : IsName n)
    (hlink : d.linkAt? (t.down n) = some target) :
    d.pass enter memo t (n :: names) =
      match memo.lookup (t.down n) with
      | some (some settled) => d.pass enter memo settled names
      | some none => .looped (Path.joinSegments (t.down n).segments names)
      | none =>
        match enter ((t.down n, none) :: memo) (targetStart t target) (targetNames target) with
        | .arrived memo' settled => d.pass enter ((t.down n, some settled) :: memo') settled names
        | .looped segments => .looped (Path.joinSegments segments names)
        | .refused e => .refused e := by
  have hflaw : Path.nameFlaw? n = none := Path.nameFlaw?_of_isProperName hn.proper
  rw [pass, if_neg (by simp [hn.nonempty, hn.notDot]), if_neg (by simp [hn.ne_up])]
  dsimp only
  rewrite [hlink, hflaw]
  rfl

/-- A way along names gets to where they are followed if the ways into the targets of links do. -/
lemma pass_of_follows (hcwd : ∀ n ∈ d.workingPlace, IsName n)
    {enter : Memo → Trail → List String → Journey} (h : d.Follows k t names t') (ht : t.Laid)
    (henter : ∀ j < k, ∀ t names t', d.Follows j t names t' → t.Laid →
      d.Arrives j enter t names t') :
    d.Arrives k (d.pass enter) t names t' := by
  induction h with
  | stop => exact fun memo hmemo => ⟨memo, rfl, hmemo, fun _ => id⟩
  | stay hn _ ih =>
    intro memo hmemo
    obtain ⟨memo', hway, harrives⟩ := ih ht henter memo hmemo
    refine ⟨memo', ?_, harrives⟩
    rcases hn with rfl | rfl <;> exact hway
  | up _ ih => exact ih (laid_up hcwd ht).1 henter
  | @down k t n names t' hn hlink _ ih =>
    intro memo hmemo
    obtain ⟨memo', hway, harrives⟩ := ih (laid_down hcwd ht hn).1 henter memo hmemo
    have hnone : d.linkAt? (t.down n) = none := by
      rw [linkAt?_down hcwd ht hn, hlink, ite_self]
    exact ⟨memo', (pass_down hn hnone).trans hway, harrives⟩
  | @follow k t n target s names t' hn hlink hshort htarget _ _ ih =>
    intro memo hmemo
    have hfound : d.linkAt? (t.down n) = some target := by
      rw [linkAt?_down hcwd ht hn, if_neg (Nat.not_lt.2 hshort), hlink]
    have hends : d.TargetFollows k (t.down n) s := (targetFollows_iff hlink).2 htarget
    have hstart : (targetStart t target).Laid := (laid_targetStart (d := d) ht target).1
    have hs : s.Laid := (htarget.leads hcwd hstart).1
    rw [pass_link hn hfound]
    cases hlookup : memo.lookup (t.down n) with
    | some settled =>
      cases settled with
      | none => exact absurd hends (hmemo.unsettled _ hlookup k k.lt_succ_self s)
      | some s' =>
        obtain ⟨j, hsettled⟩ := hmemo.settled _ s' hlookup
        obtain rfl : s' = s := hsettled.unique hends
        exact ih hs henter memo hmemo
    | none =>
      -- The target is gone through as if at the least depth at which it is followed anywhere.
      obtain ⟨j, hj, hleast, hnone⟩ := hends.exists_least
      have hopen := hmemo.open (hj.trans k.le_succ) hnone
      obtain ⟨memo', hway, hmemo', hsub⟩ := henter j (Nat.lt_succ_of_le hj) _ _ s
        ((targetFollows_iff hlink).1 hleast) hstart _ hopen
      obtain ⟨hsettled, hsub⟩ := hmemo.settle hmemo' hleast hsub
      obtain ⟨memo'', hrest, hmemo'', hsub'⟩ := ih hs henter _ hsettled
      refine ⟨memo'', ?_, hmemo'', fun there hthere => hsub there (hsub' there hthere)⟩
      rw [hway]
      exact hrest

/-- With links that lie no deeper within one another than can be gone through, the way along names
gets to where they are followed. -/
theorem journey_of_follows (hcwd : ∀ n ∈ d.workingPlace, IsName n) (h : d.Follows k t names t')
    (ht : t.Laid) (hk : k ≤ depth) : d.Arrives k (d.journey depth) t names t' := by
  induction depth generalizing k t names t' with
  | zero => exact pass_of_follows hcwd h ht fun j hj => absurd (hj.trans_le hk) j.not_lt_zero
  | succ depth ih =>
    exact pass_of_follows hcwd h ht fun j hj t names t' htarget ht =>
      ih htarget ht (Nat.le_of_lt_succ (hj.trans_le hk))

/-! ## The canonical path -/

/-- All names on the way to a place without links are proper. -/
lemma Clear.isProper (h : d.Clear p) : (Path.ofNames p).isProper = true :=
  List.all_eq_true.2 fun n hn => (h.names n hn).proper

/-- A walk along names without links does not end at a link, and does not fail because of one. -/
lemma Clear.walk (follow : Bool) (place : List String) (h : d.Clear (place.reverse ++ names)) :
    (∃ q e, d.walk follow place names = .arrived q e) ∨
      ∃ e, e ≠ .tooManyLinks ∧ d.walk follow place names = .failed e := by
  fun_induction Disk.walk d follow place names with
  | case1 place => exact .inl ⟨_, _, rfl⟩
  | case2 place name rest hup ih =>
    have hname : IsName name := h.names name (by simp)
    exact absurd (beq_iff_eq.1 hup) hname.ne_up
  | case3 place name rest => exact .inr ⟨.nameTooLong, nofun, rfl⟩
  | case4 place name rest => exact .inr ⟨.missing, nofun, rfl⟩
  | case5 place name rest _ _ hentry ih => exact ih (by simpa using h)
  | case6 place name rest _ _ target hentry => exact .inl ⟨_, _, rfl⟩
  | case7 place name rest _ _ target hentry =>
    have hnone : d.link? (place.reverse ++ [name]) = none :=
      h.links _ ⟨rest, by simp⟩
    rw [link?, hentry] at hnone
    cases hnone
  | case8 place name rest _ _ e => exact .inl ⟨_, _, rfl⟩
  | case9 place name rest _ _ e => exact .inr ⟨.notDirectory, nofun, rfl⟩

/-- The way to a place without links is not refused because of links. -/
lemma Clear.locate_ne (h : d.Clear p) : d.locate (.ofNames p) ≠ .error .tooManyLinks := by
  unfold locate
  rw [Path.onDisk_of_isProper h.isProper]
  split
  · nofun
  · change d.locateFrom true [] p linkLimit ≠ _
    unfold linkLimit locateFrom
    rcases h.walk true [] with ⟨q, e, hwalk⟩ | ⟨e, he, hwalk⟩
    · rw [hwalk]
      nofun
    · rw [hwalk]
      exact fun herror => he (Except.error.inj herror)

/-- The path to a place without links is canonical. -/
lemma Clear.settle (h : d.Clear p) : d.settle (.ofNames p) = .ok (.ofNames p) := by
  unfold Disk.settle
  rw [Path.flaw?_of_isProper h.isProper]
  split
  · next hflaw => cases hflaw
  · next _ herror => exact absurd herror h.locate_ne
  · rfl

/-- No link is on the way to the place from which a path is counted. -/
lemma clear_base (hcwd : d.Clear d.workingPlace) (path : Path) : d.Clear (d.base path) := by
  unfold base
  split
  · exact d.clear_nil
  · exact hcwd

/-- The canonical path of a path that can be followed is the place where its names lead. -/
theorem Follows.resolve {path : Path} (hcwd : d.Clear d.workingPlace)
    (h : d.Follows k path.start path.names t) (hk : k ≤ d.depths.links) :
    d.resolve path = .ok (.ofNames (d.placeOf t)) ∧
      d.Leads k (d.base path) path.names (d.placeOf t) := by
  obtain ⟨memo, hway, -⟩ :=
    journey_of_follows hcwd.names h (laid_start path) hk [] ⟨nofun, nofun⟩
  have hleads := (h.leads hcwd.names (laid_start path)).2
  rw [placeOf_start] at hleads
  refine ⟨?_, hleads⟩
  unfold Disk.resolve
  rw [show (⟨path.isAbsolute, []⟩ : Trail) = path.start from rfl, hway]
  exact (hleads.clear (clear_base hcwd path)).settle

/-! ## Links that lie too deep -/

/-- The name of a stair: one letter, another one for each stair. -/
def stair (i : Nat) : String :=
  String.ofList [Char.ofNat (0x4E00 + i)]

/-- What stands at a stair: at the lowest one a file, and at each other one a link to the next. -/
def stairEntry : Nat → Entry
  | 0 => .file [] false
  | i + 1 => .link (stair i)

/-- A disk with nothing but stairs. -/
def stairs (top : Nat) : Disk where
  entries := (List.range (top + 1)).map fun i => ([stair i], stairEntry i)
  workingPlace := []

variable {i j top : Nat}

/-- The number of the letter of a stair. -/
lemma toNat_stair (hi : i < 0x5000) : (Char.ofNat (0x4E00 + i)).toNat = 0x4E00 + i := by
  have hvalid : (0x4E00 + i).isValidChar := .inl (by omega)
  rw [Char.ofNat, dif_pos hvalid]
  rfl

/-- Different stairs have different names. -/
lemma stair_inj (hi : i < 0x5000) (hj : j < 0x5000) : stair i = stair j ↔ i = j := by
  refine ⟨fun h => ?_, congrArg stair⟩
  have hletter := congrArg Char.toNat (List.singleton_inj.1 (String.ofList_injective h))
  rw [toNat_stair hi, toNat_stair hj] at hletter
  exact Nat.add_left_cancel hletter

/-- The letter of a stair has a high number. -/
lemma stair_letter_ne (hi : i < 0x5000) {c : Char} (hc : c.toNat < 0x4E00) :
    Char.ofNat (0x4E00 + i) ≠ c := by
  rintro rfl
  rw [toNat_stair hi] at hc
  omega

/-- A stair can stand on a disk. -/
lemma isName_stair (hi : i < 0x5000) : IsName (stair i) := by
  have hdot := stair_letter_ne hi (c := '.') (by decide)
  have hslash := stair_letter_ne hi (c := '/') (by decide)
  have hnul := stair_letter_ne hi (c := '\x00') (by decide)
  refine ⟨?_, ?_, ?_, Path.isProperName_iff.2 ⟨?_, ?_⟩⟩
  all_goals simp [stair, ← String.toList_inj, hdot, hslash.symm, hnul.symm]

/-- A stair as the target of a link: one name, in the directory of the link. -/
lemma target_stair (hi : i < 0x5000) (t : Trail) :
    targetStart t (stair i) = t ∧ targetPlace p (stair i) = p ∧
      targetNames (stair i) = [stair i] := by
  have hslash := stair_letter_ne hi (c := '/') (by decide)
  have hstart : (stair i).startsWith "/" = false := by simp [stair, hslash.symm]
  refine ⟨if_neg (by simp [hstart]), if_neg (by simp [hstart]), ?_⟩
  simp [targetNames, stair, Path.segments, hslash]

/-- What is found at a stair. -/
lemma entry?_stair (hi : i ≤ top) (htop : top < 0x5000) :
    Disk.entry? (stairs top) [stair i] = some (stairEntry i) := by
  have hfound : ∀ is : List Nat, (∀ j ∈ is, j ≤ top) → i ∈ is →
      (is.map fun j => ([stair j], stairEntry j)).lookup [stair i] = some (stairEntry i) := by
    intro is his hmem
    induction is with
    | nil => cases hmem
    | cons j is ih =>
      obtain ⟨hj, his⟩ := List.forall_mem_cons.1 his
      rw [List.map_cons, List.lookup_cons]
      by_cases hji : i = j
      · rw [hji, beq_self_eq_true]
      · have hne : ([stair i] == [stair j]) = false := by
          simpa [stair_inj (hi.trans_lt htop) (hj.trans_lt htop)] using hji
        rw [hne]
        exact ih his ((List.mem_cons.1 hmem).resolve_left hji)
  exact hfound _ (fun j hj => Nat.le_of_lt_succ (List.mem_range.1 hj))
    (List.mem_range.2 (Nat.lt_succ_of_le hi))

/-- Each stair but the lowest one is a link to the next. -/
lemma link?_stair (hi : i < top) (htop : top < 0x5000) :
    (stairs top).link? [stair (i + 1)] = some (stair i) := by
  rw [link?, entry?_stair hi htop, stairEntry]

/-- The lowest stair is no link. -/
lemma link?_stair_zero (htop : top < 0x5000) : (stairs top).link? [stair 0] = none := by
  rw [link?, entry?_stair (Nat.zero_le top) htop, stairEntry]

/-- All stairs lead to the lowest one. -/
lemma leads_stair (hi : i ≤ top) (htop : top < 0x5000) :
    (stairs top).Leads i [] [stair i] [stair 0] := by
  induction i with
  | zero => exact .down (isName_stair (by omega)) (link?_stair_zero htop) .stop
  | succ i ih =>
    obtain ⟨-, hplace, hnames⟩ := target_stair (p := []) (i := i) (by omega) ⟨true, []⟩
    refine .follow (isName_stair (by omega)) (link?_stair hi htop) ?_ .stop
    rw [hplace, hnames]
    exact ih (Nat.le_of_succ_le hi)

/-- The link at a stair is found: the way to it is short. -/
lemma linkAt?_stair (hi : i < top) (htop : top < 0x5000) :
    (stairs top).linkAt? (Trail.down ⟨true, []⟩ (stair (i + 1))) = some (stair i) := by
  have hname : IsName (stair (i + 1)) := isName_stair (by omega)
  have hlaid : Trail.Laid ⟨true, []⟩ := laid_start (.ofNames [])
  have hcwd : ∀ n ∈ (stairs top).workingPlace, IsName n := List.forall_mem_nil _
  have hproper : (Path.ofNames [stair (i + 1)]).isProper = true :=
    List.all_eq_true.2 (List.forall_mem_singleton.2 hname.proper)
  have hshort : (Path.ofNames [stair (i + 1)]).size ≤ pathLimit := by
    have hletter := Char.utf8Size_le_four (Char.ofNat (0x4E00 + (i + 1)))
    have hroot : "/".utf8ByteSize = 1 := rfl
    rw [Path.size_of_isProper hproper]
    simp only [Path.text, Path.ofNames, Anchor.text, stair, pathLimit, String.intercalate_singleton,
      String.utf8ByteSize_append, String.ofList_cons, String.ofList_nil, String.append_empty,
      String.utf8ByteSize_singleton]
    omega
  rw [linkAt?_down hcwd hlaid hname]
  exact (if_neg (Nat.not_lt.2 hshort)).trans (link?_stair hi htop)

/-- The way from a stair goes on to the next one, and is refused if the way from there is. -/
lemma pass_stair {enter : Memo → Trail → List String → Journey} (hi : i < top)
    (htop : top < 0x5000) (hmemo : memo.lookup ⟨true, [stair (i + 1)]⟩ = none)
    (henter : enter ((⟨true, [stair (i + 1)]⟩, none) :: memo) ⟨true, []⟩ [stair i] =
      .refused .endless) :
    (stairs top).pass enter memo ⟨true, []⟩ [stair (i + 1)] = .refused .endless := by
  obtain ⟨hstart, -, hnames⟩ := target_stair (p := []) (i := i) (by omega) ⟨true, []⟩
  rw [pass_link (isName_stair (by omega)) (linkAt?_stair hi htop), hstart, hnames]
  have hthere : Trail.down ⟨true, []⟩ (stair (i + 1)) = ⟨true, [stair (i + 1)]⟩ := rfl
  rw [hthere, hmemo, henter]

/-- The way from a stair that is too high is refused. -/
lemma journey_stair (hdepth : depth ≤ i) (hi : i < top) (htop : top < 0x5000)
    (hmemo : ∀ j ≤ i + 1, memo.lookup ⟨true, [stair j]⟩ = none) :
    (stairs top).journey depth memo ⟨true, []⟩ [stair (i + 1)] = .refused .endless := by
  induction depth generalizing i memo with
  | zero => exact pass_stair hi htop (hmemo (i + 1) le_rfl) rfl
  | succ depth ih =>
    obtain ⟨i, rfl⟩ := Nat.exists_eq_add_of_le' (Nat.le_of_add_left_le hdepth)
    refine pass_stair hi htop (hmemo (i + 2) le_rfl) (ih (by omega) (by omega) fun j hj => ?_)
    have hne : ((⟨true, [stair j]⟩ : Trail) == ⟨true, [stair (i + 2)]⟩) = false := by
      have hname : stair j ≠ stair (i + 2) := by
        rw [Ne, stair_inj (by omega) (by omega)]
        omega
      simpa using hname
    rw [List.lookup_cons, hne]
    exact hmemo j (hj.trans (i + 1).le_succ)

/-- A stair that is too high has no canonical path, even though all stairs lead to the lowest one.
-/
theorem resolve_stair (hlimit : (stairs top).depths.links ≤ i) (hi : i < top)
    (htop : top < 0x5000) :
    (stairs top).resolve (.ofNames [stair (i + 1)]) = .error .endless := by
  have hjourney : (stairs top).journey (stairs top).depths.links []
      ⟨(Path.ofNames [stair (i + 1)]).isAbsolute, []⟩ (Path.ofNames [stair (i + 1)]).names =
        .refused .endless :=
    journey_stair hlimit hi htop fun _ _ => rfl
  unfold resolve
  rw [hjourney]

end Disk

end LintRelay
