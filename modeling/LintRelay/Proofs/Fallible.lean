import Mathlib.Data.List.Forall2
import Mathlib.Tactic.Lemma

/-!
# Steps that may fail

What has to have come of each step where all of them have succeeded.
-/

namespace LintRelay

/-- What comes of two steps comes of the second, from what has come of the first. -/
lemma exists_of_bind_eq_ok {α β ε : Type} {x : Except ε α} {f : α → Except ε β} {b : β}
    (h : x >>= f = .ok b) : ∃ a, x = .ok a ∧ f a = .ok b := by
  cases x with
  | error e => cases h
  | ok a => exact ⟨a, rfl, h⟩

/-- Two steps succeed if and only if the first one does, and the second one with what has come of
it. -/
lemma exists_bind_eq_ok_iff {α β ε : Type} {x : Except ε α} {f : α → Except ε β} :
    (∃ b, x >>= f = .ok b) ↔ ∃ a, x = .ok a ∧ ∃ b, f a = .ok b := by
  constructor
  · rintro ⟨b, hb⟩
    obtain ⟨a, ha, hb⟩ := exists_of_bind_eq_ok hb
    exact ⟨a, ha, b, hb⟩
  · rintro ⟨a, rfl, hb⟩
    exact hb

/-- Two steps the second of which always succeeds do so if and only if the first one does. -/
lemma exists_bind_eq_ok_iff_left {α β ε : Type} {x : Except ε α} {f : α → Except ε β}
    (hf : ∀ a, ∃ b, f a = .ok b) : (∃ b, x >>= f = .ok b) ↔ ∃ a, x = .ok a :=
  exists_bind_eq_ok_iff.trans (exists_congr fun a => and_iff_left (hf a))

/-- What has come of a step whose outcome is changed comes of the step. -/
lemma exists_of_map_eq_ok {α β ε : Type} {x : Except ε α} {f : α → β} {b : β}
    (h : x.map f = .ok b) : ∃ a, x = .ok a ∧ f a = b := by
  cases x with
  | error e => cases h
  | ok a =>
    cases h
    exact ⟨a, rfl, rfl⟩

/-- What is taken from a list of arguments, one by one, and does not fail, comes from these
arguments. -/
lemma exists_of_mem_mapM {α β ε : Type} {f : α → Except ε β} {xs : List α} {ys : List β}
    (h : xs.mapM f = .ok ys) {y : β} (hy : y ∈ ys) : ∃ x ∈ xs, f x = .ok y := by
  induction xs generalizing ys with
  | nil =>
    cases h
    cases hy
  | cons x xs ih =>
    rw [List.mapM_cons] at h
    obtain ⟨y', hx, h⟩ := exists_of_bind_eq_ok h
    obtain ⟨ys', hxs, h⟩ := exists_of_bind_eq_ok h
    cases h
    rcases List.mem_cons.1 hy with rfl | hy
    · exact ⟨x, List.mem_cons_self, hx⟩
    · obtain ⟨x', hx', hfx'⟩ := ih hxs hy
      exact ⟨x', List.mem_cons_of_mem x hx', hfx'⟩

/-- The steps of a loop that succeed one by one succeed together. -/
lemma forM_eq_ok_iff {α ε : Type} {f : α → Except ε Unit} {xs : List α} :
    xs.forM f = .ok () ↔ ∀ x ∈ xs, f x = .ok () := by
  induction xs with
  | nil => exact iff_of_true rfl nofun
  | cons x xs ih =>
    have hcons : (x :: xs).forM f = f x >>= fun _ => xs.forM f := rfl
    rw [hcons, List.forall_mem_cons, ← ih]
    constructor
    · intro h
      obtain ⟨⟨⟩, hx, hxs⟩ := exists_of_bind_eq_ok h
      exact ⟨hx, hxs⟩
    · rintro ⟨hx, hxs⟩
      rw [hx]
      exact hxs

/-- What is taken from a list of arguments, one by one, and does not fail, is taken from each. -/
lemma mapM_eq_ok_iff {α β ε : Type} {f : α → Except ε β} {xs : List α} {ys : List β} :
    xs.mapM f = .ok ys ↔ List.Forall₂ (fun x y => f x = .ok y) xs ys := by
  induction xs generalizing ys with
  | nil =>
    rw [List.forall₂_nil_left_iff]
    constructor
    · intro h
      cases h
      rfl
    · rintro rfl
      rfl
  | cons x xs ih =>
    rw [List.mapM_cons, List.forall₂_cons_left_iff]
    constructor
    · intro h
      obtain ⟨y, hx, h⟩ := exists_of_bind_eq_ok h
      obtain ⟨ys', hxs, h⟩ := exists_of_bind_eq_ok h
      cases h
      exact ⟨y, ys', hx, ih.1 hxs, rfl⟩
    · rintro ⟨y, ys', hx, hxs, rfl⟩
      rw [hx, ih.2 hxs]
      rfl

/-- What there is for each thing in a list makes up a list for all of them. -/
lemma exists_forall₂ {α β : Type} {R : α → β → Prop} {xs : List α} (h : ∀ x ∈ xs, ∃ y, R x y) :
    ∃ ys, List.Forall₂ R xs ys := by
  induction xs with
  | nil => exact ⟨[], .nil⟩
  | cons x xs ih =>
    rw [List.forall_mem_cons] at h
    obtain ⟨⟨y, hy⟩, hxs⟩ := h
    obtain ⟨ys, hys⟩ := ih hxs
    exact ⟨y :: ys, .cons hy hys⟩

/-- Each thing in the first of two lists that are related thing by thing is related to one in the
second. -/
lemma exists_of_mem_forall₂ {α β : Type} {R : α → β → Prop} {xs : List α} {ys : List β}
    (h : List.Forall₂ R xs ys) {x : α} (hx : x ∈ xs) : ∃ y ∈ ys, R x y := by
  induction h with
  | nil => cases hx
  | cons hxy _ ih =>
    rcases List.mem_cons.1 hx with rfl | hx
    · exact ⟨_, List.mem_cons_self, hxy⟩
    · obtain ⟨y, hy, hR⟩ := ih hx
      exact ⟨y, List.mem_cons_of_mem _ hy, hR⟩

/-- Taking something from each of a list of arguments succeeds if and only if it does for each. -/
lemma exists_mapM_eq_ok_iff {α β ε : Type} {f : α → Except ε β} {xs : List α} :
    (∃ ys, xs.mapM f = .ok ys) ↔ ∀ x ∈ xs, ∃ y, f x = .ok y := by
  induction xs with
  | nil => exact iff_of_true ⟨[], rfl⟩ nofun
  | cons x xs ih =>
    rw [List.mapM_cons, exists_bind_eq_ok_iff, List.forall_mem_cons, ← ih]
    constructor
    · rintro ⟨y, hx, hxs⟩
      obtain ⟨ys, hys, -⟩ := exists_bind_eq_ok_iff.1 hxs
      exact ⟨⟨y, hx⟩, ys, hys⟩
    · rintro ⟨⟨y, hx⟩, ys, hys⟩
      exact ⟨y, hx, exists_bind_eq_ok_iff.2 ⟨ys, hys, _, rfl⟩⟩

/-- What can be read as an option with a value has come to one. -/
lemma exists_of_toOption {α ε : Type} {x : Except ε α} {a : α} (h : x.toOption = some a) :
    x = .ok a := by
  cases x with
  | error e => cases h
  | ok b =>
    cases h
    rfl

end LintRelay
