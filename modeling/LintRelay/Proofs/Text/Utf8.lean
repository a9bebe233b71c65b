import LintRelay.Text.Utf8
import Mathlib.Logic.Function.Basic
import Mathlib.Tactic.Lemma

/-!
# UTF-8 read back

The bytes of a text are read as this text, whatever has been read before (`foldl_step_encode`).  So
no two texts have the same bytes (`encode_injective`), and bytes that are valid UTF-8 are not
changed by being read as a text and written again (`encode_decodeLossy`).
-/

namespace LintRelay.Utf8

open Decoder (step)

variable {p : Pending} {b n v : Nat}

/-! ## Single bytes -/

/-- A small number is the number of its byte. -/
lemma toNat_byte (h : b < 256) : (UInt8.ofNat b).toNat = b :=
  Nat.mod_eq_of_lt h

/-- A byte below 128 is a character of its own. -/
lemma step_ascii (done : List (Option Char)) (h : b < 0x80) :
    step ⟨done, none⟩ (UInt8.ofNat b) = ⟨some (Char.ofNat b) :: done, none⟩ := by
  have hb : b < 256 := by omega
  simp only [step, Decoder.begin, toNat_byte hb, if_pos h]

/-- The first one of several bytes opens a character. -/
lemma step_lead (done : List (Option Char)) (hb : 0x80 ≤ b) (hb' : b < 256)
    (hp : lead? b = some p) : step ⟨done, none⟩ (UInt8.ofNat b) = ⟨done, some p⟩ := by
  simp only [step, Decoder.begin, toNat_byte hb', if_neg (Nat.not_lt.2 hb), hp]

/-- A byte with six bits that is admitted goes on with a character that lacks more than it. -/
lemma step_tail (done : List (Option Char)) (hlow : p.low ≤ v % 64 + 128)
    (hhigh : v % 64 + 128 ≤ p.high) (hmissing : p.missing = n + 2) :
    step ⟨done, some p⟩ (UInt8.ofNat (v % 64 + 128)) =
      ⟨done, some ⟨p.bits * 64 + v % 64, n + 1, 0x80, 0xBF⟩⟩ := by
  have hb : v % 64 + 128 < 256 := by omega
  simp only [step, toNat_byte hb]
  simp [hlow, hhigh, hmissing]

/-- It ends a character that lacks nothing else. -/
lemma step_last (done : List (Option Char)) (bits v : Nat) :
    step ⟨done, some ⟨bits, 1, 0x80, 0xBF⟩⟩ (UInt8.ofNat (v % 64 + 128)) =
      ⟨some (Char.ofNat (bits * 64 + v % 64)) :: done, none⟩ := by
  have hb : v % 64 + 128 < 256 := by omega
  have hhigh : v % 64 + 128 ≤ 0xBF := by omega
  simp only [step, toNat_byte hb]
  simp [hhigh]

/-! ## First bytes -/

/-- The first of two bytes. -/
lemma lead?_two (hlow : 0x80 ≤ v) (hhigh : v < 0x800) :
    lead? (v / 64 % 32 + 192) = some ⟨v / 64, 1, 0x80, 0xBF⟩ := by
  have hbits : v / 64 % 32 + 192 - 0xC0 = v / 64 := by omega
  simp only [lead?, Bool.and_eq_true, decide_eq_true_eq]
  rw [if_pos (by omega), hbits]

/-- The first of three bytes admits the second one: neither a longer spelling of a shorter character
nor a surrogate is opened. -/
lemma exists_lead?_three (hlow : 0x800 ≤ v) (hhigh : v < 0x10000)
    (hvalid : v < 0xD800 ∨ 0xDFFF < v) : ∃ p, lead? (v / 4096 % 16 + 224) = some p ∧
      p.bits = v / 4096 ∧ p.missing = 2 ∧ p.low ≤ v / 64 % 64 + 128 ∧
      v / 64 % 64 + 128 ≤ p.high := by
  simp only [lead?, Bool.and_eq_true, decide_eq_true_eq, beq_iff_eq]
  rw [if_neg (by omega)]
  by_cases hzero : v / 4096 = 0
  · rw [if_pos (by omega)]
    exact ⟨_, rfl, by dsimp only; omega⟩
  · rw [if_neg (by omega)]
    by_cases hlast : v / 4096 = 13
    · rw [if_pos (by omega)]
      exact ⟨_, rfl, by dsimp only; omega⟩
    · rw [if_neg (by omega), if_pos (by omega)]
      exact ⟨_, rfl, by dsimp only; omega⟩

/-- So does the first of four bytes: nothing behind the last character is opened. -/
lemma exists_lead?_four (hlow : 0x10000 ≤ v) (hhigh : v < 0x110000) :
    ∃ p, lead? (v / 262144 % 8 + 240) = some p ∧
      p.bits = v / 262144 ∧ p.missing = 3 ∧ p.low ≤ v / 4096 % 64 + 128 ∧
      v / 4096 % 64 + 128 ≤ p.high := by
  simp only [lead?, Bool.and_eq_true, decide_eq_true_eq, beq_iff_eq]
  rw [if_neg (by omega), if_neg (by omega), if_neg (by omega), if_neg (by omega)]
  by_cases hzero : v / 262144 = 0
  · rw [if_pos (by omega)]
    exact ⟨_, rfl, by dsimp only; omega⟩
  · rw [if_neg (by omega)]
    by_cases hlast : v / 262144 = 4
    · rw [if_neg (by omega), if_pos (by omega)]
      exact ⟨_, rfl, by dsimp only; omega⟩
    · rw [if_pos (by omega)]
      exact ⟨_, rfl, by dsimp only; omega⟩

/-! ## Characters and texts -/

/-- The bytes of a character are read as this character. -/
lemma foldl_step_encodeChar (done : List (Option Char)) (c : Char) :
    (String.utf8EncodeChar c).foldl step ⟨done, none⟩ = ⟨some c :: done, none⟩ := by
  have hvalid : c.val.toNat < 0xD800 ∨ 0xDFFF < c.val.toNat ∧ c.val.toNat < 0x110000 := c.valid
  have hc : Char.ofNat c.val.toNat = c := Char.ofNat_toNat c
  unfold String.utf8EncodeChar
  generalize c.val.toNat = v at hvalid hc
  dsimp only
  -- One case for each number of bytes.
  split
  · rw [List.foldl_cons, List.foldl_nil, step_ascii done (by omega), hc]
  split
  · have hlead := step_lead done (by omega) (by omega) (lead?_two (v := v) (by omega) (by omega))
    have hbits : v / 64 * 64 + v % 64 = v := by omega
    rw [List.foldl_cons, hlead, List.foldl_cons, List.foldl_nil, step_last, hbits, hc]
  split
  · obtain ⟨p, hp, hfirst, hmissing, hlow, hhigh⟩ :=
      exists_lead?_three (v := v) (by omega) (by omega) (by omega)
    have hlead := step_lead done (by omega) (by omega) hp
    have hbits : (v / 4096 * 64 + v / 64 % 64) * 64 + v % 64 = v := by omega
    rw [List.foldl_cons, hlead, List.foldl_cons, step_tail done hlow hhigh hmissing,
      List.foldl_cons, List.foldl_nil, step_last, hfirst, hbits, hc]
  · obtain ⟨p, hp, hfirst, hmissing, hlow, hhigh⟩ :=
      exists_lead?_four (v := v) (by omega) (by omega)
    have hlead := step_lead done (by omega) (by omega) hp
    have hthird (bits : Nat) : step ⟨done, some ⟨bits, 2, 0x80, 0xBF⟩⟩
        (UInt8.ofNat (v / 64 % 64 + 128)) =
          ⟨done, some ⟨bits * 64 + v / 64 % 64, 1, 0x80, 0xBF⟩⟩ :=
      step_tail done (Nat.le_add_left _ _) (by dsimp only; omega) rfl
    have hbits : ((v / 262144 * 64 + v / 4096 % 64) * 64 + v / 64 % 64) * 64 + v % 64 = v := by
      omega
    rw [List.foldl_cons, hlead, List.foldl_cons, step_tail done hlow hhigh hmissing,
      List.foldl_cons, hthird, List.foldl_cons, List.foldl_nil, step_last, hfirst, hbits, hc]

/-- A byte below 128 is found only in the character that it stands for. -/
lemma eq_of_mem_utf8EncodeChar {byte : UInt8} {c : Char} (h : byte ∈ String.utf8EncodeChar c)
    (hbyte : byte.toNat < 0x80) : c = Char.ofNat byte.toNat := by
  have hc : Char.ofNat c.val.toNat = c := Char.ofNat_toNat c
  have hvalid : c.val.toNat < 0xD800 ∨ 0xDFFF < c.val.toNat ∧ c.val.toNat < 0x110000 := c.valid
  rw [← hc]
  congr 1
  unfold String.utf8EncodeChar at h
  generalize c.val.toNat = v at h hvalid
  dsimp only at h
  -- All bytes of a character with several of them are higher.
  have hhigh : ∀ w, 0x80 ≤ w → w < 256 → byte ≠ UInt8.ofNat w := by
    rintro w hlow hw rfl
    rw [toNat_byte hw] at hbyte
    omega
  split at h
  · obtain rfl := List.mem_singleton.1 h
    exact (toNat_byte (by omega)).symm
  split at h
  · simp only [List.mem_cons, List.not_mem_nil, or_false] at h
    rcases h with h | h <;> exact absurd h (hhigh _ (by omega) (by omega))
  split at h
  · simp only [List.mem_cons, List.not_mem_nil, or_false] at h
    rcases h with h | h | h <;> exact absurd h (hhigh _ (by omega) (by omega))
  · simp only [List.mem_cons, List.not_mem_nil, or_false] at h
    rcases h with h | h | h | h <;> exact absurd h (hhigh _ (by omega) (by omega))

/-- The bytes of a text are read as this text. -/
lemma foldl_step_encode (done : List (Option Char)) (cs : List Char) :
    (encode cs).foldl step ⟨done, none⟩ = ⟨(cs.map some).reverse ++ done, none⟩ := by
  induction cs generalizing done with
  | nil => rfl
  | cons c cs ih =>
    rw [encode, List.flatMap_cons, List.foldl_append, foldl_step_encodeChar]
    exact (ih (some c :: done)).trans (by simp)

/-- A text is read back from its bytes. -/
theorem decodeLossy_encode (cs : List Char) : decodeLossy (encode cs) = cs := by
  rw [decodeLossy, pieces, foldl_step_encode, Decoder.finish, List.append_nil, List.reverse_reverse,
    List.map_map]
  exact List.map_id cs

/-- No two texts have the same bytes. -/
theorem encode_injective : Function.Injective encode :=
  Function.LeftInverse.injective decodeLossy_encode

/-- Bytes that are valid are those of a text. -/
lemma exists_encode {bytes : List UInt8} (h : bytes.toByteArray.IsValidUTF8) :
    ∃ cs, bytes = encode cs := by
  obtain ⟨cs, hcs⟩ := h
  refine ⟨cs, ?_⟩
  have hdata : bytes.toByteArray.data.toList = (encode cs).toByteArray.data.toList :=
    congrArg (fun a : ByteArray => a.data.toList) hcs
  rwa [List.toList_data_toByteArray, List.toList_data_toByteArray] at hdata

/-- Valid bytes are not changed by being read as a text and written again. -/
theorem encode_decodeLossy {bytes : List UInt8} (h : bytes.toByteArray.IsValidUTF8) :
    encode (decodeLossy bytes) = bytes := by
  obtain ⟨cs, rfl⟩ := exists_encode h
  rw [decodeLossy_encode]

end LintRelay.Utf8
