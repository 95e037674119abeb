import EntitySchema.Text.Utf8
import Mathlib.Data.List.Forall2
import Mathlib.Tactic.SplitIfs

/-! UTF-8 is read back. The bytes that are read as one character are those that it is written as
(`spells_iff`), so that decoding accepts exactly what encoding produces (`decode_eq_ok_iff`). -/
namespace EntitySchema.Text.Utf8

def Within (range : Nat × Nat) (b : UInt8) : Prop := range.1 ≤ b.toNat ∧ b.toNat ≤ range.2

/-- The code point of a character: the payload of its first byte, then six bits from each later
byte. -/
def payload (first : Nat) (tail : List UInt8) : Nat :=
  tail.foldl (fun n b => n * 64 + (b.toNat - 0x80)) first

theorem payload_nil (first : Nat) : payload first [] = first := rfl

theorem payload_cons (first : Nat) (b : UInt8) (tail : List UInt8) :
    payload first (b :: tail) = payload (first * 64 + (b.toNat - 0x80)) tail := by
  rw [payload, List.foldl_cons, payload]

/-- The bytes that are read as a character: a first byte, and behind it as many as it calls for, each
in its range. -/
inductive Spells : Char → List UInt8 → Prop
  | intro {b : UInt8} {n : Nat} {ranges : List (Nat × Nat)} {tail : List UInt8}
    (lead : lead? b = some (n, ranges)) (within : List.Forall₂ Within ranges tail) :
    Spells (Char.ofNat (payload n tail)) (b :: tail)

theorem map_cons_eq_ok_iff {x : Except Fault (List Char)} {c : Char} {s : List Char} :
    x.map (c :: ·) = .ok s ↔ ∃ r, x = .ok r ∧ s = c :: r := by
  cases x <;> simp [Except.map, eq_comm]

/-- A character of which some bytes are read is completed by bytes in the ranges that are left. -/
theorem decodeFrom_some_ok_iff {pos : Nat} {p : Pending} {bytes : List UInt8} {s : List Char} :
    decodeFrom pos (some p) bytes = .ok s ↔ ∃ tail rest r, bytes = tail ++ rest ∧
      List.Forall₂ Within (p.range :: p.later) tail ∧
      decodeFrom (pos + tail.length) none rest = .ok r ∧
      s = Char.ofNat (payload p.payload tail) :: r := by
  induction bytes generalizing pos p with
  | nil =>
    refine iff_of_false (by simp [decodeFrom]) ?_
    rintro ⟨tail, rest, r, happ, hranges, -⟩
    obtain ⟨rfl, -⟩ := List.append_eq_nil_iff.mp happ.symm
    cases hranges
  | cons b bytes ih =>
    rw [decodeFrom]
    by_cases hb : p.range.1 ≤ b.toNat ∧ b.toNat ≤ p.range.2
    · rw [if_pos hb]
      cases hlater : p.later with
      | nil =>
        simp only [map_cons_eq_ok_iff]
        constructor
        · rintro ⟨r, hr, rfl⟩
          exact ⟨[b], bytes, r, rfl, .cons hb .nil, hr, rfl⟩
        · rintro ⟨tail, rest, r, happ, hranges, hr, rfl⟩
          obtain ⟨b', tail', -, hnil, rfl⟩ := List.forall₂_cons_left_iff.mp hranges
          obtain rfl := List.forall₂_nil_left_iff.mp hnil
          obtain ⟨rfl, rfl⟩ := List.cons.inj happ
          exact ⟨r, hr, rfl⟩
      | cons range later =>
        simp only [ih]
        constructor
        · rintro ⟨tail, rest, r, rfl, hranges, hr, rfl⟩
          refine ⟨b :: tail, rest, r, rfl, .cons hb hranges, ?_, by rw [payload_cons]⟩
          rwa [List.length_cons, Nat.add_comm tail.length, ← Nat.add_assoc]
        · rintro ⟨tail, rest, r, happ, hranges, hr, rfl⟩
          obtain ⟨b', tail', -, hranges', rfl⟩ := List.forall₂_cons_left_iff.mp hranges
          obtain ⟨rfl, rfl⟩ := List.cons.inj happ
          refine ⟨tail', rest, r, rfl, hranges', ?_, by rw [payload_cons]⟩
          rwa [List.length_cons, Nat.add_comm tail'.length, ← Nat.add_assoc] at hr
    · rw [if_neg hb]
      refine iff_of_false (by simp) ?_
      rintro ⟨tail, rest, r, happ, hranges, -⟩
      obtain ⟨b', tail', hb', -, rfl⟩ := List.forall₂_cons_left_iff.mp hranges
      exact hb ((List.cons.inj happ).1 ▸ hb')

/-- Bytes are read as the characters that they spell one after the other. -/
theorem decodeFrom_none_ok_iff {pos : Nat} {bytes : List UInt8} {s : List Char} :
    decodeFrom pos none bytes = .ok s ↔ bytes = [] ∧ s = [] ∨ ∃ c head rest r, Spells c head ∧
      bytes = head ++ rest ∧ decodeFrom (pos + head.length) none rest = .ok r ∧ s = c :: r := by
  cases bytes with
  | nil =>
    have hnone : ¬∃ c head rest r, Spells c head ∧ ([] : List UInt8) = head ++ rest ∧
        decodeFrom (pos + head.length) none rest = .ok r ∧ s = c :: r := by
      rintro ⟨c, head, rest, r, hspells, happ, -⟩
      obtain ⟨rfl, -⟩ := List.append_eq_nil_iff.mp happ.symm
      cases hspells
    rw [or_iff_left hnone]
    simp [decodeFrom, eq_comm]
  | cons b bytes =>
    rw [decodeFrom]
    simp only [reduceCtorEq, false_and, false_or]
    constructor
    · intro h
      split at h
      · cases h
      · rename_i n hlead
        obtain ⟨r, hr, rfl⟩ := map_cons_eq_ok_iff.mp h
        exact ⟨_, [b], bytes, r, .intro hlead .nil, rfl, hr, rfl⟩
      · rename_i n range later hlead
        obtain ⟨tail, rest, r, rfl, hranges, hr, rfl⟩ := decodeFrom_some_ok_iff.mp h
        refine ⟨_, b :: tail, rest, r, .intro hlead hranges, rfl, ?_, rfl⟩
        rwa [List.length_cons, Nat.add_comm tail.length, ← Nat.add_assoc]
    · rintro ⟨c, head, rest, r, hspells, happ, hr, rfl⟩
      obtain ⟨hlead, hranges⟩ := hspells
      rename_i b' n ranges tail
      obtain ⟨rfl, rfl⟩ := List.cons.inj happ
      rw [List.length_cons, Nat.add_comm tail.length, ← Nat.add_assoc] at hr
      rw [hlead]
      cases ranges with
      | nil =>
        obtain rfl := List.forall₂_nil_left_iff.mp hranges
        exact map_cons_eq_ok_iff.mpr ⟨r, hr, rfl⟩
      | cons range later => exact decodeFrom_some_ok_iff.mpr ⟨tail, rest, r, rfl, hranges, hr, rfl⟩

theorem lead?_one {b : UInt8} (h : b.toNat < 0x80) : lead? b = some (b.toNat, []) := by
  simp [lead?, h]

theorem lead?_two {b : UInt8} (hlow : 0xc2 ≤ b.toNat) (hhigh : b.toNat < 0xe0) :
    lead? b = some (b.toNat - 0xc0, [(0x80, 0xbf)]) := by
  unfold lead?
  dsimp only
  rw [if_neg (by omega), if_neg (by omega), if_pos hhigh]

/-- Of three bytes the second is bounded so that the character is neither shorter nor a surrogate. -/
theorem lead?_three {b : UInt8} (hlow : 0xe0 ≤ b.toNat) (hhigh : b.toNat < 0xf0) :
    lead? b = some (b.toNat - 0xe0,
      [(if b.toNat = 0xe0 then 0xa0 else 0x80, if b.toNat = 0xed then 0x9f else 0xbf),
        (0x80, 0xbf)]) := by
  unfold lead?
  dsimp only
  rw [if_neg (by omega), if_neg (by omega), if_neg (by omega)]
  by_cases he0 : b.toNat = 0xe0
  · simp [he0]
  · by_cases hed : b.toNat = 0xed <;> simp [he0, hed, hhigh]

/-- Of four bytes the second is bounded so that the character is neither shorter nor beyond the last
plane. -/
theorem lead?_four {b : UInt8} (hlow : 0xf0 ≤ b.toNat) (hhigh : b.toNat ≤ 0xf4) :
    lead? b = some (b.toNat - 0xf0,
      [(if b.toNat = 0xf0 then 0x90 else 0x80, if b.toNat = 0xf4 then 0x8f else 0xbf),
        (0x80, 0xbf), (0x80, 0xbf)]) := by
  unfold lead?
  dsimp only
  rw [if_neg (by omega), if_neg (by omega), if_neg (by omega), if_neg (by omega), if_neg (by omega),
    if_neg (by omega)]
  by_cases hf0 : b.toNat = 0xf0
  · simp [hf0]
  · by_cases hf4 : b.toNat = 0xf4
    · simp [hf4]
    · have hlt : b.toNat < 0xf4 := by omega
      simp [hf0, hf4, hlt]

/-- No other byte is the first of a character. -/
theorem lt_of_lead? {b : UInt8} {p : Nat × List (Nat × Nat)} (h : lead? b = some p) :
    b.toNat < 0x80 ∨ 0xc2 ≤ b.toNat ∧ b.toNat ≤ 0xf4 := by
  unfold lead? at h
  dsimp only at h
  split_ifs at h <;> omega

theorem ofNat_eq_of_toNat {n : Nat} {b : UInt8} (h : n = b.toNat) : UInt8.ofNat n = b := by
  rw [h, UInt8.ofNat_toNat]

theorem toNat_ofNat_of_valid {n : Nat} (h : n.isValidChar) : (Char.ofNat n).val.toNat = n := by
  rw [Char.ofNat, dif_pos h]
  rfl

theorem encodeChar_one {b : UInt8} (hb : b.toNat < 0x80) :
    String.utf8EncodeChar (Char.ofNat (payload b.toNat [])) = [b] := by
  rw [payload_nil, String.utf8EncodeChar, toNat_ofNat_of_valid (by unfold Nat.isValidChar; omega)]
  rw [if_pos (by omega), UInt8.ofNat_toNat]

theorem encodeChar_two {b t : UInt8} (hlow : 0xc2 ≤ b.toNat) (hhigh : b.toNat < 0xe0)
    (ht : Within (0x80, 0xbf) t) :
    String.utf8EncodeChar (Char.ofNat (payload (b.toNat - 0xc0) [t])) = [b, t] := by
  simp only [Within] at ht
  rw [payload_cons, payload_nil, String.utf8EncodeChar,
    toNat_ofNat_of_valid (by unfold Nat.isValidChar; omega)]
  rw [if_neg (by omega), if_pos (by omega), ofNat_eq_of_toNat (b := b) (by omega),
    ofNat_eq_of_toNat (b := t) (by omega)]

/-- The range of the second byte keeps the code point above the shorter forms, and out of the
surrogates. -/
theorem encodeChar_three {b t u : UInt8} (hlow : 0xe0 ≤ b.toNat) (hhigh : b.toNat < 0xf0)
    (ht : Within (if b.toNat = 0xe0 then 0xa0 else 0x80, if b.toNat = 0xed then 0x9f else 0xbf) t)
    (hu : Within (0x80, 0xbf) u) :
    String.utf8EncodeChar (Char.ofNat (payload (b.toNat - 0xe0) [t, u])) = [b, t, u] := by
  simp only [Within] at ht hu
  have hshort : b.toNat = 0xe0 → 0xa0 ≤ t.toNat := fun he => by simpa [he] using ht.1
  have hsurrogate : b.toNat = 0xed → t.toNat ≤ 0x9f := fun he => by simpa [he] using ht.2
  have htail : 0x80 ≤ t.toNat ∧ t.toNat ≤ 0xbf := by split_ifs at ht <;> omega
  rw [payload_cons, payload_cons, payload_nil, String.utf8EncodeChar,
    toNat_ofNat_of_valid (by unfold Nat.isValidChar; omega)]
  rw [if_neg (by omega), if_neg (by omega), if_pos (by omega),
    ofNat_eq_of_toNat (b := b) (by omega), ofNat_eq_of_toNat (b := t) (by omega),
    ofNat_eq_of_toNat (b := u) (by omega)]

theorem encodeChar_four {b t u w : UInt8} (hlow : 0xf0 ≤ b.toNat) (hhigh : b.toNat ≤ 0xf4)
    (ht : Within (if b.toNat = 0xf0 then 0x90 else 0x80, if b.toNat = 0xf4 then 0x8f else 0xbf) t)
    (hu : Within (0x80, 0xbf) u) (hw : Within (0x80, 0xbf) w) :
    String.utf8EncodeChar (Char.ofNat (payload (b.toNat - 0xf0) [t, u, w])) = [b, t, u, w] := by
  simp only [Within] at ht hu hw
  have hshort : b.toNat = 0xf0 → 0x90 ≤ t.toNat := fun he => by simpa [he] using ht.1
  have hplane : b.toNat = 0xf4 → t.toNat ≤ 0x8f := fun he => by simpa [he] using ht.2
  have htail : 0x80 ≤ t.toNat ∧ t.toNat ≤ 0xbf := by split_ifs at ht <;> omega
  rw [payload_cons, payload_cons, payload_cons, payload_nil, String.utf8EncodeChar,
    toNat_ofNat_of_valid (by unfold Nat.isValidChar; omega)]
  rw [if_neg (by omega), if_neg (by omega), if_neg (by omega),
    ofNat_eq_of_toNat (b := b) (by omega), ofNat_eq_of_toNat (b := t) (by omega),
    ofNat_eq_of_toNat (b := u) (by omega), ofNat_eq_of_toNat (b := w) (by omega)]

theorem Spells.eq {c : Char} {head : List UInt8} (h : Spells c head) :
    head = String.utf8EncodeChar c := by
  obtain ⟨hlead, hranges⟩ := h
  rename_i b n ranges tail
  have hb := lt_of_lead? hlead
  -- One case for each number of bytes.
  by_cases h1 : b.toNat < 0x80
  · rw [lead?_one h1, Option.some.injEq, Prod.mk.injEq] at hlead
    obtain ⟨rfl, rfl⟩ := hlead
    obtain rfl := List.forall₂_nil_left_iff.mp hranges
    rw [encodeChar_one h1]
  by_cases h2 : b.toNat < 0xe0
  · rw [lead?_two (by omega) h2, Option.some.injEq, Prod.mk.injEq] at hlead
    obtain ⟨rfl, rfl⟩ := hlead
    simp only [List.forall₂_cons_left_iff, List.forall₂_nil_left_iff] at hranges
    obtain ⟨t, _, ht, rfl, rfl⟩ := hranges
    rw [encodeChar_two (by omega) h2 ht]
  by_cases h3 : b.toNat < 0xf0
  · rw [lead?_three (by omega) h3, Option.some.injEq, Prod.mk.injEq] at hlead
    obtain ⟨rfl, rfl⟩ := hlead
    simp only [List.forall₂_cons_left_iff, List.forall₂_nil_left_iff] at hranges
    obtain ⟨t, _, ht, ⟨u, _, hu, rfl, rfl⟩, rfl⟩ := hranges
    rw [encodeChar_three (by omega) h3 ht hu]
  · rw [lead?_four (by omega) (by omega), Option.some.injEq, Prod.mk.injEq] at hlead
    obtain ⟨rfl, rfl⟩ := hlead
    simp only [List.forall₂_cons_left_iff, List.forall₂_nil_left_iff] at hranges
    obtain ⟨t, _, ht, ⟨u, _, hu, ⟨w, _, hw, rfl, rfl⟩, rfl⟩, rfl⟩ := hranges
    rw [encodeChar_four (by omega) (by omega) ht hu hw]

theorem toNat_ofNat_of_lt {n : Nat} (h : n < 256) : (UInt8.ofNat n).toNat = n := by
  rw [UInt8.toNat_ofNat', Nat.mod_eq_of_lt h]

theorem spells_of_payload {c : Char} {b : UInt8} {n : Nat} {ranges : List (Nat × Nat)}
    {tail : List UInt8} (hlead : lead? b = some (n, ranges))
    (hranges : List.Forall₂ Within ranges tail) (hpayload : payload n tail = c.toNat) :
    Spells c (b :: tail) := by
  rw [← Char.ofNat_toNat c, ← hpayload]
  exact .intro hlead hranges

theorem toNat_tail (n : Nat) : (UInt8.ofNat (n % 64 + 128)).toNat = n % 64 + 128 :=
  toNat_ofNat_of_lt (by omega)

theorem within_tail (n : Nat) : Within (0x80, 0xbf) (UInt8.ofNat (n % 64 + 128)) := by
  rw [Within, toNat_tail]
  exact ⟨by omega, by omega⟩

theorem spells_encodeChar (c : Char) : Spells c (String.utf8EncodeChar c) := by
  have hvalid : c.toNat < 0xd800 ∨ 0xdfff < c.toNat ∧ c.toNat < 0x110000 := c.valid
  have ht := toNat_tail c.toNat
  have hu := toNat_tail (c.toNat / 64)
  have hw := toNat_tail (c.toNat / 4096)
  rw [String.utf8EncodeChar, Char.toNat_val]
  split_ifs with h1 h2 h3
  · have hb := toNat_ofNat_of_lt (n := c.toNat) (by omega)
    refine spells_of_payload (lead?_one (by omega)) .nil ?_
    rw [payload_nil, hb]
  · have hb := toNat_ofNat_of_lt (n := c.toNat / 64 % 32 + 192) (by omega)
    refine spells_of_payload (lead?_two (by omega) (by omega)) (.cons (within_tail _) .nil) ?_
    rw [payload_cons, payload_nil]
    omega
  · have hb := toNat_ofNat_of_lt (n := c.toNat / 4096 % 16 + 224) (by omega)
    refine spells_of_payload (lead?_three (by omega) (by omega))
      (.cons ?_ (.cons (within_tail _) .nil)) ?_
    · rw [Within]
      split_ifs <;> omega
    · rw [payload_cons, payload_cons, payload_nil]
      omega
  · have hb := toNat_ofNat_of_lt (n := c.toNat / 262144 % 8 + 240) (by omega)
    refine spells_of_payload (lead?_four (by omega) (by omega))
      (.cons ?_ (.cons (within_tail _) (.cons (within_tail _) .nil))) ?_
    · rw [Within]
      split_ifs <;> omega
    · rw [payload_cons, payload_cons, payload_cons, payload_nil]
      omega

theorem spells_iff {c : Char} {head : List UInt8} :
    Spells c head ↔ head = String.utf8EncodeChar c :=
  ⟨Spells.eq, fun h => h ▸ spells_encodeChar c⟩

/-- Reading from any position on accepts what writing produces, and nothing else. -/
theorem decodeFrom_eq_ok_iff {pos : Nat} {bytes : List UInt8} {s : List Char} :
    decodeFrom pos none bytes = .ok s ↔ bytes = encode s := by
  induction s generalizing pos bytes with
  | nil =>
    rw [decodeFrom_none_ok_iff]
    simp [encode]
  | cons c s ih =>
    rw [decodeFrom_none_ok_iff]
    simp only [spells_iff, encode, List.flatMap_cons]
    constructor
    · rintro (⟨-, hnil⟩ | ⟨c', head, rest, r, rfl, rfl, hrest, hs⟩)
      · cases hnil
      · obtain ⟨rfl, rfl⟩ := List.cons.inj hs
        rw [ih.mp hrest, encode]
    · rintro rfl
      exact .inr ⟨c, _, _, s, rfl, rfl, ih.mpr rfl, rfl⟩

theorem decode_eq_ok_iff {bytes : List UInt8} {s : List Char} :
    decode bytes = .ok s ↔ bytes = encode s := decodeFrom_eq_ok_iff

/-- The byte of an ASCII character is in no other character. -/
theorem mem_encodeChar_iff {c d : Char} (hc : c.toNat < 0x80) :
    UInt8.ofNat c.toNat ∈ String.utf8EncodeChar d ↔ c = d := by
  have hbyte := toNat_ofNat_of_lt (n := c.toNat) (by omega)
  constructor
  · intro h
    have hcode : c.toNat = d.toNat := by
      rw [String.utf8EncodeChar, Char.toNat_val] at h
      split_ifs at h <;> simp only [List.mem_cons, List.not_mem_nil, or_false, ← UInt8.toNat_inj,
        UInt8.toNat_ofNat'] at h <;> omega
    rw [← Char.ofNat_toNat c, hcode, Char.ofNat_toNat]
  · rintro rfl
    rw [String.utf8EncodeChar, Char.toNat_val, if_pos (by omega)]
    exact List.mem_singleton_self _

theorem mem_encode_iff {c : Char} (hc : c.toNat < 0x80) (s : List Char) :
    UInt8.ofNat c.toNat ∈ encode s ↔ c ∈ s := by
  simp [encode, List.mem_flatMap, mem_encodeChar_iff hc]

end EntitySchema.Text.Utf8
