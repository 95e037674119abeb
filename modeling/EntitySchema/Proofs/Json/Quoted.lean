import EntitySchema.Json.Scalar
import EntitySchema.Json.Write
import Mathlib.Tactic.SplitIfs

/-! Quoted texts in JSON. Reading undoes quoting, whatever follows the closing quote
(`readText_quote`), and a quoted text has no control characters (`le_of_mem_quote`). -/
namespace EntitySchema.Json

theorem length_hexPadded : ∀ n < 32, (Text.hexPadded 4 n).length = 4 := by decide

theorem hexValue?_hexPadded : ∀ n < 32, Text.hexValue? (Text.hexPadded 4 n) = some n := by decide

theorem le_of_mem_hexPadded {n : Nat} (h : n < 32) {c : Char} (hc : c ∈ Text.hexPadded 4 n) :
    32 ≤ c.toNat := by
  have hall : ∀ n < 32, (Text.hexPadded 4 n).all (fun c => decide (32 ≤ c.toNat)) = true := by
    decide
  exact of_decide_eq_true (List.all_eq_true.mp (hall n h) c hc)

theorem readUnits?_letter (letter : Char) {c : Char} (h : unescaped? letter = some c)
    (rest : List Char) :
    readUnits? ('\\' :: letter :: rest) = (readUnits? rest).map fun p => (c.toNat :: p.1, p.2) := by
  have hu : letter ≠ 'u' := by
    rintro rfl
    simp [unescaped?] at h
  rw [readUnits?.eq_4 letter rest fun _ _ _ _ _ hl _ => hu hl, h]
  cases readUnits? rest <;> rfl

theorem readUnits?_control {n : Nat} (h : n < 32) (rest : List Char) :
    readUnits? ('\\' :: 'u' :: (Text.hexPadded 4 n ++ rest)) =
      (readUnits? rest).map fun p => (n :: p.1, p.2) := by
  have hvalue := hexValue?_hexPadded n h
  match hdigits : Text.hexPadded 4 n, length_hexPadded n h with
  | [a, b, c, d], _ =>
    rw [hdigits] at hvalue
    simp only [List.cons_append, List.nil_append, readUnits?, hvalue]
    cases readUnits? rest <;> rfl

theorem readUnits?_plain {c : Char} (hq : c ≠ '"') (hb : c ≠ '\\') (hc : 32 ≤ c.toNat)
    (rest : List Char) :
    readUnits? (c :: rest) = (readUnits? rest).map fun p => (c.toNat :: p.1, p.2) := by
  have hlow : ¬c.toNat < 32 := by omega
  simp [readUnits?, hb, hlow]

theorem readUnits?_escape (c : Char) (rest : List Char) :
    readUnits? (escape c ++ rest) = (readUnits? rest).map fun p => (c.toNat :: p.1, p.2) := by
  unfold escape
  split_ifs with hquote hback hfeed hreturn htab hbell hpage hlow
  · exact readUnits?_letter '"' (by rw [hquote]; rfl) rest
  · exact readUnits?_letter '\\' (by rw [hback]; rfl) rest
  · exact readUnits?_letter 'n' (by rw [hfeed]; rfl) rest
  · exact readUnits?_letter 'r' (by rw [hreturn]; rfl) rest
  · exact readUnits?_letter 't' (by rw [htab]; rfl) rest
  · exact readUnits?_letter 'b' (by rw [hbell]; rfl) rest
  · exact readUnits?_letter 'f' (by rw [hpage]; rfl) rest
  · exact readUnits?_control hlow rest
  · exact readUnits?_plain hquote hback (by omega) rest

theorem readUnits?_flatMap_escape (s rest : List Char) :
    readUnits? (s.flatMap escape ++ '"' :: rest) = some (s.map Char.toNat, rest) := by
  induction s with
  | nil => simp [readUnits?]
  | cons c s ih =>
    rw [List.flatMap_cons, List.append_assoc, readUnits?_escape, ih]
    rfl

/-- The code points of characters are no halves of surrogate pairs. -/
theorem ofCodes_joinHalves (s : List Char) :
    Value.ofCodes (Text.joinHalves (s.map Char.toNat)) = .text (String.ofList s) := by
  have hwhole : ∀ n ∈ s.map Char.toNat, Text.isHighHalf n = false := by
    intro n hn
    obtain ⟨c, -, rfl⟩ := List.mem_map.mp hn
    have hvalid : c.toNat < 0xd800 ∨ 0xdfff < c.toNat ∧ c.toNat < 0x110000 := c.valid
    simp only [Text.isHighHalf, Bool.and_eq_false_iff, decide_eq_false_iff_not]
    omega
  have hall : (s.map Char.toNat).all (fun n => decide (Nat.isValidChar n)) = true := by
    rw [List.all_map, List.all_eq_true]
    exact fun c _ => decide_eq_true c.valid
  have hchars : (s.map Char.toNat).map Char.ofNat = s := by
    simp [List.map_map, Function.comp_def]
  rw [Text.joinHalves_eq_self hwhole, Value.ofCodes, if_pos hall, hchars]

theorem readText_quote (s : String) (rest : List Char) :
    readText (s.toList.flatMap escape ++ '"' :: rest) = .ok (.text s, rest) := by
  rw [readText, readUnits?_flatMap_escape]
  simp only [ofCodes_joinHalves, String.ofList_toList]

theorem le_of_mem_escape {c d : Char} (h : d ∈ escape c) : 32 ≤ d.toNat := by
  have hletter {letter : Char} (hd : d ∈ ['\\', letter]) (hl : 32 ≤ letter.toNat) :
      32 ≤ d.toNat := by
    rcases List.mem_cons.mp hd with rfl | hd
    · decide
    · rwa [List.mem_singleton.mp hd]
  unfold escape at h
  split_ifs at h with hquote hback hfeed hreturn htab hbell hpage hlow
  · exact hletter h (by decide)
  · exact hletter h (by decide)
  · exact hletter h (by decide)
  · exact hletter h (by decide)
  · exact hletter h (by decide)
  · exact hletter h (by decide)
  · exact hletter h (by decide)
  · rcases List.mem_cons.mp h with rfl | h
    · decide
    · rcases List.mem_cons.mp h with rfl | h
      · decide
      · exact le_of_mem_hexPadded hlow h
  · rw [List.mem_singleton.mp h]
    omega

/-- Control characters are all escaped. -/
theorem le_of_mem_quote (s : String) : ∀ c ∈ quote s, 32 ≤ c.toNat := by
  intro c h
  simp only [quote, List.cons_append, List.mem_cons, List.mem_append, List.mem_flatMap,
    List.not_mem_nil, or_false] at h
  rcases h with rfl | ⟨d, -, hd⟩ | rfl
  · decide
  · exact le_of_mem_escape hd
  · decide

end EntitySchema.Json
