import BlockAccess.Proofs.Wire.Correspondence
import Mathlib.Tactic.IntervalCases

/-!
# The text form of a token is read back

A token travels as text in URL-safe base64. Three bytes are regrouped into four numbers of six bits
and each number is written as a symbol; what is left over at the end, one byte or two, fills its
last number up with zeros. The writer and the reader both go over their input with an accumulator.
`symbols` is the text without it, group by group, and the reading is followed along its cases: in
each of them the symbols give the numbers (`symbolOf_spec`) and the numbers the bytes
(`bytes_of_sextets`). The reader looks ahead twice, for a padding sign and for a single symbol at
the end; in a text that was written it finds neither.

## Main results

* `Base64Url.decode_encode` — every byte sequence is read back from its text.
* `Token.decodeUrl_of_encodeUrl` — a token is read back from its text form.
-/

namespace BlockAccess

/-! ## Texts of ASCII characters -/

private theorem utf8EncodeChar_of_ascii {b : UInt8} (h : b < 128) :
    String.utf8EncodeChar (Char.ofNat b.toNat) = [b] := by
  have hb : b.toNat < 128 := UInt8.lt_iff_toNat_lt.1 h
  have hcode : (Char.ofNat b.toNat).val.toNat = b.toNat := by
    have hvalid : b.toNat.isValidChar := .inl (by omega)
    rw [Char.ofNat, dif_pos hvalid]
    rfl
  simp only [String.utf8EncodeChar, hcode]
  rw [if_pos (by omega), UInt8.ofNat_toNat]

/-- The bytes of a text of ASCII characters are their codes. -/
theorem utf8Bytes_of_ascii {codes : List UInt8} (h : ∀ b ∈ codes, b < 128) :
    utf8Bytes (String.ofList (codes.map fun b => Char.ofNat b.toNat)) = codes := by
  induction codes with
  | nil => rfl
  | cons b codes ih =>
    have hfirst := utf8EncodeChar_of_ascii (h b (List.mem_cons_self ..))
    have hrest := ih fun b' hb' => h b' (List.mem_cons_of_mem b hb')
    simp only [utf8Bytes, String.toByteArray_ofList] at hrest ⊢
    rw [List.map_cons, List.utf8Encode_cons, List.utf8Encode_singleton, hfirst]
    simp [hrest]

namespace Base64Url

/-! ## The symbols of a byte sequence -/

/-- **The symbols of a byte sequence,** group by group. -/
def symbols : List UInt8 → List UInt8
  | a :: b :: c :: rest =>
    symbolOf (a >>> 2) :: symbolOf ((a &&& 3) <<< 4 ||| b >>> 4)
      :: symbolOf ((b &&& 15) <<< 2 ||| c >>> 6) :: symbolOf (c &&& 63) :: symbols rest
  | [a, b] =>
    [symbolOf (a >>> 2), symbolOf ((a &&& 3) <<< 4 ||| b >>> 4), symbolOf ((b &&& 15) <<< 2)]
  | [a] => [symbolOf (a >>> 2), symbolOf ((a &&& 3) <<< 4)]
  | [] => []

theorem encodeOnto_eq (acc bytes : List UInt8) :
    encodeOnto acc bytes = acc.reverse ++ symbols bytes := by
  fun_induction encodeOnto acc bytes with
  | case1 acc a b c rest ih => simp [symbols, ih]
  | case2 acc a b => simp [symbols]
  | case3 acc a => simp [symbols]
  | case4 acc => simp [symbols]

theorem symbols_eq_nil_iff {bytes : List UInt8} : symbols bytes = [] ↔ bytes = [] := by
  fun_cases symbols bytes <;> simp

private theorem symbolOf_fin (n : Fin 64) :
    valueOf? (symbolOf (UInt8.ofNat n.val)) = some (UInt8.ofNat n.val) ∧
      symbolOf (UInt8.ofNat n.val) ≠ paddingSign ∧ symbolOf (UInt8.ofNat n.val) < 128 := by
  revert n
  decide

/-- A number of six bits is read back from its symbol, which is an ASCII character and no padding
sign. -/
theorem symbolOf_spec {n : UInt8} (h : n < 64) :
    valueOf? (symbolOf n) = some n ∧ symbolOf n ≠ paddingSign ∧ symbolOf n < 128 := by
  have hfin := symbolOf_fin ⟨n.toNat, UInt8.lt_iff_toNat_lt.1 h⟩
  simpa only [UInt8.ofNat_toNat] using hfin

theorem value_symbolOf {n : UInt8} (h : n < 64) (offset : Nat) :
    value offset (symbolOf n) = .ok n := by
  rw [value, (symbolOf_spec h).1]

/-! ## Six bits at a time -/

/-- Bytes are equal if their bits are. -/
theorem eq_of_bits {x y : UInt8} (h : ∀ i (_ : i < 8), x.toBitVec[i] = y.toBitVec[i]) :
    x = y := by
  apply UInt8.toBitVec_inj.1
  ext i hi
  exact h i hi

private theorem lt_of_shiftRight {n : UInt8} (h : n >>> 6 = 0) : n < 64 := by
  have hshift : n.toNat >>> 6 = 0 := congrArg UInt8.toNat h
  rw [Nat.shiftRight_eq_div_pow] at hshift
  show n.toNat < 64
  omega

/-- The four numbers of three bytes have six bits each. -/
theorem sextets_lt (a b c : UInt8) :
    a >>> 2 < 64 ∧ (a &&& 3) <<< 4 ||| b >>> 4 < 64 ∧ (b &&& 15) <<< 2 ||| c >>> 6 < 64 ∧
      c &&& 63 < 64 := by
  refine ⟨lt_of_shiftRight ?_, lt_of_shiftRight ?_, lt_of_shiftRight ?_, lt_of_shiftRight ?_⟩
  · exact eq_of_bits fun i hi => by simp
  · exact eq_of_bits fun i hi => by interval_cases i <;> simp
  · exact eq_of_bits fun i hi => by interval_cases i <;> simp
  · exact eq_of_bits fun i hi => by interval_cases i <;> simp

/-- Three bytes are put together from their four numbers. -/
theorem bytes_of_sextets (a b c : UInt8) :
    (a >>> 2) <<< 2 ||| ((a &&& 3) <<< 4 ||| b >>> 4) >>> 4 = a ∧
      ((a &&& 3) <<< 4 ||| b >>> 4) <<< 4 ||| ((b &&& 15) <<< 2 ||| c >>> 6) >>> 2 = b ∧
      ((b &&& 15) <<< 2 ||| c >>> 6) <<< 6 ||| (c &&& 63) = c := by
  refine ⟨?_, ?_, ?_⟩
  · exact eq_of_bits fun i hi => by interval_cases i <;> simp
  · exact eq_of_bits fun i hi => by interval_cases i <;> simp
  · exact eq_of_bits fun i hi => by interval_cases i <;> simp

/-- The bits that fill up the last number are zero. -/
theorem fill_eq_zero (a b : UInt8) :
    (a &&& 3) <<< 4 &&& 15 = 0 ∧ (b &&& 15) <<< 2 &&& 3 = 0 := by
  constructor
  · exact eq_of_bits fun i hi => by interval_cases i <;> simp
  · exact eq_of_bits fun i hi => by interval_cases i <;> simp

/-- Every symbol stands for a number of six bits. -/
theorem exists_of_mem_symbols {s : UInt8} {bytes : List UInt8} (h : s ∈ symbols bytes) :
    ∃ n, n < 64 ∧ s = symbolOf n := by
  fun_induction symbols bytes with
  | case1 a b c rest ih =>
    obtain ⟨hx, hy, hz, hu⟩ := sextets_lt a b c
    simp only [List.mem_cons] at h
    rcases h with rfl | rfl | rfl | rfl | h
    · exact ⟨_, hx, rfl⟩
    · exact ⟨_, hy, rfl⟩
    · exact ⟨_, hz, rfl⟩
    · exact ⟨_, hu, rfl⟩
    · exact ih h
  | case2 a b =>
    obtain ⟨hx, hy, hz, -⟩ := sextets_lt a b 0
    simp only [List.mem_cons, List.not_mem_nil, or_false] at h
    rcases h with rfl | rfl | rfl
    · exact ⟨_, hx, rfl⟩
    · exact ⟨_, hy, rfl⟩
    · exact ⟨_, by simpa using hz, rfl⟩
  | case3 a =>
    obtain ⟨hx, hy, -⟩ := sextets_lt a 0 0
    simp only [List.mem_cons, List.not_mem_nil, or_false] at h
    rcases h with rfl | rfl
    · exact ⟨_, hx, rfl⟩
    · exact ⟨_, by simpa using hy, rfl⟩
  | case4 => cases h

/-! ## Reading back -/

section Tail

variable (acc : List UInt8) (offset : Nat) (a b c : UInt8)

theorem decodeTail_symbols_one : decodeTail acc offset (symbols [a]) = .ok (acc.reverse ++ [a]) := by
  have hx := (sextets_lt a 0 0).1
  have hy : (a &&& 3) <<< 4 < 64 := by simpa using (sextets_lt a 0 0).2.1
  have ha : (a >>> 2) <<< 2 ||| (a &&& 3) <<< 4 >>> 4 = a := by
    simpa using (bytes_of_sextets a 0 0).1
  simp [symbols, decodeTail, value_symbolOf hx, value_symbolOf hy, (fill_eq_zero a 0).1, ha, bind,
    Except.bind, pure, Except.pure]

theorem decodeTail_symbols_two :
    decodeTail acc offset (symbols [a, b]) = .ok (acc.reverse ++ [a, b]) := by
  obtain ⟨hx, hy, -⟩ := sextets_lt a b 0
  have hz : (b &&& 15) <<< 2 < 64 := by simpa using (sextets_lt a b 0).2.2.1
  have ha := (bytes_of_sextets a b 0).1
  have hb : ((a &&& 3) <<< 4 ||| b >>> 4) <<< 4 ||| (b &&& 15) <<< 2 >>> 2 = b := by
    simpa using (bytes_of_sextets a b 0).2.1
  simp [symbols, decodeTail, value_symbolOf hx, value_symbolOf hy, value_symbolOf hz,
    (symbolOf_spec hz).2.1, (fill_eq_zero a b).2, ha, hb, bind, Except.bind, pure, Except.pure]

theorem decodeTail_symbols_three :
    decodeTail acc offset (symbols [a, b, c]) = .ok (acc.reverse ++ [a, b, c]) := by
  obtain ⟨hx, hy, hz, hu⟩ := sextets_lt a b c
  obtain ⟨ha, hb, hc⟩ := bytes_of_sextets a b c
  simp [symbols, decodeTail, value_symbolOf hx, value_symbolOf hy, value_symbolOf hz,
    value_symbolOf hu, (symbolOf_spec hz).2.1, (symbolOf_spec hu).2.1, ha, hb, hc, bind,
    Except.bind, pure, Except.pure]

end Tail

/-- A whole group is only read as such if symbols follow it; otherwise it is the last one. -/
theorem decodeOnto_symbols (acc : List UInt8) (offset : Nat) (bytes : List UInt8) :
    decodeOnto acc offset (symbols bytes) = .ok (acc.reverse ++ bytes) := by
  fun_induction symbols bytes generalizing acc offset with
  | case1 a b c rest ih =>
    cases hrest : symbols rest with
    | nil =>
      obtain rfl := symbols_eq_nil_iff.1 hrest
      exact decodeTail_symbols_three acc offset a b c
    | cons s more =>
      obtain ⟨hx, hy, hz, hu⟩ := sextets_lt a b c
      obtain ⟨ha, hb, hc⟩ := bytes_of_sextets a b c
      simp only [decodeOnto, value_symbolOf hx, value_symbolOf hy, value_symbolOf hz,
        value_symbolOf hu, ha, hb, hc, bind, Except.bind]
      rw [← hrest, ih]
      simp
  | case2 a b => exact decodeTail_symbols_two acc offset a b
  | case3 a => exact decodeTail_symbols_one acc offset a
  | case4 => simp [decodeOnto, decodeTail]

/-- In a text that was written no symbol is unknown. -/
theorem strayEnd?_symbols (bytes : List UInt8) : strayEnd? (symbols bytes) = none := by
  unfold strayEnd?
  split
  · cases hlast : (symbols bytes).getLast? with
    | none => rfl
    | some last =>
      obtain ⟨n, hn, rfl⟩ := exists_of_mem_symbols (List.mem_of_getLast? hlast)
      simp [(symbolOf_spec hn).1]
  · rfl

/-- The text of a byte sequence consists of its symbols. -/
theorem utf8Bytes_encode (bytes : List UInt8) : utf8Bytes (encode bytes) = symbols bytes := by
  rw [encode, encodeOnto_eq, List.reverse_nil, List.nil_append]
  apply utf8Bytes_of_ascii
  intro s hs
  obtain ⟨n, hn, rfl⟩ := exists_of_mem_symbols hs
  exact (symbolOf_spec hn).2.2

/-- **Every byte sequence is read back from its text.** -/
theorem decode_encode (bytes : List UInt8) : decode (encode bytes) = .ok bytes := by
  simp only [decode, utf8Bytes_encode, strayEnd?_symbols]
  exact decodeOnto_symbols [] 0 bytes

end Base64Url

namespace Token

variable {t : Token} {bytes : List UInt8}

/-- The text form of a token is the base64 text of its wire form. -/
theorem encodeUrl_of_encode (h : t.encode = .ok bytes) :
    t.encodeUrl = .ok (Base64Url.encode bytes) := by
  rw [encodeUrl, h]
  rfl

/-- **A token is read back from its text form.** -/
theorem decodeUrl_of_encodeUrl {text : String} (h : t.encodeUrl = .ok text) :
    decodeUrl text = .ok t := by
  cases hform : t.encode with
  | error e =>
    rw [encodeUrl, hform] at h
    cases h
  | ok bytes =>
    obtain rfl := Except.ok.inj ((encodeUrl_of_encode hform).symm.trans h)
    rw [decodeUrl, Base64Url.decode_encode]
    exact decode_eq_ok_iff.2 hform

end Token

end BlockAccess
