import BlockAccess.Proofs.Wire.TextForm

/-!
# Which texts are texts of tokens

A token is read back from its text form, and this module is the way from the other side: a text from
which a token is read is the text form of that token, to the last character. A reader of base64 that
is lenient in any respect takes several texts for the same bytes. Here the symbols determine the
numbers (`symbolOf_of_valueOf?`), the numbers of a group determine its bytes, and these determine
the numbers again (`sextets_of_bytes`). A short group at the end is a whole one whose missing
numbers are zero: the bits of its last number that no byte takes are zero, because the reader has
checked them, and so the bytes that are not there would be zero, too.

The wire form under the text is canonical already, so that the two layers together are.

## Main results

* `Base64Url.symbols_of_decodeOnto` — what was read is written with the same symbols.
* `Base64Url.decode_eq_ok_iff` — a byte sequence is read from its own text only.
* `token_texts_correspond` — the text form of tokens in full.
-/

namespace BlockAccess

namespace Base64Url

/-! ## Numbers and symbols -/

private theorem valueOf?_fin (s : Fin 256) :
    ∀ n ∈ valueOf? (UInt8.ofNat s.val), n < 64 ∧ symbolOf n = UInt8.ofNat s.val := by
  revert s
  decide +kernel

/-- A symbol has one number, and the number has no other symbol. -/
theorem symbolOf_of_valueOf? {s n : UInt8} (h : valueOf? s = some n) : n < 64 ∧ symbolOf n = s := by
  have hfin := valueOf?_fin ⟨s.toNat, s.toNat_lt⟩
  simp only [UInt8.ofNat_toNat] at hfin
  exact hfin n h

/-- A number of six bits has none above these. -/
private theorem upper_bits {n : UInt8} (h : n < 64) :
    n.toBitVec[6] = false ∧ n.toBitVec[7] = false := by
  have hn : n.toNat < 64 := UInt8.lt_iff_toNat_lt.1 h
  rw [BitVec.getElem_eq_testBit_toNat, BitVec.getElem_eq_testBit_toNat]
  constructor
  · exact Nat.testBit_lt_two_pow hn
  · exact Nat.testBit_lt_two_pow (Nat.lt_trans hn (by decide))

/-- **Four numbers are found again in the three bytes that they write.** -/
theorem sextets_of_bytes {x y z u : UInt8} (hx : x < 64) (hy : y < 64) (hz : z < 64) (hu : u < 64) :
    (x <<< 2 ||| y >>> 4) >>> 2 = x ∧
      ((x <<< 2 ||| y >>> 4) &&& 3) <<< 4 ||| (y <<< 4 ||| z >>> 2) >>> 4 = y ∧
      ((y <<< 4 ||| z >>> 2) &&& 15) <<< 2 ||| (z <<< 6 ||| u) >>> 6 = z ∧
      (z <<< 6 ||| u) &&& 63 = u := by
  obtain ⟨hx₆, hx₇⟩ := upper_bits hx
  obtain ⟨hy₆, hy₇⟩ := upper_bits hy
  obtain ⟨hz₆, hz₇⟩ := upper_bits hz
  obtain ⟨hu₆, hu₇⟩ := upper_bits hu
  refine ⟨?_, ?_, ?_, ?_⟩
  · exact eq_of_bits fun i hi => by interval_cases i <;> simp [*]
  · exact eq_of_bits fun i hi => by interval_cases i <;> simp [*]
  · exact eq_of_bits fun i hi => by interval_cases i <;> simp [*]
  · exact eq_of_bits fun i hi => by interval_cases i <;> simp [*]

/-- The byte that a last number has no room for is zero if its fill is. -/
theorem shift_eq_zero_of_fill {n : UInt8} :
    (n &&& 15 = 0 → n <<< 4 = 0) ∧ (n &&& 3 = 0 → n <<< 6 = 0) := by
  constructor
  · intro hfill
    have hshift : n <<< 4 = (n &&& 15) <<< 4 :=
      eq_of_bits fun i hi => by interval_cases i <;> simp
    rw [hshift, hfill]
    rfl
  · intro hfill
    have hshift : n <<< 6 = (n &&& 3) <<< 6 :=
      eq_of_bits fun i hi => by interval_cases i <;> simp
    rw [hshift, hfill]
    rfl

/-! ## Writing what was read -/

/-- Where a computation succeeds that looks up a number first, the symbol is that of the number. -/
theorem exists_of_value_bind {α : Type} {offset : Nat} {s : UInt8} {f : UInt8 → Except Fault α}
    {result : α} (h : (value offset s >>= f) = .ok result) :
    ∃ n, n < 64 ∧ symbolOf n = s ∧ f n = .ok result := by
  unfold value at h
  cases hn : valueOf? s with
  | none =>
    rw [hn] at h
    cases h
  | some n =>
    rw [hn] at h
    obtain ⟨hlt, hsymbol⟩ := symbolOf_of_valueOf? hn
    exact ⟨n, hlt, hsymbol, h⟩

/-- The numbers of a whole group are written with its symbols. -/
theorem symbols_group {x y z u : UInt8} (hx : x < 64) (hy : y < 64) (hz : z < 64) (hu : u < 64)
    (rest : List UInt8) :
    symbols ((x <<< 2 ||| y >>> 4) :: (y <<< 4 ||| z >>> 2) :: (z <<< 6 ||| u) :: rest)
      = symbolOf x :: symbolOf y :: symbolOf z :: symbolOf u :: symbols rest := by
  obtain ⟨hx', hy', hz', hu'⟩ := sextets_of_bytes hx hy hz hu
  rw [symbols, hx', hy', hz', hu']

/-- Two numbers, the second of which fills up a byte. -/
theorem symbols_pair {x y : UInt8} (hx : x < 64) (hy : y < 64) (hfill : y &&& 15 = 0) :
    symbols [x <<< 2 ||| y >>> 4] = [symbolOf x, symbolOf y] := by
  obtain ⟨hx', hy', -⟩ := sextets_of_bytes hx hy (show (0 : UInt8) < 64 by decide)
    (show (0 : UInt8) < 64 by decide)
  have hzero : (y <<< 4 ||| (0 : UInt8) >>> 2) >>> 4 = 0 := by rw [shift_eq_zero_of_fill.1 hfill]; rfl
  rw [hzero, UInt8.or_zero] at hy'
  rw [symbols, hx', hy']

/-- Three numbers, the third of which fills up a byte. -/
theorem symbols_triple {x y z : UInt8} (hx : x < 64) (hy : y < 64) (hz : z < 64)
    (hfill : z &&& 3 = 0) :
    symbols [x <<< 2 ||| y >>> 4, y <<< 4 ||| z >>> 2] = [symbolOf x, symbolOf y, symbolOf z] := by
  obtain ⟨hx', hy', hz', -⟩ := sextets_of_bytes hx hy hz (show (0 : UInt8) < 64 by decide)
  have hzero : (z <<< 6 ||| 0) >>> 6 = 0 := by rw [shift_eq_zero_of_fill.2 hfill]; rfl
  rw [hzero, UInt8.or_zero] at hz'
  rw [symbols, hx', hy', hz']

/-- **The last group is written with the symbols from which it was read.** It has four symbols at
the most. -/
theorem symbols_of_decodeTail {acc bytes : List UInt8} {offset : Nat} {group : List UInt8}
    (hgroup : group.length ≤ 4) (h : decodeTail acc offset group = .ok bytes) :
    ∃ last, bytes = acc.reverse ++ last ∧ symbols last = group := by
  unfold decodeTail at h
  split at h
  · cases h
    exact ⟨[], (List.append_nil _).symm, rfl⟩
  · obtain ⟨_, -, -, h⟩ := exists_of_value_bind h
    cases h
  · obtain ⟨x, hx, hsx, h⟩ := exists_of_value_bind h
    obtain ⟨y, hy, hsy, h⟩ := exists_of_value_bind h
    by_cases hfill : y &&& 15 = 0
    · rw [if_neg (not_not_intro hfill)] at h
      cases h
      rw [← hsx, ← hsy]
      exact ⟨_, List.reverse_cons, symbols_pair hx hy hfill⟩
    · rw [if_pos hfill] at h
      cases h
  · obtain ⟨x, hx, hsx, h⟩ := exists_of_value_bind h
    obtain ⟨y, hy, hsy, h⟩ := exists_of_value_bind h
    split at h
    · cases h
    obtain ⟨z, hz, hsz, h⟩ := exists_of_value_bind h
    by_cases hfill : z &&& 3 = 0
    · rw [if_neg (not_not_intro hfill)] at h
      cases h
      rw [← hsx, ← hsy, ← hsz]
      exact ⟨_, by simp, symbols_triple hx hy hz hfill⟩
    · rw [if_pos hfill] at h
      cases h
  · rename_i a b c d rest
    have hrest : rest = [] := by
      apply List.eq_nil_of_length_eq_zero
      simp only [List.length_cons] at hgroup
      omega
    obtain ⟨x, hx, hsx, h⟩ := exists_of_value_bind h
    obtain ⟨y, hy, hsy, h⟩ := exists_of_value_bind h
    by_cases hpad : c = paddingSign
    · simp only [if_pos hpad] at h
      split at h <;> cases h
    simp only [if_neg hpad] at h
    obtain ⟨z, hz, hsz, h⟩ := exists_of_value_bind h
    by_cases hend : d = paddingSign
    · simp only [if_pos hend] at h
      cases h
    simp only [if_neg hend] at h
    obtain ⟨u, hu, hsu, h⟩ := exists_of_value_bind h
    cases h
    rw [hrest, ← hsx, ← hsy, ← hsz, ← hsu]
    exact ⟨_, by simp, symbols_group hx hy hz hu []⟩

/-- **What was read is written with the same symbols.** -/
theorem symbols_of_decodeOnto {acc bytes : List UInt8} {offset : Nat} {codes : List UInt8}
    (h : decodeOnto acc offset codes = .ok bytes) :
    ∃ last, bytes = acc.reverse ++ last ∧ symbols last = codes := by
  fun_induction decodeOnto acc offset codes with
  | case1 acc offset a b c d e rest ih =>
    obtain ⟨x, hx, hsx, h⟩ := exists_of_value_bind h
    obtain ⟨y, hy, hsy, h⟩ := exists_of_value_bind h
    obtain ⟨z, hz, hsz, h⟩ := exists_of_value_bind h
    obtain ⟨u, hu, hsu, h⟩ := exists_of_value_bind h
    obtain ⟨last, hbytes, hlast⟩ := ih x y z u h
    refine ⟨_, ?_, (symbols_group hx hy hz hu last).trans ?_⟩
    · rw [hbytes]
      simp
    · rw [hsx, hsy, hsz, hsu, hlast]
  | case2 acc offset tail htail =>
    apply symbols_of_decodeTail _ h
    by_contra hlong
    match tail, hlong with
    | a :: b :: c :: d :: e :: rest, _ => exact htail a b c d e rest rfl
    | [], hlong | [_], hlong | [_, _], hlong | [_, _, _], hlong | [_, _, _, _], hlong =>
      simp at hlong

/-- **A byte sequence is read from its own text and from no other.** -/
theorem decode_eq_ok_iff {text : String} {bytes : List UInt8} :
    decode text = .ok bytes ↔ encode bytes = text := by
  constructor
  · intro h
    unfold decode at h
    cases hstray : strayEnd? (utf8Bytes text) with
    | some fault => simp [hstray] at h
    | none =>
      simp only [hstray] at h
      obtain ⟨last, hbytes, hsymbols⟩ := symbols_of_decodeOnto h
      rw [List.reverse_nil, List.nil_append] at hbytes
      apply utf8Bytes_inj
      rw [utf8Bytes_encode, hbytes, hsymbols]
  · rintro rfl
    exact decode_encode bytes

/-! ## The alphabet -/

/-- A character that may stand in a text: a letter or a digit of ASCII, a hyphen or an underscore. -/
def isTextChar (c : Char) : Bool := c.isAlphanum || c = '-' || c = '_'

private theorem isTextChar_fin (n : Fin 64) :
    isTextChar (Char.ofNat (symbolOf (UInt8.ofNat n.val)).toNat) = true := by
  revert n
  decide

/-- A text that is written holds no other characters. -/
theorem isTextChar_of_mem_encode {bytes : List UInt8} {c : Char} (h : c ∈ (encode bytes).toList) :
    isTextChar c = true := by
  rw [encode, encodeOnto_eq, String.toList_ofList, List.reverse_nil, List.nil_append] at h
  obtain ⟨s, hs, rfl⟩ := List.mem_map.1 h
  obtain ⟨n, hn, rfl⟩ := exists_of_mem_symbols hs
  have hfin := isTextChar_fin ⟨n.toNat, UInt8.lt_iff_toNat_lt.1 hn⟩
  simpa only [UInt8.ofNat_toNat] using hfin

end Base64Url

open Wire

namespace Token

variable {t : Token} {text : String}

/-- **A token is read from its own text form and from no other text.** -/
theorem decodeUrl_eq_ok_iff : decodeUrl text = .ok t ↔ t.encodeUrl = .ok text := by
  constructor
  · intro h
    unfold decodeUrl at h
    cases hbytes : Base64Url.decode text with
    | error fault => simp [hbytes] at h
    | ok bytes =>
      simp only [hbytes] at h
      rw [encodeUrl_of_encode (decode_eq_ok_iff.1 h), Base64Url.decode_eq_ok_iff.1 hbytes]
  · exact decodeUrl_of_encodeUrl

/-- A text that is read as no token is malformed, as a text or as the bytes that it writes. -/
theorem malformed_of_decodeUrl (h : ∀ t, decodeUrl text ≠ .ok t) :
    ∃ flaw, decodeUrl text = .error (.malformedToken flaw) := by
  unfold decodeUrl at h ⊢
  cases hbytes : Base64Url.decode text with
  | error fault => exact ⟨.notBase64 fault, rfl⟩
  | ok bytes =>
    simp only [hbytes] at h
    exact exists_of_mapError_ne_ok h

end Token

/-- **Tokens and their texts correspond.** A token is read from its own text form and from no other
text, so that no two texts are read as the same token. Every token that has a wire form has a text
form and is read back from it. A text form consists of letters, digits, hyphens and underscores;
there is no other spelling of it, with padding or blanks or other symbols or with anything in the
bits that are left over. A text that is the form of no token is refused as malformed. -/
theorem token_texts_correspond :
    (∀ text t, Token.decodeUrl text = .ok t ↔ t.encodeUrl = .ok text) ∧
    (∀ text text' t, Token.decodeUrl text = .ok t → Token.decodeUrl text' = .ok t →
      text = text') ∧
    (∀ (t : Token) bytes, t.encode = .ok bytes →
      ∃ text, t.encodeUrl = .ok text ∧ Token.decodeUrl text = .ok t) ∧
    (∀ text t, Token.decodeUrl text = .ok t →
      ∀ c ∈ text.toList, c.isAlphanum = true ∨ c = '-' ∨ c = '_') ∧
    (∀ text, (∀ t : Token, t.encodeUrl ≠ .ok text) →
      ∃ flaw, Token.decodeUrl text = .error (.malformedToken flaw)) := by
  refine ⟨fun _ _ => Token.decodeUrl_eq_ok_iff, ?_, ?_, ?_, ?_⟩
  · intro text text' t h h'
    have hform := Token.decodeUrl_eq_ok_iff.1 h
    rw [Token.decodeUrl_eq_ok_iff.1 h'] at hform
    exact (Except.ok.inj hform).symm
  · intro t bytes h
    have hform := Token.encodeUrl_of_encode h
    exact ⟨_, hform, Token.decodeUrl_of_encodeUrl hform⟩
  · intro text t h c hc
    cases hbytes : Base64Url.decode text with
    | error fault => simp [Token.decodeUrl, hbytes] at h
    | ok bytes =>
      rw [← Base64Url.decode_eq_ok_iff.1 hbytes] at hc
      have hchar := Base64Url.isTextChar_of_mem_encode hc
      simpa [Base64Url.isTextChar, or_assoc] using hchar
  · intro text hnone
    exact Token.malformed_of_decodeUrl fun t h => hnone t (Token.decodeUrl_eq_ok_iff.1 h)

end BlockAccess
