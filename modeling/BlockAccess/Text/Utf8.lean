/-!
# Text as bytes

Text travels in UTF-8. `utf8Bytes` writes a text as bytes and `readUtf8` reads bytes as a text. A
sequence that is no text is refused with its `Utf8Fault`: how many bytes before it are sound, and
how many bytes the unsound part has, unless the input ends inside a character.

## Main results

* `readUtf8_eq_ok_iff` — a text is read from exactly the bytes that it is written as.
-/

namespace BlockAccess

/-- Where and how a byte sequence stops being text. -/
structure Utf8Fault where
  /-- The number of leading bytes that form whole characters. -/
  validUpTo : Nat
  /-- The length of the unsound sequence; `none` if the input ends inside a character. -/
  length? : Option Nat
  deriving DecidableEq, Repr

/-- The bytes of a text. -/
def utf8Bytes (s : String) : List UInt8 := s.toByteArray.data.toList

/-- The range that the second byte of a character must lie in, given the first. -/
def secondByteRange (first : UInt8) : UInt8 × UInt8 :=
  if first = 0xE0 then (0xA0, 0xBF)
  else if first = 0xED then (0x80, 0x9F)
  else if first = 0xF0 then (0x90, 0xBF)
  else if first = 0xF4 then (0x80, 0x8F)
  else (0x80, 0xBF)

def isSecondByte (first b : UInt8) : Bool :=
  (secondByteRange first).1 ≤ b && b ≤ (secondByteRange first).2

def isTailByte (b : UInt8) : Bool := 0x80 ≤ b && b ≤ 0xBF

/-- How many bytes a character has that begins with `first`; `none` if no character does. -/
def characterWidth (first : UInt8) : Option (Fin 4) :=
  if first < 0x80 then some 0
  else if first < 0xC2 then none
  else if first < 0xE0 then some 1
  else if first < 0xF0 then some 2
  else if first < 0xF5 then some 3
  else none

/-- The first place where the bytes are no text, looked for from position `pos` on. Where all of
them are sound, this is their end. -/
def firstUtf8Fault (pos : Nat) : List UInt8 → Utf8Fault
  | [] => ⟨pos, none⟩
  | a :: rest =>
    match characterWidth a with
    | none => ⟨pos, some 1⟩
    | some 0 => firstUtf8Fault (pos + 1) rest
    | some width =>
      match rest with
      | [] => ⟨pos, none⟩
      | b :: rest =>
        if !isSecondByte a b then ⟨pos, some 1⟩
        else if width = 1 then firstUtf8Fault (pos + 2) rest
        else
          match rest with
          | [] => ⟨pos, none⟩
          | c :: rest =>
            if !isTailByte c then ⟨pos, some 2⟩
            else if width = 2 then firstUtf8Fault (pos + 3) rest
            else
              match rest with
              | [] => ⟨pos, none⟩
              | d :: rest =>
                if !isTailByte d then ⟨pos, some 3⟩
                else firstUtf8Fault (pos + 4) rest

/-- **The text that the bytes spell,** or where they stop being text. -/
def readUtf8 (bytes : List UInt8) : Except Utf8Fault String :=
  match String.fromUTF8? ⟨bytes.toArray⟩ with
  | some s => .ok s
  | none => .error (firstUtf8Fault 0 bytes)

theorem utf8Bytes_inj {s t : String} (h : utf8Bytes s = utf8Bytes t) : s = t := by
  apply String.toByteArray_inj.1
  apply ByteArray.ext
  exact Array.toList_inj.1 h

theorem readUtf8_utf8Bytes (s : String) : readUtf8 (utf8Bytes s) = .ok s := by
  have hbytes : (⟨(utf8Bytes s).toArray⟩ : ByteArray) = s.toByteArray := by
    apply ByteArray.ext
    simp [utf8Bytes]
  have hread : String.fromUTF8? s.toByteArray = some s := by
    unfold String.fromUTF8?
    rw [dif_pos s.isValidUTF8]
    rfl
  simp only [readUtf8, hbytes, hread]

theorem eq_utf8Bytes_of_readUtf8 {bytes : List UInt8} {s : String}
    (h : readUtf8 bytes = .ok s) : bytes = utf8Bytes s := by
  unfold readUtf8 String.fromUTF8? at h
  split at h
  · rename_i t ht
    split at ht
    · cases h
      cases ht
      rfl
    · cases ht
  · cases h

/-- **A text is read from its own bytes and from no others.** -/
theorem readUtf8_eq_ok_iff {bytes : List UInt8} {s : String} :
    readUtf8 bytes = .ok s ↔ bytes = utf8Bytes s :=
  ⟨eq_utf8Bytes_of_readUtf8, fun h => h ▸ readUtf8_utf8Bytes s⟩

theorem length_utf8Bytes (s : String) : (utf8Bytes s).length = s.utf8ByteSize := rfl

end BlockAccess
