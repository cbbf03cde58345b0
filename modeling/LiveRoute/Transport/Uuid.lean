import LiveRoute.Library.Positional

/-! Identifiers as text: `parse_uuid` and `format_uuid`. -/
namespace LiveRoute.Transport
open Positional List

def hexDigits : List Char :=
  ['0', '1', '2', '3', '4', '5', '6', '7', '8', '9', 'a', 'b', 'c', 'd', 'e', 'f']

/-- Lowercase digits only; the source's -1 is `none`. -/
def hexValue (character : Char) : Option Nat :=
  if '0' ≤ character ∧ character ≤ '9' then some (character.toNat - '0'.toNat)
  else if 'a' ≤ character ∧ character ≤ 'f' then some (character.toNat - 'a'.toNat + 10)
  else none

def parseUuidFrom : List Char → List Nat → Option (List Nat)
  | [], bytes => if bytes.length = 16 then some bytes else none
  | '-' :: rest, bytes => parseUuidFrom rest bytes
  | [_], _ => none
  | first :: second :: rest, bytes =>
    if 16 ≤ bytes.length then none
    else
      match hexValue first, hexValue second with
      | some high, some low => parseUuidFrom rest (bytes ++ [high * 16 + low])
      | _, _ => none

def uuidOfBytes (bytes : List Nat) : BitVec 128 := BitVec.ofNat 128 (value 256 bytes)

def uuidBytes (uuid : BitVec 128) : List Nat := digits 256 16 uuid.toNat

def dashPositions : List Nat := [8, 13, 18, 23]

def parseUuid (text : String) : Option (BitVec 128) :=
  let characters := text.toList
  if !decide (characters.length = 36) ||
      dashPositions.any fun index => decide (characters[index]? ≠ some '-') then none
  else (parseUuidFrom characters []).map uuidOfBytes

def hexDigit (digit : Nat) : Char := hexDigits.getD digit '0'

def formatUuidFrom : Nat → List Nat → List Char
  | _, [] => []
  | index, byte :: rest =>
    (if index = 4 ∨ index = 6 ∨ index = 8 ∨ index = 10 then ['-'] else []) ++
      hexDigit (byte / 16) :: hexDigit (byte % 16) :: formatUuidFrom (index + 1) rest

def formatUuid (uuid : BitVec 128) : String := String.ofList (formatUuidFrom 0 (uuidBytes uuid))

theorem hexValue_hexDigit : ∀ digit < 16, hexValue (hexDigit digit) = some digit := by decide

theorem hexDigit_ne_dash : ∀ digit < 16, hexDigit digit ≠ '-' := by decide

theorem parseUuidFrom_byte (hbyte : byte < 256) (rest : List Char) {bytes : List Nat}
    (hroom : bytes.length < 16) :
    parseUuidFrom (hexDigit (byte / 16) :: hexDigit (byte % 16) :: rest) bytes =
      parseUuidFrom rest (bytes ++ [byte]) := by
  have hhigh : byte / 16 < 16 := by omega
  have hlow : byte % 16 < 16 := Nat.mod_lt _ (by decide)
  rw [parseUuidFrom, if_neg (Nat.not_le_of_lt hroom), hexValue_hexDigit _ hhigh,
    hexValue_hexDigit _ hlow]
  · simp only [Nat.div_add_mod' byte 16]
  · exact hexDigit_ne_dash _ hhigh

theorem parseUuidFrom_formatUuidFrom (hbytes : ∀ byte ∈ remaining, byte < 256)
    (index : Nat) {bytes : List Nat} (hlen : bytes.length + remaining.length = 16) :
    parseUuidFrom (formatUuidFrom index remaining) bytes = some (bytes ++ remaining) := by
  induction remaining generalizing index bytes with
  | nil => simpa [formatUuidFrom, parseUuidFrom] using hlen
  | cons byte rest ih =>
    obtain ⟨hbyte, hrest⟩ := forall_mem_cons.mp hbytes
    have hroom : bytes.length < 16 := by
      rw [length_cons] at hlen
      omega
    have hnext : parseUuidFrom (formatUuidFrom (index + 1) rest) (bytes ++ [byte]) =
        some (bytes ++ byte :: rest) := by
      rw [ih hrest (index + 1) (by simp at hlen ⊢; omega), append_assoc]
      rfl
    unfold formatUuidFrom
    split
    · rw [singleton_append, parseUuidFrom, parseUuidFrom_byte hbyte _ hroom, hnext]
    · rw [nil_append, parseUuidFrom_byte hbyte _ hroom, hnext]

/-- The shape that `parse_uuid` looks at first. -/
theorem formatUuidFrom_shape : {bytes : List Nat} → bytes.length = 16 →
    (formatUuidFrom 0 bytes).length = 36 ∧
      ∀ index ∈ dashPositions, (formatUuidFrom 0 bytes)[index]? = some '-'
  | [_, _, _, _, _, _, _, _, _, _, _, _, _, _, _, _], _ => by simp [formatUuidFrom, dashPositions]

theorem parseUuid_formatUuid (uuid : BitVec 128) : parseUuid (formatUuid uuid) = some uuid := by
  have hlen : (uuidBytes uuid).length = 16 := by rw [uuidBytes, length_digits]
  have hbytes : ∀ byte ∈ uuidBytes uuid, byte < 256 := by
    intro byte hmem
    exact digit_lt (by decide) hmem
  have hread : parseUuidFrom (formatUuidFrom 0 (uuidBytes uuid)) [] = some (uuidBytes uuid) := by
    rw [parseUuidFrom_formatUuidFrom hbytes 0, nil_append]
    rw [hlen, length_nil]
  obtain ⟨hsize, hdashes⟩ := formatUuidFrom_shape hlen
  have hfits : uuid.toNat < 256 ^ 16 := by
    exact uuid.isLt
  have hvalue : uuidOfBytes (uuidBytes uuid) = uuid := by
    rw [uuidOfBytes, uuidBytes, value_digits hfits, BitVec.ofNat_toNat, BitVec.setWidth_eq]
  have hdash : (dashPositions.any fun index =>
      decide ((formatUuidFrom 0 (uuidBytes uuid))[index]? ≠ some '-')) = false := by
    rw [any_eq_false]
    intro index hmem
    simp [hdashes index hmem]
  simp only [parseUuid, formatUuid, String.toList_ofList, hsize, hdash, hread, Option.map_some,
    hvalue, decide_true, Bool.not_true, Bool.or_false, Bool.false_eq_true, if_false]

end LiveRoute.Transport
