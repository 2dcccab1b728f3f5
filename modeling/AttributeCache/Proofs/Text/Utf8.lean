import AttributeCache.Text.Utf8
import Mathlib.Data.List.Basic
import Mathlib.Tactic.IntervalCases
/-!
# Text survives UTF-8

Decoding the bytes of a text gives its characters back, all of them known.
A character is one to four bytes; where its first byte narrows the range of
the second, the character's own range is what keeps the second inside.
-/

namespace AttributeCache.Text

variable {byte : UInt8} {rest : Bytes} {u : Unfinished} {v n value missing least greatest : Nat}

/-! ## The bytes of a text -/

theorem toList_loop (bytes : ByteArray) (i : Nat) (before : List UInt8) :
    ByteArray.toList.loop bytes i before = before.reverse ++ bytes.data.toList.drop i := by
  rw [ByteArray.toList.loop]
  split
  · rename_i hlt
    have hget : bytes.data.toList.drop i = bytes.get! i :: bytes.data.toList.drop (i + 1) := by
      rw [List.drop_eq_getElem_cons (by simpa using hlt)]
      simp [ByteArray.get!, hlt]
    rw [toList_loop, hget, List.reverse_cons, List.append_assoc, List.singleton_append]
  · rename_i hge
    have hend : bytes.data.toList.length ≤ i := by simpa using hge
    rw [List.drop_eq_nil_of_le hend, List.append_nil]
termination_by bytes.size - i

/-- The bytes of a text are those of its characters. -/
theorem encode_eq (s : String) : encode s = s.toList.flatMap String.utf8EncodeChar := by
  have hbytes : s.toByteArray = (s.toList.flatMap String.utf8EncodeChar).toByteArray := by
    rw [← String.utf8Encode_toList]
    rfl
  rw [encode, String.toUTF8_eq_toByteArray, hbytes, ByteArray.toList, toList_loop,
    List.toList_data_toByteArray]
  rfl

/-! ## What the first byte says -/

theorem firstByte_two (hle : 2 ≤ n) (hlt : n < 32) :
    FirstByte.of (0xC0 + n) = .begins ⟨n, 1, 0x80, 0xBF⟩ := by
  interval_cases n <;> rfl

theorem firstByte_three (hlt : n < 16) :
    FirstByte.of (0xE0 + n) =
      .begins ⟨n, 2, if n = 0 then 0xA0 else 0x80, if n = 13 then 0x9F else 0xBF⟩ := by
  interval_cases n <;> rfl

theorem firstByte_four (hlt : n < 5) :
    FirstByte.of (0xF0 + n) =
      .begins ⟨n, 3, if n = 0 then 0x90 else 0x80, if n = 4 then 0x8F else 0xBF⟩ := by
  interval_cases n <;> rfl

/-! ## Byte by byte -/

theorem decodeFrom_begins (h : FirstByte.of byte.toNat = .begins u) :
    decodeFrom none (byte :: rest) = decodeFrom (some u) rest := by
  rw [decodeFrom]
  simp only [h]

/-- A byte that is asked for, with others to come. -/
theorem decodeFrom_more (hbyte : byte.toNat = 0x80 + n) (hle : least ≤ 0x80 + n)
    (hge : 0x80 + n ≤ greatest) :
    decodeFrom (some ⟨value, missing + 2, least, greatest⟩) (byte :: rest) =
      decodeFrom (some ⟨value * 64 + n, missing + 1, 0x80, 0xBF⟩) rest := by
  rw [decodeFrom, hbyte, Nat.add_sub_cancel_left]
  simp [hle, hge]

/-- A byte that is asked for, the last one. -/
theorem decodeFrom_last (hbyte : byte.toNat = 0x80 + n) (hle : least ≤ 0x80 + n)
    (hge : 0x80 + n ≤ greatest) :
    decodeFrom (some ⟨value, 1, least, greatest⟩) (byte :: rest) =
      some (Char.ofNat (value * 64 + n)) :: decodeFrom none rest := by
  rw [decodeFrom, hbyte, Nat.add_sub_cancel_left]
  simp [hle, hge]

/-! ## Character by character -/

theorem toNat_ofNat (h : n < 0x100) : (UInt8.ofNat n).toNat = n :=
  UInt8.toNat_ofNat_of_lt' h

/-- A byte that goes on with a character holds six bits of it. -/
theorem toNat_six : (UInt8.ofNat (v % 0x40 + 0x80)).toNat = 0x80 + v % 64 := by
  rw [toNat_ofNat (by omega), Nat.add_comm]

theorem decodeFrom_one (h : v ≤ 0x7F) :
    decodeFrom none (UInt8.ofNat v :: rest) = some (Char.ofNat v) :: decodeFrom none rest := by
  rw [decodeFrom, toNat_ofNat (by omega), FirstByte.of, if_pos (by omega)]

theorem decodeFrom_two (h : 0x7F < v) (h' : v ≤ 0x7FF) :
    decodeFrom none (UInt8.ofNat (v / 64 % 0x20 + 0xc0) ::
        UInt8.ofNat (v % 0x40 + 0x80) :: rest) =
      some (Char.ofNat v) :: decodeFrom none rest := by
  have hfirst : (UInt8.ofNat (v / 64 % 0x20 + 0xc0)).toNat = 0xC0 + v / 64 := by
    rw [toNat_ofNat (by omega)]
    omega
  have hbegins := hfirst ▸ firstByte_two (n := v / 64) (by omega) (by omega)
  rw [decodeFrom_begins hbegins, decodeFrom_last toNat_six (by omega) (by omega),
    Nat.div_add_mod']

theorem decodeFrom_three (h : 0x7FF < v) (h' : v ≤ 0xFFFF) (hvalid : v < 0xD800 ∨ 0xDFFF < v) :
    decodeFrom none (UInt8.ofNat (v / 4096 % 0x10 + 0xe0) ::
        UInt8.ofNat (v / 64 % 0x40 + 0x80) :: UInt8.ofNat (v % 0x40 + 0x80) :: rest) =
      some (Char.ofNat v) :: decodeFrom none rest := by
  have hfirst : (UInt8.ofNat (v / 4096 % 0x10 + 0xe0)).toNat = 0xE0 + v / 4096 := by
    rw [toNat_ofNat (by omega)]
    omega
  have hbegins := hfirst ▸ firstByte_three (n := v / 4096) (by omega)
  -- the second byte is bounded where fewer bytes would do and where a surrogate would come out
  have hvalue : (v / 4096 * 64 + v / 64 % 64) * 64 + v % 64 = v := by omega
  rw [decodeFrom_begins hbegins, decodeFrom_more toNat_six, decodeFrom_last toNat_six (by omega)
    (by omega), hvalue]
  · split <;> omega
  · split <;> omega

theorem decodeFrom_four (h : 0xFFFF < v) (hvalid : v < 0x110000) :
    decodeFrom none (UInt8.ofNat (v / 262144 % 0x08 + 0xf0) ::
        UInt8.ofNat (v / 4096 % 0x40 + 0x80) :: UInt8.ofNat (v / 64 % 0x40 + 0x80) ::
        UInt8.ofNat (v % 0x40 + 0x80) :: rest) =
      some (Char.ofNat v) :: decodeFrom none rest := by
  have hfirst : (UInt8.ofNat (v / 262144 % 0x08 + 0xf0)).toNat = 0xF0 + v / 262144 := by
    rw [toNat_ofNat (by omega)]
    omega
  have hbegins := hfirst ▸ firstByte_four (n := v / 262144) (by omega)
  have hvalue : ((v / 262144 * 64 + v / 4096 % 64) * 64 + v / 64 % 64) * 64 + v % 64 = v := by
    omega
  rw [decodeFrom_begins hbegins, decodeFrom_more toNat_six,
    decodeFrom_more toNat_six (by omega) (by omega),
    decodeFrom_last toNat_six (by omega) (by omega), hvalue]
  · split <;> omega
  · split <;> omega

/-- **A character comes back from its bytes**, whatever follows them. -/
theorem decodeFrom_utf8EncodeChar (c : Char) (rest : Bytes) :
    decodeFrom none (String.utf8EncodeChar c ++ rest) = some c :: decodeFrom none rest := by
  have hvalid : c.toNat < 0xD800 ∨ 0xDFFF < c.toNat ∧ c.toNat < 0x110000 := c.valid
  have hc : Char.ofNat c.toNat = c := Char.ofNat_toNat c
  suffices h : decodeFrom none (String.utf8EncodeChar c ++ rest) =
      some (Char.ofNat c.toNat) :: decodeFrom none rest by rwa [hc] at h
  fun_cases String.utf8EncodeChar c with
  | case1 v h => exact decodeFrom_one h
  | case2 v h h' => exact decodeFrom_two (Nat.not_le.1 h) h'
  | case3 v h h' h'' => exact decodeFrom_three (Nat.not_le.1 h') h'' (hvalid.imp_right (·.1))
  | case4 v h h' h'' =>
    have hbound : c.toNat < 0x110000 := by omega
    exact decodeFrom_four (Nat.not_le.1 h'') hbound

/-- **A text comes back from its bytes.** -/
theorem decode_encode (s : String) : decode (encode s) = s.toList.map some := by
  rw [decode, encode_eq]
  induction s.toList with
  | nil => rfl
  | cons c rest ih => rw [List.flatMap_cons, decodeFrom_utf8EncodeChar, ih, List.map_cons]

end AttributeCache.Text
