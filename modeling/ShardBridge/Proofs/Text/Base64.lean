/-
  ShardBridge.Proofs.Text.Base64

  Bytes and the one text that spells them.  Three bytes are the same number as
  four characters of the alphabet, and the last one or two are filled up with
  zeros and padding (`Base64.Spells`).  The decoder gives bytes for a text
  exactly when the text spells them, and the encoder writes that text
  (`Base64.decodeText_eq_ok_iff`, `Base64.spells_iff`): whatever the length of
  the bytes, and with no second text for the same bytes.
-/
import ShardBridge.Base64
import ShardBridge.Proofs.Text.Utf8

namespace ShardBridge.Base64

/-! ## The alphabet -/

/-- The characters of the numbers below 64. -/
def alphabet : List Char :=
  "ABCDEFGHIJKLMNOPQRSTUVWXYZabcdefghijklmnopqrstuvwxyz0123456789+/".toList

/-- The character of a byte below 128. -/
def asciiChar (b : UInt8) : Char := Char.ofNat b.toNat

theorem alphabet_eq {n : Nat} (h : n < 64) : alphabet[n]? = some (asciiChar (symbol n)) := by
  have hall : ∀ n < 64, alphabet[n]? = some (asciiChar (symbol n)) := by decide
  exact hall n h

theorem alphabet_eq_some_iff {n : Nat} {c : Char} :
    alphabet[n]? = some c ↔ n < 64 ∧ c = asciiChar (symbol n) := by
  by_cases hn : n < 64
  · rw [alphabet_eq hn, Option.some_inj, and_iff_right hn, eq_comm]
  · have hlength : alphabet.length = 64 := by decide
    rw [List.getElem?_eq_none (by omega)]
    simp [hn]

theorem symbolValue_symbol {n : Nat} (h : n < 64) : symbolValue (symbol n) = some n := by
  have hall : ∀ n < 64, symbolValue (symbol n) = some n := by decide
  exact hall n h

theorem symbol_of_symbolValue {b : UInt8} {n : Nat} (h : symbolValue b = some n) :
    n < 64 ∧ symbol n = b := by
  have hall : ∀ m < 256, (symbolValue (UInt8.ofNat m)).all
      (fun n => n < 64 && symbol n == UInt8.ofNat m) = true := by decide +kernel
  have hb := hall b.toNat b.toNat_lt
  rw [UInt8.ofNat_toNat, h] at hb
  simpa using hb

theorem symbol_ne_pad {n : Nat} (h : n < 64) : symbol n ≠ pad := by
  have hall : ∀ n < 64, symbol n ≠ pad := by decide
  exact hall n h

theorem toNat_symbol_lt {n : Nat} (h : n < 64) : (symbol n).toNat < 0x80 := by
  have hall : ∀ n < 64, (symbol n).toNat < 0x80 := by decide
  exact hall n h

theorem valueAt_eq_ok_iff {b : UInt8} {offset n : Nat} :
    valueAt b offset = .ok n ↔ n < 64 ∧ b = symbol n := by
  rw [valueAt]
  constructor
  · intro h
    split at h
    · next m hm =>
      cases h
      obtain ⟨hlt, rfl⟩ := symbol_of_symbolValue hm
      exact ⟨hlt, rfl⟩
    · cases h
  · rintro ⟨h, rfl⟩
    rw [symbolValue_symbol h]

/-! ## Groups -/

section Groups

variable {a b c : UInt8} {w x y z offset : Nat} (hw : w < 64) (hx : x < 64)

include hw hx

/-- Three bytes are the same 24 bits as four symbols. -/
theorem wholeGroup_eq_iff (hy : y < 64) (hz : z < 64) : wholeGroup w x y z = [a, b, c] ↔
    a.toNat * 65536 + b.toNat * 256 + c.toNat = w * 262144 + x * 4096 + y * 64 + z := by
  have ha := a.toNat_lt
  have hb := b.toNat_lt
  have hc := c.toNat_lt
  simp only [wholeGroup, List.cons.injEq, and_true, ← UInt8.toNat_inj]
  rw [Text.Utf8.toNat_byteOfNat (by omega), Text.Utf8.toNat_byteOfNat (by omega),
    Text.Utf8.toNat_byteOfNat (by omega)]
  omega

/-- Two bytes and two zero bits are the same 18 bits as three symbols. -/
theorem lastTwo_eq_ok_iff (hy : y < 64) {last : UInt8} {bytes : List UInt8} :
    lastTwo w x y last offset = .ok bytes ↔ ∃ a b : UInt8, bytes = [a, b] ∧
      (a.toNat * 256 + b.toNat) * 4 = w * 4096 + x * 64 + y := by
  rw [lastTwo]
  constructor
  · intro h
    split at h
    · next hbits =>
      cases h
      refine ⟨_, _, rfl, ?_⟩
      rw [Text.Utf8.toNat_byteOfNat (by omega), Text.Utf8.toNat_byteOfNat (by omega)]
      omega
    · cases h
  · rintro ⟨a, b, rfl, h⟩
    have hb := b.toNat_lt
    rw [if_pos (by omega), Text.Utf8.byteOfNat_eq (b := a) (by omega),
      Text.Utf8.byteOfNat_eq (b := b) (by omega)]

/-- A byte and four zero bits are the same 12 bits as two symbols. -/
theorem lastOne_eq_ok_iff {last : UInt8} {bytes : List UInt8} :
    lastOne w x last offset = .ok bytes ↔ ∃ a : UInt8, bytes = [a] ∧
      a.toNat * 16 = w * 64 + x := by
  rw [lastOne]
  constructor
  · intro h
    split at h
    · next hbits =>
      cases h
      refine ⟨_, rfl, ?_⟩
      rw [Text.Utf8.toNat_byteOfNat (by omega)]
      omega
    · cases h
  · rintro ⟨a, rfl, h⟩
    rw [if_pos (by omega), Text.Utf8.byteOfNat_eq (b := a) (by omega)]

end Groups

/-! ## Spelling -/

/-- The text spells the bytes: four characters for three bytes, and a last group filled up with
    zero bits and padding. -/
inductive Spells : List UInt8 → List Char → Prop
  | nil : Spells [] []
  | one {a : UInt8} {w x : Nat} {c d : Char} (hc : alphabet[w]? = some c)
    (hd : alphabet[x]? = some d) (hbits : a.toNat * 16 = w * 64 + x) :
    Spells [a] [c, d, '=', '=']
  | two {a b : UInt8} {w x y : Nat} {c d e : Char} (hc : alphabet[w]? = some c)
    (hd : alphabet[x]? = some d) (he : alphabet[y]? = some e)
    (hbits : (a.toNat * 256 + b.toNat) * 4 = w * 4096 + x * 64 + y) :
    Spells [a, b] [c, d, e, '=']
  | three {a₁ a₂ a₃ : UInt8} {w x y z : Nat} {c d e f : Char} {bytes : List UInt8}
    {text : List Char} (hc : alphabet[w]? = some c) (hd : alphabet[x]? = some d)
    (he : alphabet[y]? = some e) (hf : alphabet[z]? = some f)
    (hbits : a₁.toNat * 65536 + a₂.toNat * 256 + a₃.toNat = w * 262144 + x * 4096 + y * 64 + z)
    (hrest : Spells bytes text) :
    Spells (a₁ :: a₂ :: a₃ :: bytes) (c :: d :: e :: f :: text)

/-! ## Writing -/

section Writing

variable {a b c : UInt8} {w x y z : Nat}

theorem encode_one (hx : x < 64) (hbits : a.toNat * 16 = w * 64 + x) :
    encode [a] = [symbol w, symbol x, pad, pad] := by
  have hw' : a.toNat / 4 = w := by omega
  have hx' : a.toNat % 4 * 16 = x := by omega
  rw [encode, hw', hx']

theorem encode_two (hx : x < 64) (hy : y < 64)
    (hbits : (a.toNat * 256 + b.toNat) * 4 = w * 4096 + x * 64 + y) :
    encode [a, b] = [symbol w, symbol x, symbol y, pad] := by
  have hw' : (a.toNat * 256 + b.toNat) / 1024 = w := by omega
  have hx' : (a.toNat * 256 + b.toNat) / 16 % 64 = x := by omega
  have hy' : (a.toNat * 256 + b.toNat) % 16 * 4 = y := by omega
  rw [encode, hw', hx', hy']

theorem encode_three (hx : x < 64) (hy : y < 64) (hz : z < 64)
    (hbits : a.toNat * 65536 + b.toNat * 256 + c.toNat = w * 262144 + x * 4096 + y * 64 + z)
    (rest : List UInt8) : encode (a :: b :: c :: rest) =
      symbol w :: symbol x :: symbol y :: symbol z :: encode rest := by
  have hw' : (a.toNat * 65536 + b.toNat * 256 + c.toNat) / 262144 = w := by omega
  have hx' : (a.toNat * 65536 + b.toNat * 256 + c.toNat) / 4096 % 64 = x := by omega
  have hy' : (a.toNat * 65536 + b.toNat * 256 + c.toNat) / 64 % 64 = y := by omega
  have hz' : (a.toNat * 65536 + b.toNat * 256 + c.toNat) % 64 = z := by omega
  rw [encode, hw', hx', hy', hz']

/-- A group of bytes is written as the symbols that it is read from. -/
theorem encode_wholeGroup (hw : w < 64) (hx : x < 64) (hy : y < 64) (hz : z < 64)
    (rest : List UInt8) : encode (wholeGroup w x y z ++ rest) =
      symbol w :: symbol x :: symbol y :: symbol z :: encode rest :=
  encode_three hx hy hz ((wholeGroup_eq_iff hw hx hy hz).1 rfl) rest

end Writing

theorem eq_encode_of_spells {bytes : List UInt8} {text : List Char} (h : Spells bytes text) :
    text = (encode bytes).map asciiChar := by
  induction h with
  | nil => rfl
  | one hc hd hbits =>
    obtain ⟨-, rfl⟩ := alphabet_eq_some_iff.1 hc
    obtain ⟨hx, rfl⟩ := alphabet_eq_some_iff.1 hd
    rw [encode_one hx hbits]
    rfl
  | two hc hd he hbits =>
    obtain ⟨-, rfl⟩ := alphabet_eq_some_iff.1 hc
    obtain ⟨hx, rfl⟩ := alphabet_eq_some_iff.1 hd
    obtain ⟨hy, rfl⟩ := alphabet_eq_some_iff.1 he
    rw [encode_two hx hy hbits]
    rfl
  | three hc hd he hf hbits hrest ih =>
    obtain ⟨-, rfl⟩ := alphabet_eq_some_iff.1 hc
    obtain ⟨hx, rfl⟩ := alphabet_eq_some_iff.1 hd
    obtain ⟨hy, rfl⟩ := alphabet_eq_some_iff.1 he
    obtain ⟨hz, rfl⟩ := alphabet_eq_some_iff.1 hf
    rw [encode_three hx hy hz hbits, ih]
    rfl

theorem spells_encode (bytes : List UInt8) : Spells bytes ((encode bytes).map asciiChar) := by
  induction bytes using encode.induct with
  | case1 => exact .nil
  | case2 a =>
    have ha := a.toNat_lt
    exact .one (alphabet_eq (by omega)) (alphabet_eq (by omega)) (by omega)
  | case3 a b =>
    have ha := a.toNat_lt
    have hb := b.toNat_lt
    exact .two (alphabet_eq (by omega)) (alphabet_eq (by omega)) (alphabet_eq (by omega))
      (by omega)
  | case4 a b c rest ih =>
    have ha := a.toNat_lt
    have hb := b.toNat_lt
    have hc := c.toNat_lt
    exact .three (alphabet_eq (by omega)) (alphabet_eq (by omega)) (alphabet_eq (by omega))
      (alphabet_eq (by omega)) (by omega) ih

/-- The encoder writes the one text that spells the bytes. -/
theorem spells_iff {bytes : List UInt8} {text : List Char} :
    Spells bytes text ↔ text = (encode bytes).map asciiChar := by
  constructor
  · exact eq_encode_of_spells
  · rintro rfl
    exact spells_encode bytes

/-! ## Reading -/

theorem bind_eq_ok_iff {α β : Type} {x : Except Error α} {f : α → Except Error β} {b : β} :
    x >>= f = .ok b ↔ ∃ a, x = .ok a ∧ f a = .ok b := by
  cases x <;> simp [bind, Except.bind]

/-- The last group is read only when it is what the encoder writes. -/
theorem eq_encode_of_decodeLast {offset : Nat} {text bytes : List UInt8} (hlength : text.length ≤ 4)
    (h : decodeLast offset text = .ok bytes) : text = encode bytes := by
  match text with
  | [] =>
    cases h
    rfl
  | [a] => simp [decodeLast, bind_eq_ok_iff] at h
  | [a, b] => simp [decodeLast, bind_eq_ok_iff] at h
  | [a, b, c] =>
    simp only [decodeLast, bind_eq_ok_iff] at h
    obtain ⟨w, -, x, -, h⟩ := h
    split at h
    · simp [bind_eq_ok_iff] at h
    · cases h
  | a :: b :: c :: d :: rest =>
    have hrest : rest = [] := by
      apply List.eq_nil_of_length_eq_zero
      simp only [List.length_cons] at hlength
      omega
    subst hrest
    simp only [decodeLast, bind_eq_ok_iff, valueAt_eq_ok_iff] at h
    obtain ⟨w, ⟨hw, rfl⟩, x, ⟨hx, rfl⟩, h⟩ := h
    -- Where the padding begins says how many bytes are left: one, two or three.
    by_cases hc : c = pad
    · rw [if_pos hc] at h
      split at h
      · next hd =>
        obtain ⟨a, rfl, hbits⟩ := (lastOne_eq_ok_iff hw hx).1 h
        rw [encode_one hx hbits, hc, hd]
      · cases h
    · simp only [if_neg hc, bind_eq_ok_iff, valueAt_eq_ok_iff] at h
      obtain ⟨y, ⟨hy, rfl⟩, h⟩ := h
      split at h
      · next hd =>
        obtain ⟨a, b, rfl, hbits⟩ := (lastTwo_eq_ok_iff hw hx hy).1 h
        rw [encode_two hx hy hbits, hd]
      · simp only [bind_eq_ok_iff, valueAt_eq_ok_iff] at h
        obtain ⟨z, ⟨hz, rfl⟩, h⟩ := h
        cases h
        exact (encode_wholeGroup hw hx hy hz []).symm

theorem eq_encode_of_decodeFrom {offset : Nat} {text bytes : List UInt8}
    (h : decodeFrom offset text = .ok bytes) : text = encode bytes := by
  -- Along the groups; the last one is the first that has nothing after it.
  induction offset, text using decodeFrom.induct generalizing bytes with
  | case1 offset a b c d e rest ih =>
    simp only [decodeFrom, bind_eq_ok_iff, valueAt_eq_ok_iff] at h
    obtain ⟨w, ⟨hw, rfl⟩, x, ⟨hx, rfl⟩, y, ⟨hy, rfl⟩, z, ⟨hz, rfl⟩, bytes', hbytes', h⟩ := h
    cases h
    rw [encode_wholeGroup hw hx hy hz, ih hbytes']
  | case2 offset text hshort =>
    rw [decodeFrom] at h
    · apply eq_encode_of_decodeLast _ h
      match text, hshort with
      | [], _ | [_], _ | [_, _], _ | [_, _, _], _ | [_, _, _, _], _ => simp
      | a :: b :: c :: d :: e :: rest, hshort => exact (hshort a b c d e rest rfl).elim
    · exact hshort

theorem valueAt_symbol {n : Nat} (h : n < 64) (offset : Nat) : valueAt (symbol n) offset = .ok n :=
  valueAt_eq_ok_iff.2 ⟨h, rfl⟩

/-- Whole groups are read one after the other, also when nothing comes after the last one. -/
theorem decodeFrom_symbols {w x y z : Nat} (hw : w < 64) (hx : x < 64) (hy : y < 64) (hz : z < 64)
    (offset : Nat) {rest bytes : List UInt8} (h : ∀ offset, decodeFrom offset rest = .ok bytes) :
    decodeFrom offset (symbol w :: symbol x :: symbol y :: symbol z :: rest) =
      .ok (wholeGroup w x y z ++ bytes) := by
  cases rest with
  | nil =>
    -- The group is now the last one, whose own reader finds no padding in it.
    cases h 0
    simp only [decodeFrom, decodeLast, valueAt_symbol, symbol_ne_pad, if_false, hw, hx, hy, hz]
    rfl
  | cons e rest =>
    simp only [decodeFrom, valueAt_symbol, h, hw, hx, hy, hz]
    rfl

theorem decodeFrom_two {w x y : Nat} (hw : w < 64) (hx : x < 64) (hy : y < 64) (offset : Nat) :
    decodeFrom offset [symbol w, symbol x, symbol y, pad] =
      lastTwo w x y (symbol y) offset := by
  simp only [decodeFrom, decodeLast, valueAt_symbol, symbol_ne_pad, if_false, if_true, hw, hx, hy]
  rfl

theorem decodeFrom_one {w x : Nat} (hw : w < 64) (hx : x < 64) (offset : Nat) :
    decodeFrom offset [symbol w, symbol x, pad, pad] = lastOne w x (symbol x) offset := by
  simp only [decodeFrom, decodeLast, valueAt_symbol, if_true, hw, hx]
  rfl

theorem decodeFrom_encode (offset : Nat) (bytes : List UInt8) :
    decodeFrom offset (encode bytes) = .ok bytes := by
  induction bytes using encode.induct generalizing offset with
  | case1 => rfl
  | case2 a =>
    have ha := a.toNat_lt
    have hw : a.toNat / 4 < 64 := by omega
    have hx : a.toNat % 4 * 16 < 64 := by omega
    rw [encode, decodeFrom_one hw hx, lastOne_eq_ok_iff hw hx]
    exact ⟨a, rfl, by omega⟩
  | case3 a b =>
    have ha := a.toNat_lt
    have hb := b.toNat_lt
    rw [encode, decodeFrom_two (by omega) (by omega) (by omega),
      lastTwo_eq_ok_iff (by omega) (by omega) (by omega)]
    exact ⟨a, b, rfl, by omega⟩
  | case4 a b c rest ih =>
    have ha := a.toNat_lt
    have hb := b.toNat_lt
    have hc := c.toNat_lt
    rw [encode, decodeFrom_symbols (by omega) (by omega) (by omega) (by omega) _ ih]
    apply congrArg Except.ok
    show _ = [a, b, c] ++ rest
    rw [List.append_cancel_right_eq,
      wholeGroup_eq_iff (by omega) (by omega) (by omega) (by omega)]
    omega

theorem length_encode (bytes : List UInt8) : (encode bytes).length % 4 = 0 := by
  induction bytes using encode.induct with
  | case1 => rfl
  | case2 a => simp [encode]
  | case3 a b => simp [encode]
  | case4 a b c rest ih =>
    simp only [encode, List.length_cons]
    omega

/-- The decoder gives bytes for what the encoder writes, and for nothing else. -/
theorem decode_eq_ok_iff {text bytes : List UInt8} :
    decode text = .ok bytes ↔ text = encode bytes := by
  rw [decode]
  constructor
  · intro h
    split at h
    · cases h
    · exact eq_encode_of_decodeFrom h
  · rintro rfl
    -- No symbol is left over, so nothing is noticed before the groups are read.
    have hstray : strayLast (encode bytes) = none := by
      rw [strayLast, length_encode]
      cases (encode bytes).getLast? <;> rfl
    rw [hstray]
    exact decodeFrom_encode 0 bytes

/-! ## Texts -/

theorem toNat_lt_of_mem_encode {bytes : List UInt8} : ∀ b ∈ encode bytes, b.toNat < 0x80 := by
  have hpad : pad.toNat < 0x80 := by decide
  induction bytes using encode.induct with
  | case1 => exact List.forall_mem_nil _
  | case2 a =>
    have ha := a.toNat_lt
    simp only [encode, List.forall_mem_cons]
    exact ⟨toNat_symbol_lt (by omega), toNat_symbol_lt (by omega), hpad, hpad,
      List.forall_mem_nil _⟩
  | case3 a b =>
    have ha := a.toNat_lt
    have hb := b.toNat_lt
    simp only [encode, List.forall_mem_cons]
    exact ⟨toNat_symbol_lt (by omega), toNat_symbol_lt (by omega), toNat_symbol_lt (by omega),
      hpad, List.forall_mem_nil _⟩
  | case4 a b c rest ih =>
    have ha := a.toNat_lt
    have hb := b.toNat_lt
    have hc := c.toNat_lt
    simp only [encode, List.forall_mem_cons]
    exact ⟨toNat_symbol_lt (by omega), toNat_symbol_lt (by omega), toNat_symbol_lt (by omega),
      toNat_symbol_lt (by omega), ih⟩

/-- Characters below 128 are one byte each. -/
theorem utf8_encode_asciiChar {bytes : List UInt8} (h : ∀ b ∈ bytes, b.toNat < 0x80) :
    Text.Utf8.encode (bytes.map asciiChar) = bytes := by
  induction bytes with
  | nil => rfl
  | cons b bytes ih =>
    rw [List.forall_mem_cons] at h
    have hb : Text.Utf8.encodeChar (asciiChar b) = [b] := by
      have hchar : (asciiChar b).toNat = b.toNat :=
        Text.Utf8.toNat_charOfNat (.inl (by omega))
      rw [Text.Utf8.encodeChar, hchar]
      simp [h.1]
    rw [List.map_cons, Text.Utf8.encode, List.flatMap_cons, hb]
    exact congrArg (b :: ·) (ih h.2)

theorem toList_encodeText (bytes : List UInt8) :
    (encodeText bytes).toList = (encode bytes).map asciiChar :=
  String.toList_ofList

theorem decodeText_eq_ok_iff {text : String} {bytes : List UInt8} :
    decodeText text = .ok bytes ↔ text = encodeText bytes := by
  have hbytes : Text.Utf8.bytesOf (encodeText bytes) = encode bytes := by
    rw [Text.Utf8.bytesOf, toList_encodeText, utf8_encode_asciiChar toNat_lt_of_mem_encode]
  rw [decodeText, decode_eq_ok_iff, ← hbytes, Text.Utf8.bytesOf, Text.Utf8.bytesOf,
    Text.Utf8.encode_inj, String.toList_inj]

/-- A text is decoded to the bytes that it spells. -/
theorem decodeText_eq_ok_iff_spells {text : String} {bytes : List UInt8} :
    decodeText text = .ok bytes ↔ Spells bytes text.toList := by
  rw [decodeText_eq_ok_iff, spells_iff, ← toList_encodeText, String.toList_inj]

end ShardBridge.Base64
