/-
  ShardBridge.Proofs.Text.Utf8

  Strict reading is the inverse of writing: a byte string is text exactly when
  it is the bytes of that text (`decode_eq_ok_iff`), and characters are read one
  by one whatever bytes follow them (`decode_encode_append`).  An ASCII byte
  stands for its own character and for nothing else (`mem_encode_iff`).  What is
  text here is valid UTF-8 for the core library, and a text has the same bytes
  (`isValidUTF8_iff`, `toByteArray_bytesOf`).
-/
import Mathlib.Data.List.Basic
import ShardBridge.Text.Utf8

namespace ShardBridge.Text.Utf8

/-! ## Numbers of characters and bytes -/

theorem toNat_charOfNat {n : Nat} (h : n.isValidChar) : (Char.ofNat n).toNat = n := by
  rw [Char.ofNat, dif_pos h]
  rfl

theorem toNat_byteOfNat {n : Nat} (h : n < 0x100) : (UInt8.ofNat n).toNat = n := by
  rw [UInt8.toNat_ofNat']
  omega

theorem byteOfNat_eq {n : Nat} {b : UInt8} (h : n = b.toNat) : UInt8.ofNat n = b := by
  rw [h, UInt8.ofNat_toNat]

theorem isTail_iff {b : UInt8} : isTail b = true ↔ 0x80 ≤ b.toNat ∧ b.toNat ≤ 0xBF := by
  simp [isTail, UInt8.le_iff_toNat_le]

theorem isSecondOfThree_iff {a b : UInt8} : isSecondOfThree a b = true ↔
    (if a.toNat = 0xE0 then 0xA0 else 0x80) ≤ b.toNat ∧
      b.toNat ≤ (if a.toNat = 0xED then 0x9F else 0xBF) := by
  have h₁ : a = 0xE0 ↔ a.toNat = 0xE0 := UInt8.toNat_inj.symm
  have h₂ : a = 0xED ↔ a.toNat = 0xED := UInt8.toNat_inj.symm
  rw [isSecondOfThree, Bool.and_eq_true, decide_eq_true_eq, decide_eq_true_eq,
    UInt8.le_iff_toNat_le, UInt8.le_iff_toNat_le]
  simp only [h₁, h₂]
  split <;> split <;> rfl

theorem isSecondOfFour_iff {a b : UInt8} : isSecondOfFour a b = true ↔
    (if a.toNat = 0xF0 then 0x90 else 0x80) ≤ b.toNat ∧
      b.toNat ≤ (if a.toNat = 0xF4 then 0x8F else 0xBF) := by
  have h₁ : a = 0xF0 ↔ a.toNat = 0xF0 := UInt8.toNat_inj.symm
  have h₂ : a = 0xF4 ↔ a.toNat = 0xF4 := UInt8.toNat_inj.symm
  rw [isSecondOfFour, Bool.and_eq_true, decide_eq_true_eq, decide_eq_true_eq,
    UInt8.le_iff_toNat_le, UInt8.le_iff_toNat_le]
  simp only [h₁, h₂]
  split <;> split <;> rfl

/-! ## Single characters -/

theorem firstPiece_one {a : UInt8} (ha : a.toNat < 0x80) (rest : List UInt8) :
    firstPiece a rest = .whole (Char.ofNat a.toNat) := by
  have h : a < 0x80 := UInt8.lt_iff_toNat_lt.2 ha
  rw [firstPiece.eq_def, if_pos h]

theorem firstPiece_two {a b : UInt8} (ha : 0xC2 ≤ a.toNat) (ha' : a.toNat ≤ 0xDF)
    (hb : isTail b = true) (rest : List UInt8) :
    firstPiece a (b :: rest) = .whole (ofTwo a b) := by
  have h₁ : ¬ a < 0x80 := by rw [UInt8.lt_iff_toNat_lt]; simp; omega
  have h₂ : (decide (0xC2 ≤ a) && decide (a ≤ 0xDF)) = true := by
    simp [UInt8.le_iff_toNat_le]; omega
  rw [firstPiece.eq_def, if_neg h₁, if_pos h₂]
  simp [hb]

theorem firstPiece_three {a b c : UInt8} (ha : 0xE0 ≤ a.toNat) (ha' : a.toNat ≤ 0xEF)
    (hb : isSecondOfThree a b = true) (hc : isTail c = true) (rest : List UInt8) :
    firstPiece a (b :: c :: rest) = .whole (ofThree a b c) := by
  have h₁ : ¬ a < 0x80 := by rw [UInt8.lt_iff_toNat_lt]; simp; omega
  have h₂ : ¬ (decide (0xC2 ≤ a) && decide (a ≤ 0xDF)) = true := by
    simp [UInt8.le_iff_toNat_le]; omega
  have h₃ : (decide (0xE0 ≤ a) && decide (a ≤ 0xEF)) = true := by
    simp [UInt8.le_iff_toNat_le]; omega
  rw [firstPiece.eq_def, if_neg h₁, if_neg h₂, if_pos h₃]
  simp [hb, hc]

theorem firstPiece_four {a b c d : UInt8} (ha : 0xF0 ≤ a.toNat) (ha' : a.toNat ≤ 0xF4)
    (hb : isSecondOfFour a b = true) (hc : isTail c = true) (hd : isTail d = true)
    (rest : List UInt8) :
    firstPiece a (b :: c :: d :: rest) = .whole (ofFour a b c d) := by
  have h₁ : ¬ a < 0x80 := by rw [UInt8.lt_iff_toNat_lt]; simp; omega
  have h₂ : ¬ (decide (0xC2 ≤ a) && decide (a ≤ 0xDF)) = true := by
    simp [UInt8.le_iff_toNat_le]; omega
  have h₃ : ¬ (decide (0xE0 ≤ a) && decide (a ≤ 0xEF)) = true := by
    simp [UInt8.le_iff_toNat_le]; omega
  have h₄ : (decide (0xF0 ≤ a) && decide (a ≤ 0xF4)) = true := by
    simp [UInt8.le_iff_toNat_le]; omega
  rw [firstPiece.eq_def, if_neg h₁, if_neg h₂, if_neg h₃, if_pos h₄]
  simp [hb, hc, hd]

/-- The bytes of a character are read as this character, whatever follows them. -/
theorem firstPiece_encodeChar (c : Char) (rest : List UInt8) :
    ∃ a tail, encodeChar c = a :: tail ∧ firstPiece a (tail ++ rest) = .whole c := by
  have hvalid : c.toNat < 0xD800 ∨ 0xDFFF < c.toNat ∧ c.toNat < 0x110000 := c.valid
  have hself : Char.ofNat c.toNat = c := Char.ofNat_toNat c
  generalize hn : c.toNat = n at hvalid hself
  rw [encodeChar, hn]
  -- By the number of bytes.
  split
  · have ha := @toNat_byteOfNat n (by omega)
    refine ⟨_, _, rfl, ?_⟩
    rw [firstPiece_one (by omega), ha, hself]
  · split
    · have ha := @toNat_byteOfNat (0xC0 + n / 0x40) (by omega)
      have hb := @toNat_byteOfNat (0x80 + n % 0x40) (by omega)
      have hsum : (0xC0 + n / 0x40 - 0xC0) * 0x40 + (0x80 + n % 0x40 - 0x80) = n := by omega
      refine ⟨_, _, rfl, (firstPiece_two ?_ ?_ (isTail_iff.2 ?_) rest).trans ?_⟩
      · omega
      · omega
      · omega
      · rw [ofTwo, ha, hb, hsum, hself]
    · split
      · have ha := @toNat_byteOfNat (0xE0 + n / 0x1000) (by omega)
        have hb := @toNat_byteOfNat (0x80 + n / 0x40 % 0x40) (by omega)
        have hc := @toNat_byteOfNat (0x80 + n % 0x40) (by omega)
        have hsum : (0xE0 + n / 0x1000 - 0xE0) * 0x1000 + (0x80 + n / 0x40 % 0x40 - 0x80) * 0x40 +
            (0x80 + n % 0x40 - 0x80) = n := by omega
        refine ⟨_, _, rfl, (firstPiece_three ?_ ?_ (isSecondOfThree_iff.2 ?_) (isTail_iff.2 ?_)
          rest).trans ?_⟩
        · omega
        · omega
        · rw [ha, hb]
          split <;> split <;> omega
        · omega
        · rw [ofThree, ha, hb, hc, hsum, hself]
      · have ha := @toNat_byteOfNat (0xF0 + n / 0x40000) (by omega)
        have hb := @toNat_byteOfNat (0x80 + n / 0x1000 % 0x40) (by omega)
        have hc := @toNat_byteOfNat (0x80 + n / 0x40 % 0x40) (by omega)
        have hd := @toNat_byteOfNat (0x80 + n % 0x40) (by omega)
        have hsum : (0xF0 + n / 0x40000 - 0xF0) * 0x40000 +
            (0x80 + n / 0x1000 % 0x40 - 0x80) * 0x1000 + (0x80 + n / 0x40 % 0x40 - 0x80) * 0x40 +
              (0x80 + n % 0x40 - 0x80) = n := by omega
        refine ⟨_, _, rfl, (firstPiece_four ?_ ?_ (isSecondOfFour_iff.2 ?_) (isTail_iff.2 ?_)
          (isTail_iff.2 ?_) rest).trans ?_⟩
        · omega
        · omega
        · rw [ha, hb]
          split <;> split <;> omega
        · omega
        · omega
        · rw [ofFour, ha, hb, hc, hd, hsum, hself]

theorem encodeChar_ofTwo {a b : UInt8} (ha : 0xC2 ≤ a.toNat) (ha' : a.toNat ≤ 0xDF)
    (hb : isTail b = true) : encodeChar (ofTwo a b) = [a, b] := by
  rw [isTail_iff] at hb
  have hn : (ofTwo a b).toNat = (a.toNat - 0xC0) * 0x40 + (b.toNat - 0x80) :=
    toNat_charOfNat (by unfold Nat.isValidChar; omega)
  rw [encodeChar, hn]
  rw [if_neg (by omega), if_pos (by omega), byteOfNat_eq (b := a) (by omega),
    byteOfNat_eq (b := b) (by omega)]

theorem encodeChar_ofThree {a b c : UInt8} (ha : 0xE0 ≤ a.toNat) (ha' : a.toNat ≤ 0xEF)
    (hb : isSecondOfThree a b = true) (hc : isTail c = true) :
    encodeChar (ofThree a b c) = [a, b, c] := by
  rw [isSecondOfThree_iff] at hb
  rw [isTail_iff] at hc
  have hn : (ofThree a b c).toNat =
      (a.toNat - 0xE0) * 0x1000 + (b.toNat - 0x80) * 0x40 + (c.toNat - 0x80) :=
    toNat_charOfNat (by unfold Nat.isValidChar; grind)
  rw [encodeChar, hn]
  have hb' : 0x80 ≤ b.toNat ∧ b.toNat ≤ 0xBF ∧ (a.toNat = 0xE0 → 0xA0 ≤ b.toNat) := by grind
  rw [if_neg (by omega), if_neg (by omega), if_pos (by omega), byteOfNat_eq (b := a) (by omega),
    byteOfNat_eq (b := b) (by omega), byteOfNat_eq (b := c) (by omega)]

theorem encodeChar_ofFour {a b c d : UInt8} (ha : 0xF0 ≤ a.toNat) (ha' : a.toNat ≤ 0xF4)
    (hb : isSecondOfFour a b = true) (hc : isTail c = true) (hd : isTail d = true) :
    encodeChar (ofFour a b c d) = [a, b, c, d] := by
  rw [isSecondOfFour_iff] at hb
  rw [isTail_iff] at hc hd
  have hb' : 0x80 ≤ b.toNat ∧ b.toNat ≤ 0xBF ∧ (a.toNat = 0xF0 → 0x90 ≤ b.toNat) ∧
      (a.toNat = 0xF4 → b.toNat ≤ 0x8F) := by grind
  have hn : (ofFour a b c d).toNat = (a.toNat - 0xF0) * 0x40000 + (b.toNat - 0x80) * 0x1000 +
      (c.toNat - 0x80) * 0x40 + (d.toNat - 0x80) :=
    toNat_charOfNat (by unfold Nat.isValidChar; omega)
  rw [encodeChar, hn]
  rw [if_neg (by omega), if_neg (by omega), if_neg (by omega), byteOfNat_eq (b := a) (by omega),
    byteOfNat_eq (b := b) (by omega), byteOfNat_eq (b := c) (by omega),
    byteOfNat_eq (b := d) (by omega)]

/-- What is read as a character are its bytes. -/
theorem encodeChar_of_firstPiece {a : UInt8} {rest : List UInt8} {c : Char}
    (h : firstPiece a rest = .whole c) : ∃ rest', a :: rest = encodeChar c ++ rest' := by
  revert h
  fun_cases firstPiece a rest with
  | case1 rest ha =>
    intro h
    obtain rfl := Piece.whole.inj h
    have hlt : a.toNat < 0x80 := UInt8.lt_iff_toNat_lt.1 ha
    have hn : (Char.ofNat a.toNat).toNat = a.toNat := toNat_charOfNat (.inl (by omega))
    refine ⟨rest, ?_⟩
    rw [encodeChar, hn, if_pos hlt, UInt8.ofNat_toNat]
    rfl
  | case3 _ ha b rest hb =>
    intro h
    obtain rfl := Piece.whole.inj h
    simp only [UInt8.le_iff_toNat_le, Bool.and_eq_true, decide_eq_true_eq] at ha
    exact ⟨rest, by rw [encodeChar_ofTwo ha.1 ha.2 hb]; rfl⟩
  | case7 _ _ ha b hb c rest hc =>
    intro h
    obtain rfl := Piece.whole.inj h
    simp only [UInt8.le_iff_toNat_le, Bool.and_eq_true, decide_eq_true_eq] at ha
    exact ⟨rest, by rw [encodeChar_ofThree ha.1 ha.2 hb hc]; rfl⟩
  | case13 _ _ _ ha b hb c hc d rest hd =>
    intro h
    obtain rfl := Piece.whole.inj h
    simp only [UInt8.le_iff_toNat_le, Bool.and_eq_true, decide_eq_true_eq] at ha
    exact ⟨rest, by rw [encodeChar_ofFour ha.1 ha.2 hb hc hd]; rfl⟩
  | _ => intro h; cases h

/-! ## Byte strings -/

theorem piecesAfter_eq (n : Nat) (bytes : List UInt8) :
    piecesAfter n bytes = pieces (bytes.drop n) := by
  induction n generalizing bytes with
  | zero => rfl
  | succ n ih =>
    cases bytes with
    | nil => rfl
    | cons b bytes => exact ih bytes

/-- The first piece is a character with the bytes of the character; the others are those of the
    bytes after it. -/
theorem pieces_encodeChar (c : Char) (rest : List UInt8) :
    pieces (encodeChar c ++ rest) = .whole c :: pieces rest := by
  obtain ⟨a, tail, hbytes, hfirst⟩ := firstPiece_encodeChar c rest
  have hlength : (Piece.whole c).length - 1 = tail.length := by
    rw [Piece.length, width, hbytes, List.length_cons, Nat.add_sub_cancel]
  rw [hbytes, List.cons_append, pieces, piecesAfter, hfirst, hlength, piecesAfter_eq,
    List.drop_left]

theorem textOf_encode (offset : Nat) (text : List Char) (rest : List UInt8) :
    textOf offset (pieces (encode text ++ rest)) =
      (textOf (offset + (encode text).length) (pieces rest)).map (text ++ ·) := by
  induction text generalizing offset with
  | nil =>
    show textOf offset (pieces rest) = (textOf offset (pieces rest)).map ([] ++ ·)
    cases textOf offset (pieces rest) <;> rfl
  | cons c text ih =>
    have hbytes : encode (c :: text) = encodeChar c ++ encode text := rfl
    rw [hbytes, List.append_assoc, pieces_encodeChar, textOf, ih, List.length_append,
      ← Nat.add_assoc, ← width]
    cases textOf (offset + width c + (encode text).length) (pieces rest) <;> rfl

theorem eq_encode_of_textOf {offset : Nat} {bytes : List UInt8} {text : List Char}
    (h : textOf offset (pieces bytes) = .ok text) : bytes = encode text := by
  induction hn : bytes.length using Nat.strongRecOn generalizing offset bytes text with
  | _ n ih =>
    cases bytes with
    | nil =>
      obtain rfl := Except.ok.inj h
      rfl
    | cons a rest =>
      have hpieces : pieces (a :: rest) =
          firstPiece a rest :: piecesAfter ((firstPiece a rest).length - 1) rest := rfl
      -- Only a whole character goes on to a text.
      cases hfirst : firstPiece a rest with
      | bad n =>
        rw [hpieces, hfirst] at h
        cases h
      | cut n =>
        rw [hpieces, hfirst] at h
        cases h
      | whole c =>
        obtain ⟨rest', hrest⟩ := encodeChar_of_firstPiece hfirst
        rw [hrest, pieces_encodeChar, textOf] at h
        have hlt : rest'.length < n := by
          have hpos : 0 < (encodeChar c).length := by
            obtain ⟨b, tail, hbytes, -⟩ := firstPiece_encodeChar c []
            rw [hbytes]
            exact Nat.succ_pos _
          rw [← hn, hrest, List.length_append]
          omega
        cases hmore : textOf (offset + width c) (pieces rest') with
        | error m =>
          rw [hmore] at h
          cases h
        | ok more =>
          rw [hmore] at h
          obtain rfl := Except.ok.inj h
          rw [hrest, ih _ hlt hmore rfl]
          rfl

/-- A byte string is text exactly when it is the bytes of that text. -/
theorem decode_eq_ok_iff {bytes : List UInt8} {text : List Char} :
    decode bytes = .ok text ↔ bytes = encode text := by
  constructor
  · exact eq_encode_of_textOf
  · rintro rfl
    have h := textOf_encode 0 text []
    rw [List.append_nil] at h
    rw [decode, h]
    exact congrArg Except.ok (List.append_nil text)

/-- Different texts have different bytes. -/
theorem encode_inj {text text' : List Char} : encode text = encode text' ↔ text = text' := by
  constructor
  · intro h
    have htext : decode (encode text) = .ok text := decode_eq_ok_iff.2 rfl
    rw [h, decode_eq_ok_iff.2 rfl] at htext
    exact (Except.ok.inj htext).symm
  · rintro rfl
    rfl

/-- When bytes go on after the bytes of a text, and all of them are text, this text goes on too. -/
theorem encode_append_eq {text all : List Char} {rest : List UInt8}
    (h : encode text ++ rest = encode all) : ∃ more, all = text ++ more ∧ rest = encode more := by
  have hall := decode_eq_ok_iff.2 h
  rw [decode, textOf_encode] at hall
  cases hmore : textOf (0 + (encode text).length) (pieces rest) with
  | error m =>
    rw [hmore] at hall
    cases hall
  | ok more =>
    rw [hmore] at hall
    exact ⟨more, (Except.ok.inj hall).symm, eq_encode_of_textOf hmore⟩

/-! ## ASCII -/

/-- An ASCII byte is the only byte of its character, and no byte of another. -/
theorem mem_encodeChar_iff {b : UInt8} {c : Char} (hb : b.toNat < 0x80) :
    b ∈ encodeChar c ↔ c.toNat = b.toNat := by
  have hvalid : c.toNat < 0xD800 ∨ 0xDFFF < c.toNat ∧ c.toNat < 0x110000 := c.valid
  have hbyte : ∀ n < 0x100, b = UInt8.ofNat n ↔ b.toNat = n := by
    intro n hn
    rw [← UInt8.toNat_inj, toNat_byteOfNat hn]
  rw [encodeChar]
  split
  · rw [List.mem_singleton, hbyte _ (by omega), eq_comm]
  · -- All bytes of the longer forms are past the ASCII bytes.
    have hne : c.toNat ≠ b.toNat := by omega
    split
    · simp only [List.mem_cons, List.not_mem_nil, or_false]
      rw [hbyte _ (by omega), hbyte _ (by omega)]
      omega
    · split
      · simp only [List.mem_cons, List.not_mem_nil, or_false]
        rw [hbyte _ (by omega), hbyte _ (by omega), hbyte _ (by omega)]
        omega
      · simp only [List.mem_cons, List.not_mem_nil, or_false]
        rw [hbyte _ (by omega), hbyte _ (by omega), hbyte _ (by omega), hbyte _ (by omega)]
        omega

theorem mem_encode_iff {b : UInt8} {text : List Char} (hb : b.toNat < 0x80) :
    b ∈ encode text ↔ Char.ofNat b.toNat ∈ text := by
  rw [encode, List.mem_flatMap]
  constructor
  · rintro ⟨c, hc, hmem⟩
    rw [← (mem_encodeChar_iff hb).1 hmem, Char.ofNat_toNat]
    exact hc
  · intro hmem
    exact ⟨_, hmem, (mem_encodeChar_iff hb).2 (toNat_charOfNat (.inl (by omega)))⟩

/-! ## Strings -/

theorem encodeChar_eq (c : Char) : encodeChar c = String.utf8EncodeChar c := by
  have hvalid : c.toNat < 0xD800 ∨ 0xDFFF < c.toNat ∧ c.toNat < 0x110000 := c.valid
  rw [encodeChar, String.utf8EncodeChar, show c.val.toNat = c.toNat from rfl]
  generalize c.toNat = n at hvalid
  -- The same four ranges, with the marks of the bytes added on the other side.
  by_cases hone : n < 0x80
  · have hone' : n ≤ 127 := by omega
    rw [if_pos hone, if_pos hone']
  have hone' : ¬ n ≤ 127 := by omega
  rw [if_neg hone, if_neg hone']
  by_cases htwo : n < 0x800
  · have htwo' : n ≤ 2047 := by omega
    have hfirst : 0xC0 + n / 0x40 = n / 64 % 32 + 192 := by omega
    rw [if_pos htwo, if_pos htwo', hfirst, Nat.add_comm 0x80]
  have htwo' : ¬ n ≤ 2047 := by omega
  rw [if_neg htwo, if_neg htwo']
  by_cases hthree : n < 0x10000
  · have hthree' : n ≤ 65535 := by omega
    have hfirst : 0xE0 + n / 0x1000 = n / 4096 % 16 + 224 := by omega
    rw [if_pos hthree, if_pos hthree', hfirst, Nat.add_comm 0x80, Nat.add_comm 0x80]
  have hthree' : ¬ n ≤ 65535 := by omega
  have hfirst : 0xF0 + n / 0x40000 = n / 262144 % 8 + 240 := by omega
  rw [if_neg hthree, if_neg hthree', hfirst, Nat.add_comm 0x80, Nat.add_comm 0x80,
    Nat.add_comm 0x80]

theorem toByteArray_bytesOf (text : String) : (bytesOf text).toByteArray = text.toByteArray := by
  have hchars : encodeChar = String.utf8EncodeChar := funext encodeChar_eq
  rw [bytesOf, encode, hchars, ← String.utf8Encode_toList, List.utf8Encode]

theorem isValidUTF8_iff {bytes : List UInt8} :
    bytes.toByteArray.IsValidUTF8 ↔ ∃ text, decode bytes = .ok text := by
  have hchars : encodeChar = String.utf8EncodeChar := funext encodeChar_eq
  constructor
  · rintro ⟨text, htext⟩
    refine ⟨text, decode_eq_ok_iff.2 ?_⟩
    rw [encode, hchars]
    exact List.toByteArray_inj.1 htext
  · rintro ⟨text, htext⟩
    refine ⟨text, ?_⟩
    rw [decode_eq_ok_iff.1 htext, encode, hchars, List.utf8Encode]

end ShardBridge.Text.Utf8
