/-
  ShardBridge.Proofs.Toml.Quoting

  Strings that are written can be read.  Whatever the text, and whichever of the
  four styles the writer takes for it, the reader gives the text back and stops
  right after the closing quotes (`Toml.Text.read_render`), provided that no
  further quote follows: the reader would count it as one of the text.

    * `Reads s mark input text rest` -- from the mark on, the reader takes the
      text and leaves the rest;
    * `Piece s piece c` -- the piece stands for the character, which is no quote,
      or for a quote with a backslash before it;
    * `Body s run body text` -- after so many quotes in a row, the body spells
      the text piece by piece, and no more quotes stand in a row than the style
      spares.
-/
import ShardBridge.Toml.Text

namespace ShardBridge.Toml

/-- The styles with escapes. -/
def Style.escaping (long : Bool) : Style := ⟨'"', true, long⟩

/-- The styles without. -/
def Style.verbatim (long : Bool) : Style := ⟨'\'', false, long⟩

namespace Text

/-! ## Steps -/

/-- From the mark on, the reader takes the text from the input and leaves the rest. -/
def Reads (s : Style) (mark : Mark) (input text rest : List Char) : Prop :=
  scan s mark input = some (text, rest)

variable {s : Style} {mark mark' : Mark} {c : Char} {t text input rest : List Char}
  {run : Nat} {long : Bool}

theorem Reads.go (hmove : move s c mark = .go t mark') (h : Reads s mark' input text rest) :
    Reads s mark (c :: input) (t ++ text) rest := by
  rw [Reads] at h ⊢
  rw [scan, hmove]
  dsimp only
  rw [h]
  rfl

theorem reads_of_close (hmove : move s c mark = .close t) : Reads s mark (c :: rest) t rest := by
  rw [Reads, scan, hmove]

theorem reads_of_closeBefore (hmove : move s c mark = .closeBefore t) :
    Reads s mark (c :: rest) t (c :: rest) := by
  rw [Reads, scan, hmove]

theorem reads_of_atEnd (h : atEnd s mark = some t) : Reads s mark [] t [] := by
  rw [Reads, scan, h]
  rfl

/-! ## Quotes in a row -/

/-- The number of quotes in a row that a style takes for text. -/
def spare (s : Style) : Nat := if s.long then spareQuotes else 0

/-- Where the reader stands after so many quotes in a row. -/
def markAfter (run : Nat) : Mark := if run = 0 then .text else .quotes run

theorem spare_le (s : Style) : spare s ≤ 2 := by
  rw [spare]
  split <;> decide

theorem long_of_spare_pos (h : 0 < spare s) : s.long = true := by
  rw [spare] at h
  split at h
  · assumption
  · exact absurd h (Nat.lt_irrefl 0)

/-- A quote is only counted. -/
theorem move_quote (run : Nat) (hlong : s.long = true) (hrun : run < 4) :
    move s s.quote (markAfter run) = .go [] (markAfter (run + 1)) := by
  cases run with
  | zero =>
    show textMove s s.quote = _
    rw [textMove, if_pos rfl, if_pos hlong]
    rfl
  | succ run =>
    have hfew : run + 1 < closingQuotes + spareQuotes - 1 := hrun
    show quotesMove s (run + 1) s.quote = _
    rw [quotesMove, if_pos rfl, if_pos hfew]
    rfl

/-- Another character brings in the quotes before it. -/
theorem move_other (hc : c ≠ s.quote) (hrun : run ≤ 2) :
    move s c (markAfter run) = (textMove s c).after (List.replicate run s.quote) := by
  cases run with
  | zero =>
    show textMove s c = _
    cases textMove s c <;> rfl
  | succ run =>
    have hfew : ¬ closingQuotes ≤ run + 1 := Nat.not_le.2 (Nat.lt_succ_of_le hrun)
    show quotesMove s (run + 1) c = _
    rw [quotesMove, if_neg hc, if_neg hfew]

/-- So what is read from a character on is read with the quotes before it. -/
theorem Reads.after_quotes (hc : c ≠ s.quote) (hrun : run ≤ 2)
    (h : Reads s .text (c :: input) text rest) :
    Reads s (markAfter run) (c :: input) (List.replicate run s.quote ++ text) rest := by
  have htext : move s c .text = textMove s c := rfl
  rw [Reads, scan] at h ⊢
  rw [htext] at h
  rw [move_other hc hrun]
  -- The step is that from the text, with the quotes before whatever it stands for.
  cases hmove : textMove s c with
  | refuse =>
    rw [hmove] at h
    cases h
  | go t mark =>
    rw [hmove] at h
    obtain ⟨r, hr, heq⟩ := Option.map_eq_some_iff.1 h
    obtain ⟨rfl, rfl⟩ := Prod.mk.inj heq
    simp [Move.after, hr]
  | close t =>
    rw [hmove] at h
    obtain ⟨rfl, rfl⟩ := Prod.mk.inj (Option.some.inj h)
    rfl
  | closeBefore t =>
    rw [hmove] at h
    obtain ⟨rfl, rfl⟩ := Prod.mk.inj (Option.some.inj h)
    rfl

/-- Three quotes end a long style, and those before them are text. -/
theorem reads_closing_long (hlong : s.long = true) (hrun : run ≤ 2)
    (hrest : ∀ c ∈ rest.head?, c ≠ s.quote) :
    Reads s (markAfter run) (s.quote :: s.quote :: s.quote :: rest)
      (List.replicate run s.quote) rest := by
  -- With two quotes before them the third of the three is the fifth, and no more are waited for.
  have hfirst := move_quote run hlong (by omega)
  have hsecond := move_quote (run + 1) hlong (by omega)
  rcases Nat.lt_or_ge run 2 with hlt | hge
  · have hthird := move_quote (run + 2) hlong (by omega)
    have hend : Reads s (markAfter (run + 3)) rest (List.replicate run s.quote) rest := by
      have henough : closingQuotes ≤ run + 3 := Nat.le_add_left 3 run
      cases rest with
      | nil =>
        refine reads_of_atEnd ?_
        show (if closingQuotes ≤ run + 3 then _ else none) = _
        rw [if_pos henough]
        rfl
      | cons c rest =>
        refine reads_of_closeBefore ?_
        show quotesMove s (run + 3) c = _
        rw [quotesMove, if_neg (hrest c rfl), if_pos henough]
        rfl
    exact .go hfirst (.go hsecond (.go hthird hend))
  · obtain rfl : run = 2 := Nat.le_antisymm hrun hge
    exact .go hfirst (.go hsecond (reads_of_close (if_pos rfl)))

/-- The closing quotes of a style. -/
theorem reads_closing (hrun : run ≤ spare s) (hrest : ∀ c ∈ rest.head?, c ≠ s.quote) :
    Reads s (markAfter run) (fence s ++ rest) (List.replicate run s.quote) rest := by
  rw [fence]
  by_cases hlong : s.long = true
  · rw [if_pos hlong]
    exact reads_closing_long hlong (Nat.le_trans hrun (spare_le s)) hrest
  · rw [spare, if_neg hlong, Nat.le_zero] at hrun
    subst hrun
    rw [if_neg hlong]
    refine reads_of_close ?_
    show textMove s s.quote = _
    rw [textMove, if_pos rfl, if_neg hlong]
    rfl

/-! ## Pieces -/

/-- The piece stands for the character wherever text is read, and does not begin with a quote, nor
    with a line end unless it stands for a line feed. -/
structure Piece (s : Style) (piece : List Char) (c : Char) : Prop where
  head : ∃ d tail, piece = d :: tail ∧ d ≠ s.quote ∧ d ≠ '\r' ∧ (d = '\n' → c = '\n')
  reads : ∀ {input text rest : List Char}, Reads s .text input text rest →
    Reads s .text (piece ++ input) (c :: text) rest

theorem lineFeed_not_bare : isBare '\n' = false := by decide

theorem carriageReturn_not_bare : isBare '\r' = false := by decide

/-- What is no control stands for itself. -/
theorem piece_bare (hbare : isBare c = true) (hquote : c ≠ s.quote)
    (hescape : ¬ (s.escapes && decide (c = '\\')) = true) : Piece s [c] c where
  head := by
    refine ⟨c, [], rfl, hquote, ?_, id⟩
    rintro rfl
    rw [carriageReturn_not_bare] at hbare
    cases hbare
  reads := by
    intro input text rest h
    have hfeed : ¬ (s.long && decide (c = '\n')) = true := by
      rw [Bool.and_eq_true, decide_eq_true_eq]
      rintro ⟨-, rfl⟩
      rw [lineFeed_not_bare] at hbare
      cases hbare
    have hreturn : ¬ (s.long && decide (c = '\r')) = true := by
      rw [Bool.and_eq_true, decide_eq_true_eq]
      rintro ⟨-, rfl⟩
      rw [carriageReturn_not_bare] at hbare
      cases hbare
    refine .go (t := [c]) ?_ h
    show textMove s c = _
    rw [textMove, if_neg hquote, if_neg hescape, if_neg hfeed, if_neg hreturn, if_pos hbare]

/-- So does a line feed over several lines. -/
theorem piece_lineFeed (hlong : s.long = true) (hquote : s.quote ≠ '\n') :
    Piece s ['\n'] '\n' where
  head := ⟨'\n', [], rfl, hquote.symm, by decide, id⟩
  reads := by
    intro input text rest h
    refine .go (t := ['\n']) ?_ h
    have hescape : ¬ (s.escapes && decide ('\n' = '\\')) = true := by
      rw [Bool.and_eq_true]
      exact fun hboth => absurd hboth.2 (by decide)
    show textMove s '\n' = _
    rw [textMove, if_neg hquote.symm, if_neg hescape, hlong]
    rfl

/-- A backslash and what follows it. -/
theorem piece_of_backslash {body : List Char}
    (h : ∀ {input text rest : List Char}, Reads (.escaping long) .text input text rest →
      Reads (.escaping long) .escape (body ++ input) (c :: text) rest) :
    Piece (.escaping long) ('\\' :: body) c where
  head := ⟨'\\', body, rfl, (by decide : '\\' ≠ '"'), by decide,
    fun h => absurd h (by decide)⟩
  reads := by
    intro input text rest hinput
    exact .go (t := []) rfl (h hinput)

/-- A backslash and a letter. -/
theorem piece_letter {d : Char} (hd : shortEscape d = some c) :
    Piece (.escaping long) ['\\', d] c := by
  refine piece_of_backslash fun h => ?_
  refine .go (t := [c]) ?_ h
  show escapeMove _ d = _
  rw [escapeMove, hd]

theorem hexValue_capitalDigit {n : Nat} (h : n < 16) :
    Json.Literal.hexValue (capitalDigit n) = some n := by
  have key : ∀ m, m < 16 → Json.Literal.hexValue (capitalDigit m) = some m := by decide
  exact key n h

/-- A digit of the number of a character, with more to come. -/
theorem move_digit {d due number : Nat} (hd : d < 16) :
    move s (capitalDigit d) (.code (due + 2) number) =
      .go [] (.code (due + 1) (number * 16 + d)) := by
  show codeMove number (capitalDigit d) (due + 2) = _
  rw [codeMove, hexValue_capitalDigit hd]
  rfl

/-- The last digit. -/
theorem move_lastDigit {d number : Nat} (hd : d < 16) (hc : number * 16 + d = c.toNat) :
    move s (capitalDigit d) (.code 1 number) = .go [c] .text := by
  have hvalid : (number * 16 + d).isValidChar := hc ▸ c.valid
  show codeMove number (capitalDigit d) 1 = _
  rw [codeMove, hexValue_capitalDigit hd]
  dsimp only
  rw [if_pos rfl, charOf, if_pos hvalid, hc, Char.ofNat_toNat]

/-- A backslash and the number of a character, in four digits of which two are zero. -/
theorem piece_code (hc : c.toNat < 256) : Piece (.escaping long)
    ['\\', 'u', '0', '0', capitalDigit (c.toNat / 16), capitalDigit (c.toNat % 16)] c := by
  refine piece_of_backslash fun h => ?_
  -- The leading zeros are digits of the number like the others.
  have hzero : '0' = capitalDigit 0 := rfl
  have hhigh : c.toNat / 16 < 16 := by omega
  have hlow : c.toNat % 16 < 16 := by omega
  have hnumber : (((0 * 16 + 0) * 16 + 0) * 16 + c.toNat / 16) * 16 + c.toNat % 16 = c.toNat := by
    omega
  have hstart : move (.escaping long) 'u' .escape = .go [] (.code 4 0) := rfl
  rw [hzero]
  exact .go hstart (.go (move_digit (by decide)) (.go (move_digit (by decide))
    (.go (move_digit hhigh) (.go (move_lastDigit hlow hnumber) h))))

/-- A control that needs its number has one of two digits. -/
theorem toNat_lt_of_needsCode (h : needsCode c = true) : c.toNat < 256 := by
  simp only [needsCode, isBare, Bool.and_eq_true, Bool.not_eq_true', Bool.or_eq_false_iff,
    Bool.and_eq_false_iff, decide_eq_false_iff_not] at h
  omega

/-- Every character but the quote has a piece that stands for it. -/
theorem piece_escape (hc : c ≠ '"') : Piece (.escaping long) (escape long c) c := by
  -- Six characters have an escape of one letter; but over several lines the line feed needs none.
  rw [escape]
  split
  · next h => subst h; exact piece_letter rfl
  split
  · next h => subst h; exact piece_letter rfl
  split
  · next h =>
    subst h
    split
    · next hlong => exact piece_lineFeed hlong (by decide : '"' ≠ '\n')
    · exact piece_letter rfl
  split
  · next h => subst h; exact piece_letter rfl
  split
  · next h => subst h; exact piece_letter rfl
  split
  · next h => subst h; exact piece_letter rfl
  split
  · next h => exact piece_code (toNat_lt_of_needsCode h)
  · next hfeed _ _ hslash hcode =>
    have hbare : isBare c = true := by simpa [needsCode, hfeed] using hcode
    exact piece_bare hbare hc (by simp [hslash])

/-! ## Bodies -/

/-- After so many quotes in a row, the body spells the text. -/
inductive Body (s : Style) : Nat → List Char → List Char → Prop
  | nil {run : Nat} (hrun : run ≤ spare s) : Body s run [] []
  | quote {run : Nat} {body text : List Char} (hrun : run < spare s)
    (h : Body s (run + 1) body text) : Body s run (s.quote :: body) (s.quote :: text)
  | piece {run : Nat} {piece body text : List Char} {c : Char} (hrun : run ≤ spare s)
    (hpiece : Piece s piece c) (h : Body s 0 body text) : Body s run (piece ++ body) (c :: text)

variable {body : List Char}

/-- A body and the closing quotes are read as the text. -/
theorem Body.reads (h : Body s run body text) (hrest : ∀ c ∈ rest.head?, c ≠ s.quote) :
    Reads s (markAfter run) (body ++ (fence s ++ rest)) (List.replicate run s.quote ++ text)
      rest := by
  induction h with
  | nil hrun =>
    rw [List.append_nil]
    exact reads_closing hrun hrest
  | @quote run body text hrun h ih =>
    -- The quote is counted now, and comes in with the next character.
    have hspare := spare_le s
    have hlong := long_of_spare_pos (Nat.zero_lt_of_lt hrun)
    have hcount : List.replicate run s.quote ++ s.quote :: text =
        List.replicate (run + 1) s.quote ++ text := by
      rw [List.replicate_succ', List.append_assoc]
      rfl
    rw [hcount]
    exact .go (t := []) (move_quote run hlong (by omega)) ih
  | @piece run piece body text c hrun hpiece h ih =>
    obtain ⟨d, tail, rfl, hd, -, -⟩ := hpiece.head
    have hreads := hpiece.reads ih
    rw [List.append_assoc]
    exact hreads.after_quotes hd (Nat.le_trans hrun (spare_le s))

/-- A body does not begin with a line end, unless the text has one. -/
theorem Body.head (h : Body s run body text) (hquote : s.quote ≠ '\n' ∧ s.quote ≠ '\r')
    (hfeed : '\n' ∉ text) : ∀ c ∈ body.head?, c ≠ '\n' ∧ c ≠ '\r' := by
  cases h with
  | nil _ => simp
  | quote _ _ => simpa using hquote
  | piece _ hpiece _ =>
    obtain ⟨d, tail, rfl, -, hreturn, hd⟩ := hpiece.head
    rw [List.mem_cons, not_or] at hfeed
    intro c hc
    obtain rfl : d = c := by simpa using hc
    exact ⟨fun h => hfeed.1 (hd h).symm, hreturn⟩

/-- On one line, a body does not begin with a quote. -/
theorem Body.head_short (h : Body s run body text) (hshort : s.long = false) :
    ∀ c ∈ body.head?, c ≠ s.quote := by
  cases h with
  | nil _ => simp
  | quote hrun _ =>
    have hlong := long_of_spare_pos (Nat.zero_lt_of_lt hrun)
    rw [hshort] at hlong
    cases hlong
  | piece _ hpiece _ =>
    obtain ⟨d, tail, rfl, hd, -, -⟩ := hpiece.head
    intro c hc
    obtain rfl : d = c := by simpa using hc
    exact hd

/-- What is written with escapes is a body. -/
theorem body_escapeAll (hrun : run ≤ spare (.escaping long)) (text : List Char) :
    Body (.escaping long) run (escapeAll (.escaping long) run text) text := by
  induction text generalizing run with
  | nil => exact .nil hrun
  | cons c text ih =>
    have hfirst := ih (Nat.zero_le (spare (.escaping long)))
    rw [escapeAll]
    by_cases hc : c = (Style.escaping long).quote
    · rw [if_pos hc]
      subst hc
      split
      · next hfew =>
        -- One of the quotes that the style spares.
        obtain ⟨hlong, hlt⟩ := Bool.and_eq_true_iff.1 hfew
        have hspare : spare (.escaping long) = spareQuotes := if_pos hlong
        have hlt' : run < spare (.escaping long) := hspare ▸ of_decide_eq_true hlt
        exact .quote hlt' (ih hlt')
      · have hescaped : Piece (.escaping long) ['\\', '"'] '"' := piece_letter rfl
        exact .piece hrun hescaped hfirst
    · rw [if_neg hc]
      exact .piece hrun (piece_escape hc) hfirst

/-- The greatest number of quotes in a row is no less than what was found so far. -/
theorem le_longestRun (q : Char) (text : List Char) (r : Nat × Nat) :
    r.2 ≤ (text.foldl (fun (r : Nat × Nat) c =>
      if c = q then (r.1 + 1, max r.2 (r.1 + 1)) else (0, r.2)) r).2 := by
  induction text generalizing r with
  | nil => exact Nat.le_refl _
  | cons c text ih =>
    rw [List.foldl_cons]
    refine Nat.le_trans ?_ (ih _)
    split
    · exact Nat.le_max_left ..
    · exact Nat.le_refl _

/-- A text with few enough quotes in a row is its own body, where there are no escapes. -/
theorem body_verbatim {most : Nat}
    (hchars : ∀ c ∈ text, isBare c = true ∨ long = true ∧ c = '\n') (hmost : run ≤ most)
    (hrun : (text.foldl (fun (r : Nat × Nat) c =>
      if c = '\'' then (r.1 + 1, max r.2 (r.1 + 1)) else (0, r.2)) (run, most)).2 ≤
        spare (.verbatim long)) :
    Body (.verbatim long) run text text := by
  -- The run under way is never longer than the longest one so far, which the style still spares.
  induction text generalizing run most with
  | nil => exact .nil (Nat.le_trans hmost hrun)
  | cons c text ih =>
    obtain ⟨hc, hlater⟩ := List.forall_mem_cons.1 hchars
    have hfound := le_longestRun '\'' (c :: text) (run, most)
    rw [List.foldl_cons] at hrun hfound
    by_cases hquote : c = '\''
    · subst hquote
      rw [if_pos rfl] at hrun
      have hnext := le_longestRun '\'' text (run + 1, max most (run + 1))
      have hmore : run + 1 ≤ max most (run + 1) := Nat.le_max_right ..
      exact .quote (Nat.le_trans hmore (Nat.le_trans hnext hrun)) (ih hlater hmore hrun)
    · have hspare : run ≤ spare (.verbatim long) :=
        Nat.le_trans hmost (Nat.le_trans hfound hrun)
      rw [if_neg hquote] at hrun
      have hpiece : Piece (.verbatim long) [c] c := by
        rcases hc with hbare | ⟨hlong, rfl⟩
        · exact piece_bare hbare hquote Bool.false_ne_true
        · exact piece_lineFeed hlong (by decide : '\'' ≠ '\n')
      exact .piece hspare hpiece (ih hlater (Nat.zero_le most) hrun)

/-! ## Strings -/

/-- The text between the quotes of a style. -/
def bodyIn (s : Style) (text : List Char) : List Char :=
  if s.escapes then escapeAll s 0 text else text

/-- A character that needs no number stands for itself, or is a line feed. -/
theorem isBare_of_uncoded (hcoded : text.any needsCode = false) (hc : c ∈ text) :
    isBare c = true ∨ c = '\n' := by
  have huncoded : needsCode c = false := by
    rw [List.any_eq_false] at hcoded
    exact Bool.eq_false_iff.2 (hcoded c hc)
  rcases Bool.and_eq_false_iff.1 huncoded with hfeed | hbare
  · exact .inr (Decidable.of_not_not (of_decide_eq_false hfeed))
  · exact .inl (by simpa using hbare)

/-- The writer takes a style with escapes, or one without that holds the text as it is. -/
theorem styleFor_holds (text : List Char) :
    (∃ long, styleFor text = .escaping long) ∨
      ∃ long, styleFor text = .verbatim long ∧
        (∀ c ∈ text, isBare c = true ∨ long = true ∧ c = '\n') ∧
        longestRun '\'' text ≤ spare (.verbatim long) := by
  rw [styleFor]
  split
  · exact .inl ⟨false, rfl⟩
  split
  · next h =>
    simp only [Bool.and_eq_true, Bool.not_eq_true', decide_eq_true_eq] at h
    obtain ⟨⟨hcoded, hlines⟩, hruns⟩ := h
    refine .inr ⟨false, rfl, fun c hc => ?_, Nat.le_of_eq hruns⟩
    rcases isBare_of_uncoded hcoded hc with hbare | rfl
    · exact .inl hbare
    · simp [hc] at hlines
  split
  · exact .inl ⟨true, rfl⟩
  split
  · next h =>
    simp only [Bool.and_eq_true, Bool.not_eq_true', decide_eq_true_eq] at h
    obtain ⟨hcoded, hruns⟩ := h
    refine .inr ⟨true, rfl, fun c hc => ?_, hruns⟩
    exact (isBare_of_uncoded hcoded hc).imp_right (.intro rfl)
  split
  · exact .inl ⟨true, rfl⟩
  · exact .inl ⟨false, rfl⟩

theorem dropLineEnd_of_head (h : ∀ c ∈ input.head?, c ≠ '\n' ∧ c ≠ '\r') :
    dropLineEnd input = input := by
  cases input with
  | nil => rfl
  | cons c input =>
    obtain ⟨hfeed, hreturn⟩ := h c rfl
    rw [dropLineEnd]
    · intro rest h
      exact hfeed (List.cons.inj h).1
    · intro rest h
      exact hreturn (List.cons.inj h).1

theorem forall_head_append {P : Char → Prop} (hbody : ∀ c ∈ body.head?, P c)
    (hinput : ∀ c ∈ input.head?, P c) : ∀ c ∈ (body ++ input).head?, P c := by
  cases body with
  | nil => exact hinput
  | cons d body => exact hbody

/-- The closing quotes begin with a quote. -/
theorem head_fence (s : Style) (rest : List Char) : (fence s ++ rest).head? = some s.quote := by
  rw [fence]
  split <;> rfl

theorem read_fence_long (hs : s = .escaping true ∨ s = .verbatim true) (input : List Char) :
    read (fence s ++ input) = scan s .text (dropLineEnd input) := by
  rcases hs with rfl | rfl <;> rfl

theorem read_fence_short (hs : s = .escaping false ∨ s = .verbatim false)
    (hinput : ∀ tail, input ≠ s.quote :: s.quote :: tail) :
    read (fence s ++ input) = scan s .text input := by
  rcases hs with rfl | rfl
  · show read ('"' :: input) = _
    rw [read]
    · rfl
    · rintro rest ⟨⟩
      exact hinput rest rfl
    · rintro rest ⟨⟩
  · show read ('\'' :: input) = _
    rw [read]
    · rfl
    · rintro rest ⟨⟩
    · rintro rest ⟨⟩
      exact hinput rest rfl

theorem renderIn_append (s : Style) (text rest : List Char) :
    renderIn s text ++ rest = fence s ++
      ((if s.long && text.contains '\n' then ['\n'] else []) ++
        (bodyIn s text ++ (fence s ++ rest))) := by
  simp only [renderIn, bodyIn, List.append_assoc]

/-- Over several lines, what is read begins where the body does. -/
theorem dropLineEnd_body (hs : s = .escaping true ∨ s = .verbatim true)
    (hbody : Body s 0 body text) (rest : List Char) :
    dropLineEnd ((if s.long && text.contains '\n' then ['\n'] else []) ++
      (body ++ (fence s ++ rest))) = body ++ (fence s ++ rest) := by
  have hlong : s.long = true := by rcases hs with rfl | rfl <;> rfl
  have hquote : s.quote ≠ '\n' ∧ s.quote ≠ '\r' := by
    rcases hs with rfl | rfl
    · exact (by decide : '"' ≠ '\n' ∧ '"' ≠ '\r')
    · exact (by decide : '\'' ≠ '\n' ∧ '\'' ≠ '\r')
  by_cases hfeed : '\n' ∈ text
  · rw [if_pos (by simp [hlong, hfeed])]
    rfl
  · -- The writer adds no line end, and the reader must not take one from the body.
    rw [if_neg (by simp [hfeed]), List.nil_append]
    refine dropLineEnd_of_head (forall_head_append (hbody.head hquote hfeed) ?_)
    rw [head_fence]
    rintro c ⟨⟩
    exact hquote

/-- On one line, the quotes around a body are no triple quotes. -/
theorem body_not_quotes (hs : s = .escaping false ∨ s = .verbatim false)
    (hbody : Body s 0 body text) (hrest : ∀ c ∈ rest.head?, c ≠ s.quote) (tail : List Char) :
    body ++ (fence s ++ rest) ≠ s.quote :: s.quote :: tail := by
  have hshort : s.long = false := by rcases hs with rfl | rfl <;> rfl
  have hfence : fence s = [s.quote] := if_neg (by simp [hshort])
  intro h
  cases body with
  | nil =>
    rw [hfence] at h
    obtain rfl : rest = s.quote :: tail := (List.cons.inj h).2
    exact hrest s.quote rfl rfl
  | cons d body => exact hbody.head_short hshort d rfl (List.cons.inj h).1

/-- A string in a style in which a body spells the text. -/
theorem read_renderIn (hs : s = .escaping long ∨ s = .verbatim long)
    (hbody : Body s 0 (bodyIn s text) text) (hrest : ∀ c ∈ rest.head?, c ≠ s.quote) :
    read (renderIn s text ++ rest) = some (text, rest) := by
  have hreads : scan s .text (bodyIn s text ++ (fence s ++ rest)) = some (text, rest) :=
    hbody.reads hrest
  rw [renderIn_append]
  cases long with
  | true => rw [read_fence_long hs, dropLineEnd_body hs hbody, hreads]
  | false =>
    have hlines : (s.long && text.contains '\n') = false := by rcases hs with rfl | rfl <;> rfl
    rw [hlines]
    exact (read_fence_short hs (body_not_quotes hs hbody hrest)).trans hreads

/-- The reader gives a string back, and stops after it. -/
theorem read_render (text : List Char) (hrest : ∀ c ∈ rest.head?, c ≠ '"' ∧ c ≠ '\'') :
    read (render text ++ rest) = some (text, rest) := by
  rw [render]
  obtain ⟨long, hs⟩ | ⟨long, hs, hchars, hruns⟩ := styleFor_holds text
  · rw [hs]
    have hbody : Body (.escaping long) 0 (escapeAll (.escaping long) 0 text) text :=
      body_escapeAll (Nat.zero_le _) text
    exact read_renderIn (.inl rfl) hbody fun c hc => (hrest c hc).1
  · rw [hs]
    have hbody : Body (.verbatim long) 0 text text :=
      body_verbatim hchars (Nat.le_refl 0) hruns
    exact read_renderIn (.inr rfl) hbody fun c hc => (hrest c hc).2

end Text

end ShardBridge.Toml
