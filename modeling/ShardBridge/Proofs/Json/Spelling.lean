/-
  ShardBridge.Proofs.Json.Spelling

  The grammar of JSON texts, as a relation between a text, what it spells, and
  the text after it.  It says nothing of scanning: space may stand between any
  two parts, a character of a string may be spelled in several ways, and a
  number is kept in its written form.

  `Tree.Spelled text tree rest` reads: the text begins with a spelling of the
  tree, and `rest` follows.  Only whole trees have spellings.
-/
import Mathlib.Data.List.TakeWhile
import ShardBridge.Json.Value

namespace ShardBridge.Json

/-! ## Space -/

/-- The two texts differ by space at the beginning of the first. -/
def Gap (text rest : List Char) : Prop := ∃ space, space.all isSpace = true ∧ text = space ++ rest

theorem Gap.refl (text : List Char) : Gap text text := ⟨[], rfl, rfl⟩

theorem Gap.trans {a b c : List Char} (hab : Gap a b) (hbc : Gap b c) : Gap a c := by
  obtain ⟨space, hs, rfl⟩ := hab
  obtain ⟨space', hs', rfl⟩ := hbc
  exact ⟨space ++ space', by simp_all, by simp⟩

theorem Gap.length_le {text rest : List Char} (h : Gap text rest) :
    rest.length ≤ text.length := by
  obtain ⟨space, -, rfl⟩ := h
  simp

theorem Gap.skipSpace_eq {text rest : List Char} {c : Char} (h : Gap text (c :: rest))
    (hc : isSpace c = false) : skipSpace text = c :: rest := by
  obtain ⟨space, hs, rfl⟩ := h
  have hspace : ∀ d ∈ space, isSpace d = true := by simpa using hs
  -- All of the space is passed over, and `c` stops it.
  rw [skipSpace, List.dropWhile_append_of_pos hspace, List.dropWhile_cons_of_neg (by simp [hc])]

theorem Gap.skipSpace_nil {text : List Char} (h : Gap text []) : skipSpace text = [] := by
  obtain ⟨space, hs, rfl⟩ := h
  rw [skipSpace, List.append_nil, List.dropWhile_eq_nil_iff]
  simpa using hs

theorem gap_of_skipSpace {text rest : List Char} (h : skipSpace text = rest) : Gap text rest := by
  subst h
  refine ⟨text.takeWhile isSpace, ?_, (List.takeWhile_append_dropWhile).symm⟩
  exact List.all_takeWhile

/-! ## Strings -/

/-- The ways to spell the characters of a string, from after the opening quote to the closing
    one. -/
inductive Literal.Spelled : List Char → List Char → List Char → Prop
  | close {rest : List Char} : Spelled ('"' :: rest) [] rest
  /-- A character that stands for itself. -/
  | plain {c : Char} {body text rest : List Char} (hquote : c ≠ '"') (hslash : c ≠ '\\')
      (hcontrol : isControl c = false) (h : Spelled body text rest) :
      Spelled (c :: body) (c :: text) rest
  /-- An escape of one letter. -/
  | letter {e c : Char} {body text rest : List Char} (he : shortEscape e = some c)
      (h : Spelled body text rest) : Spelled ('\\' :: e :: body) (c :: text) rest
  /-- A character by its number. -/
  | unit {a b c d : Char} {n : Nat} {body text rest : List Char} (hn : hexQuad a b c d = some n)
      (hlow : isLow n = false) (hhigh : isHigh n = false) (h : Spelled body text rest) :
      Spelled ('\\' :: 'u' :: a :: b :: c :: d :: body) (Char.ofNat n :: text) rest
  /-- A character by the two numbers of a pair. -/
  | pair {a b c d a' b' c' d' : Char} {n m : Nat} {body text rest : List Char}
      (hn : hexQuad a b c d = some n) (hhigh : isHigh n = true)
      (hm : hexQuad a' b' c' d' = some m) (hlow : isLow m = true) (h : Spelled body text rest) :
      Spelled ('\\' :: 'u' :: a :: b :: c :: d :: '\\' :: 'u' :: a' :: b' :: c' :: d' :: body)
        (ofPair n m :: text) rest

/-- A literal in which nothing is wrong. -/
def Literal.whole (text : List Char) : Literal := ⟨.ok text, .ok ()⟩

/-! ## Numbers -/

namespace Numeral

open Text.Decimal (isDigit)

/-- A run of digits, at least one. -/
def Digits (ds : List Char) : Prop := ds ≠ [] ∧ ∀ d ∈ ds, isDigit d = true

/-- The digits before the point: a zero stands alone. -/
def IsWhole (ds : List Char) : Prop := ds = ['0'] ∨ Digits ds ∧ ds.head? ≠ some '0'

/-- The text of the digits after the point, with the point. -/
inductive FractionSpelled : List Char → List Char → Prop
  | absent : FractionSpelled [] []
  | present {ds : List Char} (h : Digits ds) : FractionSpelled ('.' :: ds) ds

/-- The text of an exponent; a plus sign may be left out. -/
inductive ExponentSpelled : List Char → Option (Bool × List Char) → Prop
  | absent : ExponentSpelled [] none
  | bare {e : Char} {ds : List Char} (he : e = 'e' ∨ e = 'E') (h : Digits ds) :
      ExponentSpelled (e :: ds) (some (false, ds))
  | plus {e : Char} {ds : List Char} (he : e = 'e' ∨ e = 'E') (h : Digits ds) :
      ExponentSpelled (e :: '+' :: ds) (some (false, ds))
  | minus {e : Char} {ds : List Char} (he : e = 'e' ∨ e = 'E') (h : Digits ds) :
      ExponentSpelled (e :: '-' :: ds) (some (true, ds))

/-- The spelling of a number. -/
def Spelled (text : List Char) (l : Numeral) (rest : List Char) : Prop :=
  ∃ fraction exponent, FractionSpelled fraction l.fraction ∧ ExponentSpelled exponent l.exponent ∧
    IsWhole l.whole ∧
    text = (if l.negative then ['-'] else []) ++ l.whole ++ fraction ++ exponent ++ rest

end Numeral

/-! ## Values -/

mutual

/-- The spellings of a value, from its first character on. -/
inductive Tree.Spelled : List Char → Tree → List Char → Prop
  | null {rest : List Char} : Tree.Spelled ('n' :: 'u' :: 'l' :: 'l' :: rest) .null rest
  | yes {rest : List Char} : Tree.Spelled ('t' :: 'r' :: 'u' :: 'e' :: rest) (.bool true) rest
  | no {rest : List Char} :
      Tree.Spelled ('f' :: 'a' :: 'l' :: 's' :: 'e' :: rest) (.bool false) rest
  | number {text rest : List Char} {l : Numeral} (h : l.Spelled text rest) :
      Tree.Spelled text (.number l) rest
  | string {body text rest : List Char} (h : Literal.Spelled body text rest) :
      Tree.Spelled ('"' :: body) (.string (Literal.whole text)) rest
  | emptyArray {text rest : List Char} (h : Gap text (']' :: rest)) :
      Tree.Spelled ('[' :: text) (.array .close) rest
  | array {text body rest : List Char} {items : Items} (hgap : Gap text body)
      (h : Items.Spelled body items rest) : Tree.Spelled ('[' :: text) (.array items) rest
  | emptyObject {text rest : List Char} (h : Gap text ('}' :: rest)) :
      Tree.Spelled ('{' :: text) (.object .close) rest
  | object {text body rest : List Char} {members : Members} (hgap : Gap text body)
      (h : Members.Spelled body members rest) : Tree.Spelled ('{' :: text) (.object members) rest

/-- The spellings of the elements of a list, from the first character of one of them on, with the
    closing bracket. -/
inductive Items.Spelled : List Char → Items → List Char → Prop
  | last {text after rest : List Char} {value : Tree} (hvalue : Tree.Spelled text value after)
      (hend : Gap after (']' :: rest)) : Items.Spelled text (.item value .close) rest
  | more {text after next body rest : List Char} {value : Tree} {items : Items}
      (hvalue : Tree.Spelled text value after) (hcomma : Gap after (',' :: next))
      (hgap : Gap next body) (h : Items.Spelled body items rest) :
      Items.Spelled text (.item value items) rest

/-- The spellings of the members of an object, from the quote of a key on, with the closing
    bracket. -/
inductive Members.Spelled : List Char → Members → List Char → Prop
  | last {key text colon next body after rest : List Char} {value : Tree}
      (hkey : Literal.Spelled key text colon) (hcolon : Gap colon (':' :: next))
      (hgap : Gap next body) (hvalue : Tree.Spelled body value after)
      (hend : Gap after ('}' :: rest)) :
      Members.Spelled ('"' :: key) (.member (Literal.whole text) value .close) rest
  | more {key text colon next body after follow body' rest : List Char} {value : Tree}
      {members : Members} (hkey : Literal.Spelled key text colon)
      (hcolon : Gap colon (':' :: next)) (hgap : Gap next body)
      (hvalue : Tree.Spelled body value after) (hcomma : Gap after (',' :: follow))
      (hgap' : Gap follow body') (h : Members.Spelled body' members rest) :
      Members.Spelled ('"' :: key) (.member (Literal.whole text) value members) rest

end

/-- The text is a spelling of the tree, with space around it. -/
def Document.Spelled (text : List Char) (tree : Tree) : Prop :=
  ∃ body after, Gap text body ∧ Tree.Spelled body tree after ∧ Gap after []

/-! ## Lengths -/

theorem Literal.Spelled.length_lt {body text rest : List Char}
    (h : Literal.Spelled body text rest) : rest.length < body.length := by
  induction h with
  | close => simp
  | plain _ _ _ _ ih => simp only [List.length_cons]; omega
  | letter _ _ ih => simp only [List.length_cons]; omega
  | unit _ _ _ _ ih => simp only [List.length_cons]; omega
  | pair _ _ _ _ _ ih => simp only [List.length_cons]; omega

theorem Numeral.IsWhole.ne_nil {ds : List Char} (h : Numeral.IsWhole ds) : ds ≠ [] := by
  rcases h with rfl | ⟨⟨hne, -⟩, -⟩
  · simp
  · exact hne

theorem Numeral.Spelled.length_lt {text rest : List Char} {l : Numeral}
    (h : l.Spelled text rest) : rest.length < text.length := by
  obtain ⟨fraction, exponent, -, -, hwhole, rfl⟩ := h
  have := List.length_pos_iff.2 hwhole.ne_nil
  simp only [List.length_append]
  omega

mutual

/-- A value takes characters. -/
theorem Tree.Spelled.length_lt {text rest : List Char} {t : Tree} (h : Tree.Spelled text t rest) :
    rest.length < text.length := by
  cases h with
  | null => simp only [List.length_cons]; omega
  | yes => simp only [List.length_cons]; omega
  | no => simp only [List.length_cons]; omega
  | number h => exact h.length_lt
  | string h => have := h.length_lt; simp only [List.length_cons]; omega
  | emptyArray h => have := h.length_le; simp only [List.length_cons] at this ⊢; omega
  | array hgap h =>
    have := hgap.length_le
    have := Items.Spelled.length_lt h
    simp only [List.length_cons]
    omega
  | emptyObject h => have := h.length_le; simp only [List.length_cons] at this ⊢; omega
  | object hgap h =>
    have := hgap.length_le
    have := Members.Spelled.length_lt h
    simp only [List.length_cons]
    omega

theorem Items.Spelled.length_lt {text rest : List Char} {items : Items}
    (h : Items.Spelled text items rest) : rest.length < text.length := by
  cases h with
  | last hvalue hend =>
    have := hvalue.length_lt
    have := hend.length_le
    simp only [List.length_cons] at this
    omega
  | more hvalue hcomma hgap h =>
    have := hvalue.length_lt
    have := hcomma.length_le
    have := hgap.length_le
    have := Items.Spelled.length_lt h
    simp only [List.length_cons] at *
    omega

theorem Members.Spelled.length_lt {text rest : List Char} {members : Members}
    (h : Members.Spelled text members rest) : rest.length < text.length := by
  cases h with
  | last hkey hcolon hgap hvalue hend =>
    have := hkey.length_lt
    have := hcolon.length_le
    have := hgap.length_le
    have := hvalue.length_lt
    have := hend.length_le
    simp only [List.length_cons] at *
    omega
  | more hkey hcolon hgap hvalue hcomma hgap' h =>
    have := hkey.length_lt
    have := hcolon.length_le
    have := hgap.length_le
    have := hvalue.length_lt
    have := hcomma.length_le
    have := hgap'.length_le
    have := Members.Spelled.length_lt h
    simp only [List.length_cons] at *
    omega

end

end ShardBridge.Json
