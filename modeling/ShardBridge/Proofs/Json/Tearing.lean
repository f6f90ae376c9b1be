/-
  ShardBridge.Proofs.Json.Tearing

  The beginning of an object text.  What a spelling is does not depend on the
  text after it, and an object ends with its closing bracket
  (`Tree.Spelled.used`, `Document.Spelled.closes`).  So a text from which this
  bracket was torn off has no value (`Document.value_of_torn`): an object is no
  beginning of another one.
-/
import ShardBridge.Proofs.Json.Scanning

namespace ShardBridge.Json

/-! ## What follows a spelling -/

theorem Gap.append {text rest : List Char} (h : Gap text rest) (more : List Char) :
    Gap (text ++ more) (rest ++ more) := by
  obtain ⟨space, hs, rfl⟩ := h
  exact ⟨space, hs, List.append_assoc ..⟩

/-- A gap up to a character is space and then this character, whatever comes after it. -/
theorem Gap.used {text rest : List Char} {c : Char} (h : Gap text (c :: rest)) :
    ∃ space, text = space ++ c :: rest ∧ ∀ rest', Gap (space ++ c :: rest') (c :: rest') := by
  obtain ⟨space, hs, rfl⟩ := h
  exact ⟨space, rfl, fun rest' => ⟨space, hs, rfl⟩⟩

theorem Literal.Spelled.used {body text rest : List Char} (h : Literal.Spelled body text rest) :
    ∃ used, body = used ++ rest ∧ ∀ rest', Literal.Spelled (used ++ rest') text rest' := by
  induction h with
  | close => exact ⟨['"'], rfl, fun _ => .close⟩
  | plain hquote hslash hcontrol _ ih =>
    obtain ⟨used, rfl, hused⟩ := ih
    exact ⟨_ :: used, rfl, fun rest' => .plain hquote hslash hcontrol (hused rest')⟩
  | letter he _ ih =>
    obtain ⟨used, rfl, hused⟩ := ih
    exact ⟨'\\' :: _ :: used, rfl, fun rest' => .letter he (hused rest')⟩
  | unit hn hlow hhigh _ ih =>
    obtain ⟨used, rfl, hused⟩ := ih
    exact ⟨'\\' :: 'u' :: _ :: _ :: _ :: _ :: used, rfl,
      fun rest' => .unit hn hlow hhigh (hused rest')⟩
  | pair hn hhigh hm hlow _ ih =>
    obtain ⟨used, rfl, hused⟩ := ih
    exact ⟨'\\' :: 'u' :: _ :: _ :: _ :: _ :: '\\' :: 'u' :: _ :: _ :: _ :: _ :: used, rfl,
      fun rest' => .pair hn hhigh hm hlow (hused rest')⟩

theorem Numeral.Spelled.used {text rest : List Char} {l : Numeral} (h : l.Spelled text rest) :
    ∃ used, text = used ++ rest ∧ ∀ rest', l.Spelled (used ++ rest') rest' := by
  obtain ⟨fraction, exponent, hfraction, hexponent, hwhole, rfl⟩ := h
  exact ⟨_, rfl, fun rest' => ⟨fraction, exponent, hfraction, hexponent, hwhole, rfl⟩⟩

mutual

/-- A value is spelled by characters of its own, and the text after them may be any. -/
theorem Tree.Spelled.used {text rest : List Char} {t : Tree} (h : Tree.Spelled text t rest) :
    ∃ used, text = used ++ rest ∧ ∀ rest', Tree.Spelled (used ++ rest') t rest' := by
  cases h with
  | null => exact ⟨['n', 'u', 'l', 'l'], rfl, fun _ => .null⟩
  | yes => exact ⟨['t', 'r', 'u', 'e'], rfl, fun _ => .yes⟩
  | no => exact ⟨['f', 'a', 'l', 's', 'e'], rfl, fun _ => .no⟩
  | number h =>
    obtain ⟨used, rfl, hused⟩ := h.used
    exact ⟨used, rfl, fun rest' => .number (hused rest')⟩
  | string h =>
    obtain ⟨used, rfl, hused⟩ := h.used
    exact ⟨'"' :: used, rfl, fun rest' => .string (hused rest')⟩
  | emptyArray h =>
    obtain ⟨space, rfl, hspace⟩ := h.used
    refine ⟨'[' :: (space ++ [']']), by simp, fun rest' => ?_⟩
    simpa using Tree.Spelled.emptyArray (hspace rest')
  | array hgap h =>
    obtain ⟨space, hs, rfl⟩ := hgap
    obtain ⟨used, rfl, hused⟩ := Items.Spelled.used h
    refine ⟨'[' :: (space ++ used), by simp, fun rest' => ?_⟩
    exact .array ⟨space, hs, List.append_assoc ..⟩ (hused rest')
  | emptyObject h =>
    obtain ⟨space, rfl, hspace⟩ := h.used
    refine ⟨'{' :: (space ++ ['}']), by simp, fun rest' => ?_⟩
    simpa using Tree.Spelled.emptyObject (hspace rest')
  | object hgap h =>
    obtain ⟨space, hs, rfl⟩ := hgap
    obtain ⟨used, rfl, hused⟩ := Members.Spelled.used h
    refine ⟨'{' :: (space ++ (used ++ ['}'])), by simp, fun rest' => ?_⟩
    have hmembers := Tree.Spelled.object ⟨space, hs, rfl⟩ (hused rest')
    simpa using hmembers

theorem Items.Spelled.used {text rest : List Char} {items : Items}
    (h : Items.Spelled text items rest) :
    ∃ used, text = used ++ rest ∧ ∀ rest', Items.Spelled (used ++ rest') items rest' := by
  cases h with
  | last hvalue hend =>
    obtain ⟨used, rfl, hused⟩ := Tree.Spelled.used hvalue
    obtain ⟨space, rfl, hspace⟩ := hend.used
    refine ⟨used ++ (space ++ [']']), by simp, fun rest' => ?_⟩
    have hlast := Items.Spelled.last (hused _) (hspace rest')
    simpa using hlast
  | more hvalue hcomma hgap h =>
    obtain ⟨used, rfl, hused⟩ := Tree.Spelled.used hvalue
    obtain ⟨space, rfl, hspace⟩ := hcomma.used
    obtain ⟨space', hs', rfl⟩ := hgap
    obtain ⟨others, rfl, hothers⟩ := Items.Spelled.used h
    refine ⟨used ++ (space ++ ',' :: (space' ++ others)), by simp, fun rest' => ?_⟩
    have hmore := Items.Spelled.more (hused _) (hspace _) ⟨space', hs', rfl⟩ (hothers rest')
    simpa using hmore

/-- The last character of an object is its closing bracket. -/
theorem Members.Spelled.used {text rest : List Char} {members : Members}
    (h : Members.Spelled text members rest) :
    ∃ used, text = used ++ '}' :: rest ∧
      ∀ rest', Members.Spelled (used ++ '}' :: rest') members rest' := by
  cases h with
  | last hkey hcolon hgap hvalue hend =>
    obtain ⟨key, rfl, hkey'⟩ := hkey.used
    obtain ⟨space₁, rfl, hspace₁⟩ := hcolon.used
    obtain ⟨space₂, hs₂, rfl⟩ := hgap
    obtain ⟨value, rfl, hvalue'⟩ := Tree.Spelled.used hvalue
    obtain ⟨space₃, rfl, hspace₃⟩ := hend.used
    refine ⟨'"' :: (key ++ (space₁ ++ ':' :: (space₂ ++ (value ++ space₃)))), by simp,
      fun rest' => ?_⟩
    have hlast := Members.Spelled.last (hkey' _) (hspace₁ _) ⟨space₂, hs₂, rfl⟩ (hvalue' _)
      (hspace₃ rest')
    simpa using hlast
  | more hkey hcolon hgap hvalue hcomma hgap' h =>
    obtain ⟨key, rfl, hkey'⟩ := hkey.used
    obtain ⟨space₁, rfl, hspace₁⟩ := hcolon.used
    obtain ⟨space₂, hs₂, rfl⟩ := hgap
    obtain ⟨value, rfl, hvalue'⟩ := Tree.Spelled.used hvalue
    obtain ⟨space₃, rfl, hspace₃⟩ := hcomma.used
    obtain ⟨space₄, hs₄, rfl⟩ := hgap'
    obtain ⟨others, rfl, hothers⟩ := Members.Spelled.used h
    refine ⟨'"' :: (key ++ (space₁ ++ ':' :: (space₂ ++ (value ++ (space₃ ++ ',' ::
      (space₄ ++ others)))))), by simp, fun rest' => ?_⟩
    have hmore := Members.Spelled.more (hkey' _) (hspace₁ _) ⟨space₂, hs₂, rfl⟩ (hvalue' _)
      (hspace₃ _) ⟨space₄, hs₄, rfl⟩ (hothers rest')
    simpa using hmore

end

/-! ## Objects -/

theorem Tree.Spelled.object_used {text rest : List Char} {members : Members}
    (h : Tree.Spelled text (.object members) rest) :
    ∃ used, text = used ++ '}' :: rest ∧
      ∀ rest', Tree.Spelled (used ++ '}' :: rest') (.object members) rest' := by
  cases h with
  | emptyObject h =>
    obtain ⟨space, rfl, hspace⟩ := h.used
    exact ⟨'{' :: space, rfl, fun rest' => .emptyObject (hspace rest')⟩
  | object hgap h =>
    obtain ⟨space, hs, rfl⟩ := hgap
    obtain ⟨used, rfl, hused⟩ := Members.Spelled.used h
    refine ⟨'{' :: (space ++ used), by simp, fun rest' => ?_⟩
    exact .object ⟨space, hs, List.append_assoc ..⟩ (hused rest')

/-- A text that is an object has only space after the closing bracket, and any space would do. -/
theorem Document.Spelled.closes {text : List Char} {members : Members}
    (h : Document.Spelled text (.object members)) :
    ∃ used space, text = used ++ '}' :: space ∧ space.all isSpace = true ∧
      ∀ space', space'.all isSpace = true →
        Document.Spelled (used ++ '}' :: space') (.object members) := by
  obtain ⟨body, after, ⟨before, hbefore, rfl⟩, ht, ⟨space, hspace, rfl⟩⟩ := h
  obtain ⟨used, rfl, hused⟩ := ht.object_used
  refine ⟨before ++ used, space, by simp, hspace, fun space' hspace' => ?_⟩
  exact ⟨_, _, ⟨before, hbefore, List.append_assoc ..⟩, hused space',
    ⟨space', hspace', (List.append_nil _).symm⟩⟩

/-- A number does not begin like an object. -/
theorem Tree.Spelled.head_number {text rest : List Char} {l : Numeral}
    (h : Tree.Spelled text (.number l) rest) :
    ∃ c tail, text = c :: tail ∧ isSpace c = false ∧ c ≠ '{' := by
  obtain ⟨c, tail, htext, hspace, -⟩ := h.head
  refine ⟨c, tail, htext, hspace, ?_⟩
  cases h with
  | number h =>
    obtain ⟨c', tail', htext', hc'⟩ := h.head
    rw [htext] at htext'
    obtain ⟨rfl, -⟩ := List.cons.inj htext'
    rintro rfl
    exact absurd hc' (by decide)

theorem Tree.Spelled.eq_brace {text rest : List Char} {members : Members}
    (h : Tree.Spelled text (.object members) rest) : ∃ tail, text = '{' :: tail := by
  cases h with
  | emptyObject => exact ⟨_, rfl⟩
  | object => exact ⟨_, rfl⟩

/-- An object is no beginning of another one: without the closing bracket, its text has no value. -/
theorem Document.value_of_torn {torn lost : List Char} {members : Members}
    (h : Document.Spelled (torn ++ lost) (.object members)) (hlost : '}' ∈ lost) :
    ∃ f, (Document.ofText torn).value = .error f := by
  cases hvalue : (Document.ofText torn).value with
  | error f => exact ⟨f, rfl⟩
  | ok v =>
    exfalso
    obtain ⟨t, ⟨body, after, hgap, ht, hafter⟩, -⟩ := Document.spelled_of_value hvalue
    obtain ⟨body₀, after₀, hgap₀, ht₀, hafter₀⟩ := h
    -- The torn text spells its value also when the whole text goes on after it.
    obtain ⟨used, rfl, hused⟩ := ht.used
    have hlonger := hused (after ++ lost)
    rw [← List.append_assoc] at hlonger
    have hgap' := hgap.append lost
    -- Both values begin at the same place, so the torn text begins with an object, too.
    have hnumber : ∀ l, t = .number l → Numeral.Delimits (after ++ lost) := by
      rintro l rfl
      exfalso
      obtain ⟨c, tail, hc, hspace, hne⟩ := hlonger.head_number
      obtain ⟨tail₀, rfl⟩ := ht₀.eq_brace
      rw [hc] at hgap'
      have hsame := hgap'.skipSpace_eq hspace
      rw [hgap₀.skipSpace_eq (by decide)] at hsame
      exact hne (List.cons.inj hsame).1.symm
    -- Scanning finds one value only, and so the same text after it.
    have hscan := hlonger.scan_eq hnumber hgap' (callsFor (torn ++ lost)) (by rw [callsFor]; omega)
    have hobject : ∀ l, Tree.object members = .number l → Numeral.Delimits after₀ := by
      intro l hl
      cases hl
    have hscan₀ := ht₀.scan_eq hobject hgap₀ (callsFor (torn ++ lost)) (by rw [callsFor]; omega)
    rw [hscan] at hscan₀
    obtain ⟨-, rfl⟩ := Prod.mk.inj hscan₀
    obtain ⟨space, hspace, heq⟩ := hafter₀
    rw [List.append_nil] at heq
    have hbrace : '}' ∈ space := by
      rw [← heq]
      exact List.mem_append_right _ hlost
    exact absurd (List.all_eq_true.1 hspace _ hbrace) (by decide)

end ShardBridge.Json
