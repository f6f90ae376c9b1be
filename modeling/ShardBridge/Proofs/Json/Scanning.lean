/-
  ShardBridge.Proofs.Json.Scanning

  Scanning accepts the grammar of `Tree.Spelled` and nothing else: what is
  spelled is scanned to its tree, with the rest of the text left over, and a
  tree that the general reader takes was spelled.  So two lines that differ in
  space and escapes only are the same document (`Document.ofText_of_spelled`),
  and every text with a value is a spelling (`Document.spelled_of_value`).
-/
import ShardBridge.Proofs.Json.Lexing

namespace ShardBridge.Json

/-! ## Values -/

open Numeral (Delimits)

theorem Gap.delimits {text rest : List Char} (h : Gap text rest) (hrest : Delimits rest) :
    Delimits text := by
  obtain ⟨space, hs, rfl⟩ := h
  cases space with
  | nil => exact hrest
  | cons c space =>
    intro d hd
    obtain rfl : c = d := by simpa using hd
    have hc : isSpace c = true := by simp_all
    simp only [isSpace, Bool.or_eq_true, decide_eq_true_eq] at hc
    rcases hc with ((rfl | rfl) | rfl) | rfl <;> decide

theorem delimits_nil : Delimits [] := fun _ h => nomatch h

theorem delimits_comma (rest : List Char) : Delimits (',' :: rest) := by
  intro d hd
  cases hd
  decide

theorem delimits_closeArray (rest : List Char) : Delimits (']' :: rest) := by
  intro d hd
  cases hd
  decide

theorem delimits_closeObject (rest : List Char) : Delimits ('}' :: rest) := by
  intro d hd
  cases hd
  decide

/-- A value begins with neither a space nor the end of a list. -/
theorem Tree.Spelled.head {text rest : List Char} {t : Tree} (h : Tree.Spelled text t rest) :
    ∃ c tail, text = c :: tail ∧ isSpace c = false ∧ c ≠ ']' := by
  cases h with
  | number h =>
    obtain ⟨c, tail, rfl, hc⟩ := h.head
    refine ⟨c, tail, rfl, ?_⟩
    -- Neither a sign nor a digit is a space or a bracket.
    rcases hc with rfl | hc
    · decide
    · refine ⟨?_, ?_⟩
      · rw [← Bool.not_eq_true]
        intro hs
        simp only [isSpace, Bool.or_eq_true, decide_eq_true_eq] at hs
        rcases hs with ((rfl | rfl) | rfl) | rfl <;> exact absurd hc (by decide)
      · rintro rfl
        exact absurd hc (by decide)
  | _ => exact ⟨_, _, rfl, by decide⟩

theorem Items.Spelled.head {text rest : List Char} {items : Items}
    (h : Items.Spelled text items rest) :
    ∃ c tail, text = c :: tail ∧ isSpace c = false ∧ c ≠ ']' := by
  cases h with
  | last hvalue _ => exact hvalue.head
  | more hvalue _ _ _ => exact hvalue.head

theorem Members.Spelled.head {text rest : List Char} {members : Members}
    (h : Members.Spelled text members rest) : ∃ tail, text = '"' :: tail := by
  cases h with
  | last => exact ⟨_, rfl⟩
  | more => exact ⟨_, rfl⟩

theorem scanScalar_number {c : Char} {tail rest : List Char} {l : Numeral}
    (hc : c = '-' ∨ Text.Decimal.isDigit c = true) (h : Numeral.scan (c :: tail) = .ok (l, rest)) :
    scanScalar c tail = (.number l, rest) := by
  have hn : c ≠ 'n' := by rintro rfl; revert hc; decide
  have ht : c ≠ 't' := by rintro rfl; revert hc; decide
  have hf : c ≠ 'f' := by rintro rfl; revert hc; decide
  simp [scanScalar, hn, ht, hf, hc, scanNumber, h]

mutual

/-- A spelled value is scanned to its tree, whatever space stands before it.  Only a number could go
    on in what follows it. -/
theorem Tree.Spelled.scan_eq {text before rest : List Char} {t : Tree}
    (h : Tree.Spelled text t rest) (hrest : ∀ l, t = .number l → Delimits rest)
    (hgap : Gap before text) (fuel : Nat)
    (hfuel : 2 * before.length ≤ fuel) : scanValue fuel before = (t, rest) := by
  have hlen := hgap.length_le
  -- Two calls for each character are enough: one for a value, and one for what holds it.
  obtain ⟨fuel, rfl⟩ : ∃ n, fuel = n + 1 := by
    have := h.length_lt
    exact ⟨fuel - 1, by omega⟩
  cases h with
  | null => simp [scanValue, hgap.skipSpace_eq (by decide), scanScalar, scanWord]
  | yes => simp [scanValue, hgap.skipSpace_eq (by decide), scanScalar, scanWord]
  | no => simp [scanValue, hgap.skipSpace_eq (by decide), scanScalar, scanWord]
  | number h =>
    obtain ⟨c, tail, rfl, hc⟩ := h.head
    obtain ⟨c', tail', heq, hspace, -⟩ := Tree.Spelled.head (.number h)
    obtain ⟨rfl, rfl⟩ := List.cons.inj heq
    have hq : c ≠ '"' := by rintro rfl; revert hc; decide
    have ha : c ≠ '[' := by rintro rfl; revert hc; decide
    have ho : c ≠ '{' := by rintro rfl; revert hc; decide
    rw [scanValue, hgap.skipSpace_eq hspace]
    simp [scanScalar_number hc (h.scan_eq (hrest _ rfl))]
  | string h => simp [scanValue, hgap.skipSpace_eq (by decide), h.scan_eq]
  | emptyArray h =>
    simp [scanValue, hgap.skipSpace_eq (by decide), h.skipSpace_eq (by decide)]
  | @array body₀ body _ items hgap' h =>
    obtain ⟨c, tail, rfl, hspace, hclose⟩ := h.head
    have := hgap'.length_le
    have hitems := Items.Spelled.scan_eq h fuel (by
      simp only [List.length_cons] at *; omega)
    simp [scanValue, hgap.skipSpace_eq (by decide), hgap'.skipSpace_eq hspace, hitems]
  | emptyObject h =>
    simp [scanValue, hgap.skipSpace_eq (by decide), h.skipSpace_eq (by decide)]
  | @object body₀ body _ members hgap' h =>
    obtain ⟨tail, rfl⟩ := h.head
    have := hgap'.length_le
    have hmembers := Members.Spelled.scan_eq h fuel (by
      simp only [List.length_cons] at *; omega)
    simp [scanValue, hgap.skipSpace_eq (by decide), hgap'.skipSpace_eq (by decide), hmembers]

theorem Items.Spelled.scan_eq {text rest : List Char} {items : Items}
    (h : Items.Spelled text items rest) (fuel : Nat)
    (hfuel : 2 * text.length + 1 ≤ fuel) : scanItems fuel text = (items, rest) := by
  obtain ⟨fuel, rfl⟩ : ∃ n, fuel = n + 1 := ⟨fuel - 1, by omega⟩
  cases h with
  | last hvalue hend =>
    have hv := Tree.Spelled.scan_eq hvalue (fun _ _ => hend.delimits (delimits_closeArray _))
      (Gap.refl _) fuel (by omega)
    simp [scanItems, hv, hend.skipSpace_eq (by decide)]
  | more hvalue hcomma hgap h =>
    have hv := Tree.Spelled.scan_eq hvalue (fun _ _ => hcomma.delimits (delimits_comma _))
      (Gap.refl _) fuel (by omega)
    obtain ⟨c, tail, rfl, hspace, hclose⟩ := h.head
    have := hvalue.length_lt
    have := hcomma.length_le
    have := hgap.length_le
    have hitems := Items.Spelled.scan_eq h fuel (by
      simp only [List.length_cons] at *; omega)
    simp [scanItems, hv, hcomma.skipSpace_eq (by decide), hgap.skipSpace_eq hspace, hitems]

theorem Members.Spelled.scan_eq {text rest : List Char} {members : Members}
    (h : Members.Spelled text members rest) (fuel : Nat)
    (hfuel : 2 * text.length + 1 ≤ fuel) : scanMembers fuel text = (members, rest) := by
  obtain ⟨fuel, rfl⟩ : ∃ n, fuel = n + 1 := ⟨fuel - 1, by omega⟩
  cases h with
  | last hkey hcolon hgap hvalue hend =>
    have := hkey.length_lt
    have := hcolon.length_le
    have hv := Tree.Spelled.scan_eq hvalue (fun _ _ => hend.delimits (delimits_closeObject _))
      hgap fuel (by simp only [List.length_cons] at *; omega)
    simp [scanMembers, hkey.scan_eq, hcolon.skipSpace_eq (by decide), hv,
      hend.skipSpace_eq (by decide)]
  | more hkey hcolon hgap hvalue hcomma hgap' h =>
    have := hkey.length_lt
    have := hcolon.length_le
    have hv := Tree.Spelled.scan_eq hvalue (fun _ _ => hcomma.delimits (delimits_comma _))
      hgap fuel (by simp only [List.length_cons] at *; omega)
    obtain ⟨tail, rfl⟩ := h.head
    have := hgap.length_le
    have := hvalue.length_lt
    have := hcomma.length_le
    have := hgap'.length_le
    have hmembers := Members.Spelled.scan_eq h fuel (by
      simp only [List.length_cons] at *; omega)
    simp [scanMembers, hkey.scan_eq, hcolon.skipSpace_eq (by decide), hv,
      hcomma.skipSpace_eq (by decide), hgap'.skipSpace_eq (by decide), hmembers]

end

/-- A spelled text is read to its tree, and nothing is left over. -/
theorem Document.ofText_of_spelled {text : List Char} {t : Tree} (h : Document.Spelled text t) :
    Document.ofText text = ⟨t, false⟩ := by
  obtain ⟨body, after, hgap, ht, hend⟩ := h
  have hscan : scanValue (callsFor text) text = (t, after) :=
    ht.scan_eq (fun _ _ => hend.delimits delimits_nil) hgap _ (by rw [callsFor]; omega)
  simp [ofText, hscan, hend.skipSpace_nil]

/-! ## What the general reader takes -/

theorem map_eq_ok {ε α β : Type} {f : α → β} {r : Except ε α} {b : β} :
    r.map f = .ok b ↔ ∃ a, r = .ok a ∧ f a = b := by
  cases r <;> simp [Except.map]

theorem Literal.string_eq_ok {l : Literal} {s : String} :
    l.string = .ok s ↔ l.text = .ok s.toList := by
  rw [Literal.string, map_eq_ok]
  constructor
  · rintro ⟨text, htext, rfl⟩
    rw [htext, String.toList_ofList]
  · exact fun h => ⟨_, h, String.ofList_toList⟩

theorem Tree.valueWithin_array {depth : Nat} {items : Items} {v : Value} :
    (Tree.array items).valueWithin depth = .ok v ↔
      ∃ d vs, depth = d + 1 ∧ items.valuesWithin d = .ok vs ∧ .array vs = v := by
  cases depth with
  | zero => simp [Tree.valueWithin]
  | succ d => simp [Tree.valueWithin, map_eq_ok]

theorem Tree.valueWithin_object {depth : Nat} {members : Members} {v : Value} :
    (Tree.object members).valueWithin depth = .ok v ↔
      ∃ d ms, depth = d + 1 ∧ members.entriesWithin d = .ok ms ∧ .object ms = v := by
  cases depth with
  | zero => simp [Tree.valueWithin]
  | succ d => simp [Tree.valueWithin, map_eq_ok]

theorem Items.valuesWithin_item {depth : Nat} {value : Tree} {items : Items} {vs : List Value} :
    (Items.item value items).valuesWithin depth = .ok vs ↔
      ∃ v rest, value.valueWithin depth = .ok v ∧ items.valuesWithin depth = .ok rest ∧
        v :: rest = vs := by
  rw [Items.valuesWithin]
  cases value.valueWithin depth with
  | error f => simp
  | ok v => simp [map_eq_ok]

theorem Members.entriesWithin_member {depth : Nat} {key : Literal} {value : Tree}
    {members : Members} {ms : List (String × Value)} :
    (Members.member key value members).entriesWithin depth = .ok ms ↔
      ∃ k v rest, key.string = .ok k ∧ value.valueWithin depth = .ok v ∧
        members.entriesWithin depth = .ok rest ∧ (k, v) :: rest = ms := by
  rw [Members.entriesWithin]
  cases key.string with
  | error f => simp
  | ok k =>
    cases value.valueWithin depth with
    | error f => simp
    | ok v => simp [map_eq_ok]

theorem Members.entriesWithin_unpaired {depth : Nat} {key : Literal} {s : Stop}
    {ms : List (String × Value)} : (Members.unpaired key s).entriesWithin depth ≠ .ok ms := by
  rw [Members.entriesWithin]
  cases key.string <;> simp

/-! ## Scanned texts

What is scanned, and has a value, was spelled.  Each of the three statements about scanning
with some fuel follows from the other two about scanning with less. -/

/-- A value that was scanned with so much fuel was spelled, if the general reader takes it. -/
def ValueSpelled (fuel : Nat) : Prop :=
  ∀ {text rest : List Char} {t : Tree} {depth : Nat} {v : Value},
    scanValue fuel text = (t, rest) → t.valueWithin depth = .ok v →
      ∃ body, Gap text body ∧ Tree.Spelled body t rest

/-- Items that were scanned with so much fuel were spelled, if the general reader takes them. -/
def ItemsSpelled (fuel : Nat) : Prop :=
  ∀ {text rest : List Char} {items : Items} {depth : Nat} {vs : List Value},
    scanItems fuel text = (items, rest) → items.valuesWithin depth = .ok vs →
      ∃ body, Gap text body ∧ Items.Spelled body items rest

/-- Members that were scanned with so much fuel were spelled, if the general reader takes them. -/
def MembersSpelled (fuel : Nat) : Prop :=
  ∀ {text rest : List Char} {members : Members} {depth : Nat} {ms : List (String × Value)},
    scanMembers fuel text = (members, rest) → members.entriesWithin depth = .ok ms →
      Members.Spelled text members rest

theorem word_of_scanWord {begun : Char} {value t : Tree} {word text rest : List Char}
    {depth : Nat} {v : Value} (h : scanWord begun value word text = (t, rest))
    (hv : t.valueWithin depth = .ok v) : t = value ∧ text = word ++ rest := by
  -- A word that breaks off leaves a tree without a value.
  induction word generalizing text with
  | nil =>
    obtain ⟨rfl, rfl⟩ := Prod.mk.inj h
    exact ⟨rfl, rfl⟩
  | cons c word ih =>
    cases text with
    | nil =>
      obtain ⟨rfl, rfl⟩ := Prod.mk.inj h
      simp [Tree.valueWithin] at hv
    | cons d text =>
      rw [scanWord] at h
      split at h
      · next hcd =>
        obtain ⟨ht, rfl⟩ := ih h
        exact ⟨ht, by rw [hcd]; rfl⟩
      · obtain ⟨rfl, rfl⟩ := Prod.mk.inj h
        simp [Tree.valueWithin] at hv

theorem spelled_of_scanScalar {c : Char} {text rest : List Char} {t : Tree} {depth : Nat}
    {v : Value} (h : scanScalar c text = (t, rest)) (hv : t.valueWithin depth = .ok v) :
    Tree.Spelled (c :: text) t rest := by
  -- The three words come first, then numbers.
  rw [scanScalar] at h
  split at h
  · next hc =>
    obtain ⟨rfl, rfl⟩ := word_of_scanWord h hv
    exact hc ▸ .null
  · split at h
    · next hc =>
      obtain ⟨rfl, rfl⟩ := word_of_scanWord h hv
      exact hc ▸ .yes
    · split at h
      · next hc =>
        obtain ⟨rfl, rfl⟩ := word_of_scanWord h hv
        exact hc ▸ .no
      · split at h
        · rw [scanNumber] at h
          split at h
          · next l rest' hl =>
            obtain ⟨rfl, rfl⟩ := Prod.mk.inj h
            exact .number (Numeral.spelled_of_scan hl)
          all_goals
            obtain ⟨rfl, rfl⟩ := Prod.mk.inj h
            simp [Tree.valueWithin] at hv
        · obtain ⟨rfl, rfl⟩ := Prod.mk.inj h
          simp [Tree.valueWithin] at hv

theorem valueSpelled_succ {fuel : Nat} (hitems : ItemsSpelled fuel)
    (hmembers : MembersSpelled fuel) : ValueSpelled (fuel + 1) := by
  intro text rest t depth v h hv
  rw [scanValue] at h
  -- By the first character: none, a quote, a bracket, a brace, or another.
  split at h
  · obtain ⟨rfl, rfl⟩ := Prod.mk.inj h
    simp [Tree.valueWithin] at hv
  · next body heq =>
    obtain ⟨rfl, rfl⟩ := Prod.mk.inj h
    rw [Tree.valueWithin, map_eq_ok] at hv
    obtain ⟨s, hs, -⟩ := hv
    obtain ⟨hl, hspelled⟩ := Literal.spelled_of_scan (Prod.eta _) (Literal.string_eq_ok.1 hs)
    exact ⟨_, gap_of_skipSpace heq, hl ▸ .string hspelled⟩
  · next body heq =>
    split at h
    · obtain ⟨rfl, rfl⟩ := Prod.mk.inj h
      obtain ⟨d, vs, rfl, hvs, rfl⟩ := Tree.valueWithin_array.1 hv
      simp [Items.valuesWithin] at hvs
    · next body' heq' =>
      obtain ⟨rfl, rfl⟩ := Prod.mk.inj h
      exact ⟨_, gap_of_skipSpace heq, .emptyArray (gap_of_skipSpace heq')⟩
    · next c body' hc heq' =>
      obtain ⟨rfl, rfl⟩ := Prod.mk.inj h
      obtain ⟨d, vs, rfl, hvs, rfl⟩ := Tree.valueWithin_array.1 hv
      obtain ⟨start, hgap, hspelled⟩ := hitems (Prod.eta _) hvs
      exact ⟨_, gap_of_skipSpace heq, .array ((gap_of_skipSpace heq').trans hgap) hspelled⟩
  · next body heq =>
    split at h
    · obtain ⟨rfl, rfl⟩ := Prod.mk.inj h
      obtain ⟨d, ms, rfl, hms, rfl⟩ := Tree.valueWithin_object.1 hv
      simp [Members.entriesWithin] at hms
    · next body' heq' =>
      obtain ⟨rfl, rfl⟩ := Prod.mk.inj h
      exact ⟨_, gap_of_skipSpace heq, .emptyObject (gap_of_skipSpace heq')⟩
    · next c body' hc heq' =>
      obtain ⟨rfl, rfl⟩ := Prod.mk.inj h
      obtain ⟨d, ms, rfl, hms, rfl⟩ := Tree.valueWithin_object.1 hv
      have hspelled := hmembers (Prod.eta _) hms
      exact ⟨_, gap_of_skipSpace heq, .object (gap_of_skipSpace heq') hspelled⟩
  · next c body _ _ _ heq =>
    exact ⟨_, gap_of_skipSpace heq, spelled_of_scanScalar h hv⟩

theorem itemsSpelled_succ {fuel : Nat} (hvalue : ValueSpelled fuel)
    (hitems : ItemsSpelled fuel) : ItemsSpelled (fuel + 1) := by
  intro text rest items depth vs h hvs
  rcases hscan : scanValue fuel text with ⟨value, after⟩
  simp only [scanItems, hscan] at h
  -- By what follows the element: nothing, the end, a comma, or something out of place.  A list
  -- that stops in the middle has no value.
  split at h
  · obtain ⟨rfl, rfl⟩ := Prod.mk.inj h
    obtain ⟨v, vs', -, hvs', -⟩ := Items.valuesWithin_item.1 hvs
    simp [Items.valuesWithin] at hvs'
  · next heq =>
    obtain ⟨rfl, rfl⟩ := Prod.mk.inj h
    obtain ⟨v, vs', hv, hvs', -⟩ := Items.valuesWithin_item.1 hvs
    obtain ⟨body, hgap, hspelled⟩ := hvalue hscan hv
    exact ⟨body, hgap, .last hspelled (gap_of_skipSpace heq)⟩
  · next follow heq =>
    split at h
    · obtain ⟨rfl, rfl⟩ := Prod.mk.inj h
      obtain ⟨v, vs', -, hvs', -⟩ := Items.valuesWithin_item.1 hvs
      simp [Items.valuesWithin] at hvs'
    · obtain ⟨rfl, rfl⟩ := Prod.mk.inj h
      obtain ⟨v, vs', -, hvs', -⟩ := Items.valuesWithin_item.1 hvs
      simp [Items.valuesWithin] at hvs'
    · next c follow' _ heq' =>
      obtain ⟨rfl, rfl⟩ := Prod.mk.inj h
      obtain ⟨v, vs', hv, hvs', -⟩ := Items.valuesWithin_item.1 hvs
      obtain ⟨body, hgap, hspelled⟩ := hvalue hscan hv
      obtain ⟨body', hgap', hspelled'⟩ := hitems (Prod.eta _) hvs'
      exact ⟨body, hgap, .more hspelled (gap_of_skipSpace heq)
        ((gap_of_skipSpace heq').trans hgap') hspelled'⟩
  · obtain ⟨rfl, rfl⟩ := Prod.mk.inj h
    obtain ⟨v, vs', -, hvs', -⟩ := Items.valuesWithin_item.1 hvs
    simp [Items.valuesWithin] at hvs'

theorem membersSpelled_succ {fuel : Nat} (hvalue : ValueSpelled fuel)
    (hmembers : MembersSpelled fuel) : MembersSpelled (fuel + 1) := by
  intro text rest members depth ms h hms
  rw [scanMembers.eq_def] at h
  split at h
  · simp at *
  · next n body heq =>
    obtain rfl : fuel = n := by omega
    rcases hkey : Literal.scan body with ⟨key, colon⟩
    simp only [hkey] at h
    split at h
    · obtain ⟨rfl, rfl⟩ := Prod.mk.inj h
      exact absurd hms Members.entriesWithin_unpaired
    · next next hcolon =>
      rcases hscan : scanValue fuel next with ⟨value, after⟩
      simp only [hscan] at h
      -- Whatever follows the value, the member itself was taken.
      have htaken : ∀ {others : Members}, members = .member key value others →
          ∃ name start rest, key = Literal.whole name ∧ Literal.Spelled body name colon ∧
            Gap next start ∧ Tree.Spelled start value after ∧
            others.entriesWithin depth = .ok rest := by
        rintro others rfl
        obtain ⟨k, v, ms', hk, hv, hms', -⟩ := Members.entriesWithin_member.1 hms
        obtain ⟨hwhole, hspelled⟩ := Literal.spelled_of_scan hkey (Literal.string_eq_ok.1 hk)
        obtain ⟨start, hgap, hspelled'⟩ := hvalue hscan hv
        exact ⟨_, start, ms', hwhole, hspelled, hgap, hspelled', hms'⟩
      split at h
      · obtain ⟨rfl, rfl⟩ := Prod.mk.inj h
        obtain ⟨name, start, ms', -, -, -, -, hms'⟩ := htaken rfl
        simp [Members.entriesWithin] at hms'
      · next follow heq' =>
        obtain ⟨rfl, rfl⟩ := Prod.mk.inj h
        obtain ⟨name, start, ms', rfl, hkey', hgap, hvalue', -⟩ := htaken rfl
        exact .last hkey' (gap_of_skipSpace hcolon) hgap hvalue' (gap_of_skipSpace heq')
      · next follow heq' =>
        split at h
        · obtain ⟨rfl, rfl⟩ := Prod.mk.inj h
          obtain ⟨name, start, ms', -, -, -, -, hms'⟩ := htaken rfl
          simp [Members.entriesWithin] at hms'
        · obtain ⟨rfl, rfl⟩ := Prod.mk.inj h
          obtain ⟨name, start, ms', -, -, -, -, hms'⟩ := htaken rfl
          simp [Members.entriesWithin] at hms'
        · next c follow' _ heq'' =>
          obtain ⟨rfl, rfl⟩ := Prod.mk.inj h
          obtain ⟨name, start, ms', rfl, hkey', hgap, hvalue', hms'⟩ := htaken rfl
          exact .more hkey' (gap_of_skipSpace hcolon) hgap hvalue' (gap_of_skipSpace heq')
            (gap_of_skipSpace heq'') (hmembers (Prod.eta _) hms')
      · obtain ⟨rfl, rfl⟩ := Prod.mk.inj h
        obtain ⟨name, start, ms', -, -, -, -, hms'⟩ := htaken rfl
        simp [Members.entriesWithin] at hms'
    · obtain ⟨rfl, rfl⟩ := Prod.mk.inj h
      exact absurd hms Members.entriesWithin_unpaired
  · obtain ⟨rfl, rfl⟩ := Prod.mk.inj h
    simp [Members.entriesWithin] at hms

/-- The three statements together, by induction on the fuel. -/
theorem spelled_of_scan (fuel : Nat) :
    ValueSpelled fuel ∧ ItemsSpelled fuel ∧ MembersSpelled fuel := by
  induction fuel with
  | zero =>
    refine ⟨?_, ?_, ?_⟩
    · intro text rest t depth v h hv
      obtain ⟨rfl, rfl⟩ := Prod.mk.inj h
      simp [Tree.valueWithin] at hv
    · intro text rest items depth vs h hvs
      obtain ⟨rfl, rfl⟩ := Prod.mk.inj h
      simp [Items.valuesWithin] at hvs
    · intro text rest members depth ms h hms
      obtain ⟨rfl, rfl⟩ := Prod.mk.inj h
      simp [Members.entriesWithin] at hms
  | succ fuel ih =>
    obtain ⟨hvalue, hitems, hmembers⟩ := ih
    exact ⟨valueSpelled_succ hitems hmembers, itemsSpelled_succ hvalue hitems,
      membersSpelled_succ hvalue hmembers⟩

/-- A text that has a value was spelled. -/
theorem Document.spelled_of_value {text : List Char} {v : Value}
    (h : (Document.ofText text).value = .ok v) :
    ∃ t, Document.Spelled text t ∧ t.valueWithin greatestDepth = .ok v := by
  rcases hscan : scanValue (callsFor text) text with ⟨t, rest⟩
  rw [Document.value] at h
  simp only [Document.ofText, hscan] at h
  split at h
  · simp at h
  · next v' hv =>
    split at h
    · simp at h
    · next htrailing =>
      obtain rfl : v' = v := by simpa using h
      obtain ⟨body, hgap, hspelled⟩ := (spelled_of_scan _).1 hscan hv
      exact ⟨t, ⟨body, rest, hgap, hspelled, gap_of_skipSpace (by simpa using htrailing)⟩, hv⟩

/-- A text that has a value is a spelling of what is read from it. -/
theorem Document.spelled_root {text : List Char} {v : Value}
    (h : (Document.ofText text).value = .ok v) :
    Document.Spelled text (Document.ofText text).root := by
  obtain ⟨t, hspelled, -⟩ := Document.spelled_of_value h
  rwa [Document.ofText_of_spelled hspelled]

/-- A text has a value exactly when it is a spelling of a tree with that value. -/
theorem Value.ofText_eq_ok_iff {text : String} {v : Value} :
    Value.ofText text = .ok v ↔
      ∃ t, Document.Spelled text.toList t ∧ t.valueWithin greatestDepth = .ok v := by
  constructor
  · exact Document.spelled_of_value
  · rintro ⟨t, hspelled, hv⟩
    simp [Value.ofText, Document.value, Document.ofText_of_spelled hspelled, hv]

end ShardBridge.Json
