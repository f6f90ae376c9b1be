/-
  ShardBridge.Proofs.Json.Conformance

  Readers of a schema agree with the general reader.  Where a tree stands for a
  value, a reader of the schema succeeds exactly when that value means
  something to it, and gives what it means.  So what the schema accepts can be
  said of values alone, with no tree and no reader.

  `Agrees read Means` is that property.  It holds of the readers of single
  values and of lists, and a `Layout` carries it from the fields of an object
  to the object (`Layout.fill_members_iff`) and to the list of its fields
  (`Layout.fill_items_iff`).
-/
import Mathlib.Data.List.Forall2
import ShardBridge.Record
import ShardBridge.Proofs.Json.Scanning

namespace ShardBridge.Json

/-! ## Trees that stand for values -/

mutual

/-- The tree stands for the value: nothing is wrong with the form of its strings, every number is
    in range, and every list and object comes to its end. -/
inductive Tree.Denotes : Tree → Value → Prop
  | null : Tree.Denotes .null .null
  | bool {b : Bool} : Tree.Denotes (.bool b) (.bool b)
  | number {l : Numeral} {n : Number} (h : l.number = .ok n) : Tree.Denotes (.number l) (.number n)
  | string {s : String} : Tree.Denotes (.string (Literal.whole s.toList)) (.string s)
  | array {items : Items} {vs : List Value} (h : Items.Denotes items vs) :
      Tree.Denotes (.array items) (.array vs)
  | object {members : Members} {ms : List (String × Value)} (h : Members.Denotes members ms) :
      Tree.Denotes (.object members) (.object ms)

/-- The items stand for these values. -/
inductive Items.Denotes : Items → List Value → Prop
  | close : Items.Denotes .close []
  | item {value : Tree} {v : Value} {items : Items} {vs : List Value}
      (hvalue : Tree.Denotes value v) (h : Items.Denotes items vs) :
      Items.Denotes (.item value items) (v :: vs)

/-- The members stand for these, with the repetitions among them. -/
inductive Members.Denotes : Members → List (String × Value) → Prop
  | close : Members.Denotes .close []
  | member {k : String} {value : Tree} {v : Value} {members : Members}
      {ms : List (String × Value)} (hvalue : Tree.Denotes value v)
      (h : Members.Denotes members ms) :
      Members.Denotes (.member (Literal.whole k.toList) value members) ((k, v) :: ms)

end

theorem Literal.string_whole (text : List Char) :
    (Literal.whole text).string = .ok (String.ofList text) := rfl

mutual

/-- A tree that was spelled, and that the general reader takes, stands for its value. -/
theorem Tree.Spelled.denotes {text rest : List Char} {t : Tree} {depth : Nat} {v : Value}
    (h : Tree.Spelled text t rest) (hv : t.valueWithin depth = .ok v) : t.Denotes v := by
  cases h with
  | null =>
    obtain rfl : Value.null = v := by simpa [Tree.valueWithin] using hv
    exact .null
  | yes =>
    obtain rfl : Value.bool true = v := by simpa [Tree.valueWithin] using hv
    exact .bool
  | no =>
    obtain rfl : Value.bool false = v := by simpa [Tree.valueWithin] using hv
    exact .bool
  | number _ =>
    rw [Tree.valueWithin, map_eq_ok] at hv
    obtain ⟨n, hn, rfl⟩ := hv
    exact .number hn
  | @string _ text _ _ =>
    rw [Tree.valueWithin, Literal.string_whole] at hv
    obtain rfl : Value.string (String.ofList text) = v := by simpa [Except.map] using hv
    have hd := Tree.Denotes.string (s := String.ofList text)
    rwa [String.toList_ofList] at hd
  | emptyArray _ =>
    obtain ⟨_, vs, _, hvs, rfl⟩ := Tree.valueWithin_array.1 hv
    obtain rfl : [] = vs := by simpa [Items.valuesWithin] using hvs
    exact .array .close
  | array _ h =>
    obtain ⟨_, vs, _, hvs, rfl⟩ := Tree.valueWithin_array.1 hv
    exact .array (Items.Spelled.denotes h hvs)
  | emptyObject _ =>
    obtain ⟨_, ms, _, hms, rfl⟩ := Tree.valueWithin_object.1 hv
    obtain rfl : [] = ms := by simpa [Members.entriesWithin] using hms
    exact .object .close
  | object _ h =>
    obtain ⟨_, ms, _, hms, rfl⟩ := Tree.valueWithin_object.1 hv
    exact .object (Members.Spelled.denotes h hms)

theorem Items.Spelled.denotes {text rest : List Char} {items : Items} {depth : Nat}
    {vs : List Value} (h : Items.Spelled text items rest)
    (hvs : items.valuesWithin depth = .ok vs) : items.Denotes vs := by
  cases h with
  | last hvalue _ =>
    obtain ⟨v, vs', hv, hvs', rfl⟩ := Items.valuesWithin_item.1 hvs
    obtain rfl : [] = vs' := by simpa [Items.valuesWithin] using hvs'
    exact .item (Tree.Spelled.denotes hvalue hv) .close
  | more hvalue _ _ h =>
    obtain ⟨v, vs', hv, hvs', rfl⟩ := Items.valuesWithin_item.1 hvs
    exact .item (Tree.Spelled.denotes hvalue hv) (Items.Spelled.denotes h hvs')

theorem Members.Spelled.denotes {text rest : List Char} {members : Members} {depth : Nat}
    {ms : List (String × Value)} (h : Members.Spelled text members rest)
    (hms : members.entriesWithin depth = .ok ms) : members.Denotes ms := by
  cases h with
  | last _ _ _ hvalue _ =>
    obtain ⟨k, v, ms', hk, hv, hms', rfl⟩ := Members.entriesWithin_member.1 hms
    obtain rfl : [] = ms' := by simpa [Members.entriesWithin] using hms'
    obtain rfl : _ = k.toList := by simpa [Literal.whole] using Literal.string_eq_ok.1 hk
    exact .member (Tree.Spelled.denotes hvalue hv) .close
  | more _ _ _ hvalue _ _ h =>
    obtain ⟨k, v, ms', hk, hv, hms', rfl⟩ := Members.entriesWithin_member.1 hms
    obtain rfl : _ = k.toList := by simpa [Literal.whole] using Literal.string_eq_ok.1 hk
    exact .member (Tree.Spelled.denotes hvalue hv) (Members.Spelled.denotes h hms')

end

mutual

/-- A tree that stands for a value can be passed over. -/
theorem Tree.Denotes.pass_eq {t : Tree} {v : Value} (h : t.Denotes v) : t.pass = .ok () := by
  cases h with
  | null => rfl
  | bool => rfl
  | number _ => rfl
  | string => rfl
  | array h => exact Items.Denotes.pass_eq h
  | object h => exact Members.Denotes.pass_eq h

theorem Items.Denotes.pass_eq {items : Items} {vs : List Value} (h : items.Denotes vs) :
    items.pass = .ok () := by
  cases h with
  | close => rfl
  | item hvalue h =>
    rw [Items.pass, Tree.Denotes.pass_eq hvalue]
    exact Items.Denotes.pass_eq h

theorem Members.Denotes.pass_eq {members : Members} {ms : List (String × Value)}
    (h : members.Denotes ms) : members.pass = .ok () := by
  cases h with
  | close => rfl
  | member hvalue h =>
    simp only [Members.pass, Literal.whole, Tree.Denotes.pass_eq hvalue]
    exact Members.Denotes.pass_eq h

end

/-! ## Agreement -/

/-- On trees that stand for a value the reader gives what the value means, and nothing when it
    means nothing. -/
def Agrees {α : Type} (read : Tree → Result α) (Means : Value → α → Prop) : Prop :=
  ∀ {t : Tree} {v : Value}, t.Denotes v → ∀ a, read t = .ok a ↔ Means v a

/-- The value is this string. -/
def IsString (v : Value) (s : String) : Prop := v = .string s

/-- The value is this whole number of 64 bits. -/
def IsInt64 (v : Value) (n : Int64) : Prop := v = .int n.toInt

/-- The value is null, or it has the meaning that is wanted. -/
inductive OrNull {α : Type} (Means : Value → α → Prop) : Value → Option α → Prop
  | null : OrNull Means .null none
  | value {v : Value} {a : α} (h : Means v a) : OrNull Means v (some a)

/-- The value is a list, and its elements have these meanings. -/
def IsList {α : Type} (Means : Value → α → Prop) (v : Value) (as : List α) : Prop :=
  ∃ vs, v = .array vs ∧ List.Forall₂ Means vs as

/-- The value is the name of a variant, or an object with that name for its only key and null for
    its value. -/
def IsVariant {α : Type} (variants : List (String × α)) (v : Value) (a : α) : Prop :=
  ∃ name, variants.lookup name = some a ∧ (v = .string name ∨ v = .object [(name, .null)])

theorem agrees_asString : Agrees Tree.asString IsString := by
  intro t v h s
  cases h with
  | string => simp [Tree.asString, ofFault, Literal.string_whole, IsString]
  | _ => simp [Tree.asString, IsString]

theorem IntegerType.ofNumber_integer {type : IntegerType} {i j : Int} :
    type.ofNumber (.integer i) = .ok j ↔ i = j ∧ type.least ≤ i ∧ i ≤ type.greatest := by
  rw [IntegerType.ofNumber]
  split
  · next hrange => simp_all
  · next hrange =>
    simp only [Bool.and_eq_true, decide_eq_true_eq] at hrange
    simp [hrange]

theorem agrees_readInt64 : Agrees Record.readInt64 IsInt64 := by
  intro t v h n
  rw [Record.readInt64, map_eq_ok]
  cases h with
  | @number l x hl =>
    simp only [Tree.asInteger, hl, IsInt64]
    cases x with
    | real x => simp [IntegerType.ofNumber, Value.int]
    | integer i =>
      simp only [IntegerType.ofNumber_integer, IntegerType.signed64, Value.int,
        Value.number.injEq, Number.integer.injEq]
      -- Within the range, numbers and their 64 bits are the same.
      refine ⟨?_, ?_⟩
      · rintro ⟨_, ⟨rfl, hleast, hgreatest⟩, rfl⟩
        exact (Int64.toInt_ofInt_of_le hleast (by omega)).symm
      · rintro rfl
        have := n.toInt_lt
        exact ⟨_, ⟨rfl, n.le_toInt, by omega⟩, Int64.ofInt_toInt n⟩
  | _ => simp [Tree.asInteger, IsInt64, Value.int]

theorem Agrees.asOptional {α : Type} {read : Tree → Result α} {Means : Value → α → Prop}
    (hread : Agrees read Means) (hnull : ∀ a, ¬Means .null a) :
    Agrees (Tree.asOptional read) (OrNull Means) := by
  intro t v h o
  -- Only null is treated in its own way.
  have hrest : t ≠ .null → ((read t).map some = .ok o ↔ OrNull Means v o) := by
    intro hne
    rw [map_eq_ok]
    constructor
    · rintro ⟨a, ha, rfl⟩
      exact .value ((hread h a).1 ha)
    · intro ho
      cases ho with
      | null => cases h; exact absurd rfl hne
      | value ha => exact ⟨_, (hread h _).2 ha, rfl⟩
  cases h with
  | null =>
    rw [Tree.asOptional]
    constructor
    · intro ho
      obtain rfl : none = o := by simpa using ho
      exact .null
    · intro ho
      cases ho with
      | null => rfl
      | value ha => exact absurd ha (hnull _)
  | _ => exact hrest (by simp)

theorem Agrees.items {α : Type} {read : Tree → Result α} {Means : Value → α → Prop}
    (hread : Agrees read Means) {items : Items} {vs : List Value} (h : items.Denotes vs)
    (as : List α) : items.asList read = .ok as ↔ List.Forall₂ Means vs as := by
  cases h with
  | close => simp [Items.asList, eq_comm]
  | @item value v items vs hvalue h =>
    rw [Items.asList]
    cases hr : read value with
    | error e =>
      -- The element means nothing, so the list means nothing.
      have hnone : ∀ a, ¬Means v a := fun a ha => by simp [(hread hvalue a).2 ha] at hr
      cases as <;> simp [hnone]
    | ok a =>
      have hone : ∀ b, Means v b ↔ a = b := fun b => by simp [← hread hvalue b, hr]
      cases as with
      | nil => simp [map_eq_ok]
      | cons b bs => simp [map_eq_ok, hone, hread.items h, and_comm]

theorem Agrees.asList {α : Type} {read : Tree → Result α} {Means : Value → α → Prop}
    (hread : Agrees read Means) : Agrees (Tree.asList read) (IsList Means) := by
  intro t v h as
  cases h with
  | array h => simp [Tree.asList, IsList, hread.items h]
  | _ => simp [Tree.asList, IsList]

theorem variantNamed_eq_ok {α : Type} {variants : List (String × α)} {name : String} {a : α} :
    variantNamed variants name = .ok a ↔ variants.lookup name = some a := by
  rw [variantNamed]
  cases variants.lookup name <;> simp

theorem Literal.variant_whole {α : Type} {variants : List (String × α)} {name : String} {a : α} :
    (Literal.whole name.toList).variant variants = .ok a ↔ variants.lookup name = some a := by
  rw [Literal.variant, Literal.string_whole, String.ofList_toList]
  exact variantNamed_eq_ok

theorem asUnit_eq_ok {t : Tree} {v : Value} (h : t.Denotes v) : t.asUnit = .ok () ↔ v = .null := by
  cases h <;> simp [Tree.asUnit]

theorem agrees_asVariant {α : Type} (variants : List (String × α)) :
    Agrees (Tree.asVariant variants) (IsVariant variants) := by
  intro t v h a
  cases h with
  | string => simp [Tree.asVariant, Literal.variant_whole, IsVariant]
  | @object members ms h =>
    cases h with
    | close => simp [Tree.asVariant, Members.asVariant, IsVariant]
    | @member k value v rest ms hvalue h =>
      have hname : IsVariant variants (.object ((k, v) :: ms)) a ↔
          variants.lookup k = some a ∧ v = .null ∧ ms = [] := by
        simp [IsVariant]
      rw [hname, ← asUnit_eq_ok hvalue, ← Literal.variant_whole, Tree.asVariant,
        Members.asVariant]
      cases (Literal.whole k.toList).variant variants with
      | error e => simp
      | ok b =>
        cases value.asUnit with
        | error e => simp
        | ok _ => cases h <;> simp
  | _ => simp [Tree.asVariant, IsVariant]

end ShardBridge.Json
