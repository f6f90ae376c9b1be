/-
  ShardBridge.Proofs.Json.Layout

  Objects with fields.  A draft is made of slots, one for each field, and a
  `Layout` says that the slots do not touch each other and that nothing else is
  in the draft.  Then reading the members of an object comes down to its slots:
  each one holds what the values under its name mean, where a name may occur
  once at most (`Layout.fill_members_iff`).  A list of the fields fills the
  slots in their order (`Layout.fill_items_iff`).
-/
import Mathlib.Data.List.Nodup
import ShardBridge.Proofs.Json.Conformance

namespace ShardBridge.Json

/-! ## Values under a key -/

/-- The values of the members with this key, in the order of the text. -/
def Value.under (key : String) (members : List (String × Value)) : List Value :=
  (members.filter fun m => m.1 = key).map Prod.snd

namespace Value

@[simp] theorem under_nil (key : String) : under key [] = [] := rfl

@[simp] theorem under_cons_self (key : String) (v : Value) (ms : List (String × Value)) :
    under key ((key, v) :: ms) = v :: under key ms := by simp [under]

theorem under_cons_of_ne {key k : String} (h : k ≠ key) (v : Value)
    (ms : List (String × Value)) : under key ((k, v) :: ms) = under key ms := by
  simp [under, h]

theorem under_append (key : String) (ms ms' : List (String × Value)) :
    under key (ms ++ ms') = under key ms ++ under key ms' := by
  simp [under]

theorem under_unknown {key k : String} (h : k ≠ key) (before after : List (String × Value))
    (v : Value) : under key (before ++ (k, v) :: after) = under key (before ++ after) := by
  rw [under_append, under_append, under_cons_of_ne h]

theorem under_perm {ms ms' : List (String × Value)} (h : ms.Perm ms') (key : String) :
    (under key ms).Perm (under key ms') := (h.filter _).map _

/-- Of members with one key the last one counts. -/
theorem lastWithKey_eq (key : String) (ms : List (String × Value)) :
    lastWithKey key ms = (under key ms).getLast? := by
  induction ms with
  | nil => rfl
  | cons m ms ih =>
    obtain ⟨k, v⟩ := m
    rw [lastWithKey, ih]
    -- A later member with the key takes the place of this one.
    by_cases hk : k = key
    · subst hk
      rw [under_cons_self]
      cases hl : under k ms with
      | nil => simp
      | cons w ws => simp [List.getLast?_cons]
    · rw [under_cons_of_ne hk]
      cases (under key ms).getLast? <;> simp [hk]

end Value

/-- What a field gets from the values under its name: nothing when there are none, and the meaning
    of the value when there is one.  More than one are refused. -/
inductive Yields {α : Type} (Means : Value → α → Prop) : List Value → Option α → Prop
  | absent : Yields Means [] none
  | once {v : Value} {a : α} (h : Means v a) : Yields Means [v] (some a)

/-! ## Slots -/

/-- A field and its slot in a draft. -/
structure Slot (δ : Type) where
  {α : Type}
  name : String
  mayEndBefore : Bool
  get : δ → Option α
  put : α → δ → δ
  read : Tree → Result α
  Means : Value → α → Prop
  agrees : Agrees read Means
  get_put : ∀ (a : α) (d : δ), get (put a d) = some a

namespace Slot

variable {δ : Type}

/-- The slot of a field that must be there. -/
def required {α : Type} (name : String) (get : δ → Option α) (put : α → δ → δ)
    {read : Tree → Result α} {Means : Value → α → Prop} (agrees : Agrees read Means)
    (get_put : ∀ a d, get (put a d) = some a := by intros; rfl) : Slot δ :=
  { name, mayEndBefore := false, get, put, read, Means, agrees, get_put }

/-- The slot of a field that may be left out. -/
def optional {α : Type} (name : String) (get : δ → Option α) (put : α → δ → δ)
    {read : Tree → Result α} {Means : Value → α → Prop} (agrees : Agrees read Means)
    (get_put : ∀ a d, get (put a d) = some a := by intros; rfl) : Slot δ :=
  { name, mayEndBefore := true, get, put, read, Means, agrees, get_put }

/-- The field of a slot. -/
def field (s : Slot δ) : Field δ :=
  ⟨s.name, s.mayEndBefore, fun d => (s.get d).isSome, fun t d => (s.read t).map (s.put · d)⟩

@[simp] theorem field_mayEndBefore (s : Slot δ) : s.field.mayEndBefore = s.mayEndBefore := rfl

/-- What becomes of a slot when it gets these values: an empty one takes what they yield, and a full
    one stays as it is if there are none. -/
def Goes (s : Slot δ) (vs : List Value) (d d' : δ) : Prop :=
  s.get d = none ∧ Yields s.Means vs (s.get d') ∨ s.get d ≠ none ∧ vs = [] ∧ s.get d' = s.get d

theorem goes_nil {s : Slot δ} {d d' : δ} : s.Goes [] d d' ↔ s.get d' = s.get d := by
  constructor
  · rintro (⟨hd, h⟩ | ⟨-, -, h⟩)
    · generalize s.get d' = o at h
      cases h
      exact hd.symm
    · exact h
  · intro h
    by_cases hd : s.get d = none
    · refine .inl ⟨hd, ?_⟩
      rw [h, hd]
      exact .absent
    · exact .inr ⟨hd, rfl, h⟩

/-- A value goes into an empty slot, and no other comes after it. -/
theorem goes_cons {s : Slot δ} {v : Value} {vs : List Value} {d d' : δ} :
    s.Goes (v :: vs) d d' ↔
      s.get d = none ∧ ∃ a, s.Means v a ∧ s.Goes vs (s.put a d) d' := by
  constructor
  · rintro (⟨hd, h⟩ | ⟨-, h, -⟩)
    · generalize ho : s.get d' = o at h
      cases h with
      | once h => exact ⟨hd, _, h, goes_nil.2 (by rw [ho, s.get_put])⟩
    · simp at h
  · rintro ⟨hd, a, ha, h | ⟨-, rfl, h⟩⟩
    · rw [s.get_put] at h
      simp at h
    · refine .inl ⟨hd, ?_⟩
      rw [h, s.get_put]
      exact .once ha

theorem goes_of_empty {s : Slot δ} {vs : List Value} {d d' : δ} (hd : s.get d = none) :
    s.Goes vs d d' ↔ Yields s.Means vs (s.get d') := by simp [Goes, hd]

theorem take_eq_ok {s : Slot δ} {t : Tree} {v : Value} (h : t.Denotes v) {d d' : δ} :
    s.field.take t d = .ok d' ↔ ∃ a, s.Means v a ∧ s.put a d = d' := by
  simp [field, map_eq_ok, s.agrees h]

end Slot

/-! ## Layouts -/

/-- The slots of a draft: every one has a name of its own, to fill one leaves the others alone, and
    together they are the whole draft. -/
structure Layout (δ : Type) where
  slots : List (Slot δ)
  distinct : (slots.map Slot.name).Nodup
  apart : ∀ s ∈ slots, ∀ s' ∈ slots, s.name ≠ s'.name → ∀ (a : s.α) (d : δ),
    s'.get (s.put a d) = s'.get d
  ext : ∀ d d', (∀ s ∈ slots, s.get d = s.get d') → d = d'

namespace Layout

variable {δ : Type} (layout : Layout δ)

/-- The fields of a layout. -/
def fields : List (Field δ) := layout.slots.map Slot.field

theorem eq_of_name {s s' : Slot δ} (hs : s ∈ layout.slots) (hs' : s' ∈ layout.slots)
    (h : s.name = s'.name) : s = s' := List.inj_on_of_nodup_map layout.distinct hs hs' h

theorem fieldNamed_of_mem {s : Slot δ} (hs : s ∈ layout.slots) :
    fieldNamed layout.fields s.name = some s.field := by
  rw [fieldNamed, fields, List.find?_map, Option.map_eq_some_iff]
  refine ⟨s, ?_, rfl⟩
  cases hfind : layout.slots.find? ((fun f : Field δ => decide (f.name = s.name)) ∘ Slot.field) with
  | none => exact absurd (decide_eq_true rfl) (List.find?_eq_none.1 hfind s hs)
  | some s' =>
    have hfound := List.find?_some hfind
    have hname : s'.name = s.name := of_decide_eq_true hfound
    rw [layout.eq_of_name (List.mem_of_find?_eq_some hfind) hs hname]

theorem fieldNamed_eq_none {name : String} (h : ∀ s ∈ layout.slots, s.name ≠ name) :
    fieldNamed layout.fields name = none := by
  rw [fieldNamed, fields, List.find?_eq_none]
  intro f hf
  obtain ⟨s, hs, rfl⟩ := List.mem_map.1 hf
  exact fun hname => h s hs (of_decide_eq_true hname)

theorem fill_member_of_mem {s : Slot δ} (hs : s ∈ layout.slots) {value : Tree} {v : Value}
    (hvalue : value.Denotes v) (rest : Members) (d d' : δ) :
    (Members.member (Literal.whole s.name.toList) value rest).fill layout.fields d = .ok d' ↔
      s.get d = none ∧ ∃ a, s.Means v a ∧ rest.fill layout.fields (s.put a d) = .ok d' := by
  rw [Members.fill, Literal.string_whole, String.ofList_toList]
  simp only [layout.fieldNamed_of_mem hs]
  -- A slot that is full refuses the member.
  by_cases hd : s.get d = none
  · have hfilled : s.field.filled d = false := by simp [Slot.field, hd]
    simp only [hfilled, Bool.false_eq_true, if_false, hd, true_and]
    constructor
    · intro hfill
      split at hfill
      · simp at hfill
      · next d₁ htake =>
        obtain ⟨a, ha, rfl⟩ := (Slot.take_eq_ok hvalue).1 htake
        exact ⟨a, ha, hfill⟩
    · rintro ⟨a, ha, hfill⟩
      rw [(Slot.take_eq_ok hvalue).2 ⟨a, ha, rfl⟩]
      exact hfill
  · have hfilled : s.field.filled d = true := by
      simpa [Slot.field, Option.isSome_iff_ne_none] using hd
    simp [hfilled, hd]

theorem fill_member_of_unknown {k : String} (hk : ∀ s ∈ layout.slots, s.name ≠ k) {value : Tree}
    {v : Value} (hvalue : value.Denotes v) (rest : Members) (d : δ) :
    (Members.member (Literal.whole k.toList) value rest).fill layout.fields d
      = rest.fill layout.fields d := by
  rw [Members.fill, Literal.string_whole, String.ofList_toList]
  simp only [layout.fieldNamed_eq_none hk, hvalue.pass_eq]

/-- Reading members fills every slot with what the values under its name yield, and fails when one
    of them yields nothing. -/
theorem fill_members_iff {members : Members} {ms : List (String × Value)}
    (h : members.Denotes ms) (d d' : δ) :
    members.fill layout.fields d = .ok d' ↔
      ∀ s ∈ layout.slots, s.Goes (Value.under s.name ms) d d' := by
  cases h with
  | close =>
    simp only [Members.fill, Value.under_nil, Slot.goes_nil, Except.ok.injEq]
    constructor
    · rintro rfl s -
      rfl
    · exact fun h => layout.ext d d' fun s hs => (h s hs).symm
  | @member k value v rest ms hvalue h =>
    by_cases hk : ∃ s ∈ layout.slots, s.name = k
    · obtain ⟨s, hs, rfl⟩ := hk
      rw [layout.fill_member_of_mem hs hvalue]
      -- The other slots do not notice the value.
      have hother : ∀ a, ∀ s' ∈ layout.slots, s.name ≠ s'.name →
          (s'.Goes (Value.under s'.name ms) (s.put a d) d' ↔
            s'.Goes (Value.under s'.name ((s.name, v) :: ms)) d d') := by
        intro a s' hs' hne
        rw [Value.under_cons_of_ne hne, Slot.Goes, Slot.Goes, layout.apart s hs s' hs' hne]
      constructor
      · rintro ⟨hd, a, ha, hfill⟩ s' hs'
        have hgoes := (fill_members_iff h (s.put a d) d').1 hfill s' hs'
        by_cases hname : s.name = s'.name
        · obtain rfl := layout.eq_of_name hs hs' hname
          rw [Value.under_cons_self]
          exact Slot.goes_cons.2 ⟨hd, a, ha, hgoes⟩
        · exact (hother a s' hs' hname).1 hgoes
      · intro hall
        have hgoes := hall s hs
        rw [Value.under_cons_self] at hgoes
        obtain ⟨hd, a, ha, hgoes⟩ := Slot.goes_cons.1 hgoes
        refine ⟨hd, a, ha, (fill_members_iff h (s.put a d) d').2 ?_⟩
        intro s' hs'
        by_cases hname : s.name = s'.name
        · obtain rfl := layout.eq_of_name hs hs' hname
          exact hgoes
        · exact (hother a s' hs' hname).2 (hall s' hs')
    · -- No slot has the name, and the member is passed over.
      have hk' : ∀ s ∈ layout.slots, s.name ≠ k := fun s hs heq => hk ⟨s, hs, heq⟩
      rw [layout.fill_member_of_unknown hk' hvalue, fill_members_iff h d d']
      exact forall₂_congr fun s hs => by rw [Value.under_cons_of_ne (hk' s hs).symm]

/-! ## Lists of fields -/

/-- The values of a list fill the slots in their order; where the list ends before a slot, the slot
    stays empty, which not every slot may. -/
def InOrder : List (Slot δ) → List Value → δ → Prop
  | [], vs, _ => vs = []
  | s :: slots, [], d => s.mayEndBefore = true ∧ s.get d = none ∧ InOrder slots [] d
  | s :: slots, v :: vs, d => (∃ a, s.Means v a ∧ s.get d = some a) ∧ InOrder slots vs d

theorem finish_eq_ok {items : Items} {vs : List Value} (h : items.Denotes vs) :
    items.finish = .ok () ↔ vs = [] := by
  cases h <;> simp [Items.finish]

theorem fill_item_iff {expected : String} {s : Slot δ} {value : Tree} {v : Value}
    (hvalue : value.Denotes v) {fields : List (Field δ)} {i : Nat} {rest : Items} {d d' : δ} :
    Items.fill expected (s.field :: fields) i (.item value rest) d = .ok d' ↔
      ∃ a, s.Means v a ∧ Items.fill expected fields (i + 1) rest (s.put a d) = .ok d' := by
  rw [Items.fill]
  constructor
  · intro hfill
    split at hfill
    · simp at hfill
    · next d₁ htake =>
      obtain ⟨a, ha, rfl⟩ := (Slot.take_eq_ok hvalue).1 htake
      exact ⟨a, ha, hfill⟩
  · rintro ⟨a, ha, hfill⟩
    rw [(Slot.take_eq_ok hvalue).2 ⟨a, ha, rfl⟩]
    exact hfill

/-- What is left of a list fills the slots that are left, and leaves the others alone. -/
theorem fill_rest_iff (expected : String) {slots : List (Slot δ)}
    (hslots : ∀ s ∈ slots, s ∈ layout.slots) (hdistinct : (slots.map Slot.name).Nodup)
    {items : Items} {vs : List Value} (h : items.Denotes vs) (i : Nat) {d : δ}
    (hd : ∀ s ∈ slots, s.get d = none) (d' : δ) :
    Items.fill expected (slots.map Slot.field) i items d = .ok d' ↔
      (∀ s ∈ layout.slots, s ∉ slots → s.get d' = s.get d) ∧ InOrder slots vs d' := by
  -- The slots that are left are empty, and every step fills the first of them or ends before it.
  induction slots generalizing items vs i d with
  | nil =>
    simp only [List.map_nil, Items.fill, map_eq_ok, finish_eq_ok h, InOrder, List.not_mem_nil,
      not_false_eq_true, forall_const]
    constructor
    · rintro ⟨_, hvs, rfl⟩
      exact ⟨fun _ _ => rfl, hvs⟩
    · rintro ⟨hget, hvs⟩
      exact ⟨(), hvs, layout.ext d d' fun s hs => (hget s hs).symm⟩
  | cons s slots ih =>
    have hs : s ∈ layout.slots := hslots s (List.mem_cons_self ..)
    have hslots' : ∀ s' ∈ slots, s' ∈ layout.slots :=
      fun s' hs' => hslots s' (List.mem_cons_of_mem _ hs')
    obtain ⟨hname, hdistinct'⟩ := List.nodup_cons.1 hdistinct
    have hnot : s ∉ slots := fun hmem => hname (List.mem_map_of_mem hmem)
    have hne : ∀ s' ∈ slots, s.name ≠ s'.name := by
      rintro s' hs' heq
      exact hname (heq ▸ List.mem_map_of_mem hs')
    have hd' : ∀ s' ∈ slots, s'.get d = none := fun s' hs' => hd s' (List.mem_cons_of_mem _ hs')
    cases h with
    | close =>
      -- The list is at its end: the slot stays empty, if it may.
      have hrest := ih hslots' hdistinct' .close (i + 1) hd'
      rw [List.map_cons, Items.fill, InOrder, Slot.field_mayEndBefore]
      by_cases hmay : s.mayEndBefore = true
      · rw [if_pos hmay, hrest]
        constructor
        · rintro ⟨hget, horder⟩
          refine ⟨fun s' hs' hn => hget s' hs' ?_, hmay, ?_, horder⟩
          · exact fun hmem => hn (List.mem_cons_of_mem _ hmem)
          · rw [hget s hs hnot, hd s (List.mem_cons_self ..)]
        · rintro ⟨hget, -, hnone, horder⟩
          refine ⟨fun s' hs' hn => ?_, horder⟩
          by_cases heq : s' = s
          · rw [heq, hnone, hd s (List.mem_cons_self ..)]
          · exact hget s' hs' (by simp [heq, hn])
      · rw [if_neg hmay]
        simp [hmay]
    | @item value v rest vs hvalue h =>
      -- The slots after this one are as empty as before.
      have hrest : ∀ a, _ := fun a => ih hslots' hdistinct' h (i + 1)
        (d := s.put a d) (fun s' hs' => by
          rw [layout.apart s hs s' (hslots' s' hs') (hne s' hs'), hd' s' hs'])
      simp only [List.map_cons, fill_item_iff hvalue, hrest, InOrder]
      constructor
      · rintro ⟨a, ha, hget, horder⟩
        refine ⟨fun s' hs' hn => ?_, ⟨a, ha, ?_⟩, horder⟩
        · have hname' : s.name ≠ s'.name := by
            intro heq
            exact hn (by rw [layout.eq_of_name hs hs' heq]; exact List.mem_cons_self ..)
          rw [hget s' hs' fun hmem => hn (List.mem_cons_of_mem _ hmem),
            layout.apart s hs s' hs' hname']
        · rw [hget s hs hnot, s.get_put]
      · rintro ⟨hget, ⟨a, ha, hsome⟩, horder⟩
        refine ⟨a, ha, fun s' hs' hn => ?_, horder⟩
        by_cases heq : s.name = s'.name
        · obtain rfl := layout.eq_of_name hs hs' heq
          rw [hsome, s.get_put]
        · rw [layout.apart s hs s' hs' heq]
          refine hget s' hs' ?_
          rintro hmem
          rcases List.mem_cons.1 hmem with rfl | hmem
          · exact heq rfl
          · exact hn hmem

/-- No slot of the draft holds anything. -/
def Blank (d : δ) : Prop := ∀ s ∈ layout.slots, s.get d = none

/-- A list fills the slots of a blank draft in their order. -/
theorem fill_items_iff (expected : String) {items : Items} {vs : List Value}
    (h : items.Denotes vs) {d : δ} (hd : layout.Blank d) (d' : δ) :
    Items.fill expected layout.fields 0 items d = .ok d' ↔ InOrder layout.slots vs d' := by
  rw [fields, layout.fill_rest_iff expected (fun _ hs => hs) layout.distinct h 0 hd]
  exact ⟨And.right, fun horder => ⟨fun s hs hn => absurd hs hn, horder⟩⟩

/-! ## Shapes -/

variable {α : Type} {shape : Shape δ α}

/-- The slots are those of the shape, and its first draft is blank. -/
def Fits (shape : Shape δ α) : Prop := shape.fields = layout.fields ∧ layout.Blank shape.blank

/-- What is read from an object is built from a draft that holds what the values under its names
    yield. -/
theorem ofMembers_iff (hfits : layout.Fits shape) {members : Members}
    {ms : List (String × Value)} (h : members.Denotes ms) (a : α) :
    shape.ofMembers members = .ok a ↔
      ∃ d, (∀ s ∈ layout.slots, Yields s.Means (Value.under s.name ms) (s.get d)) ∧
        shape.build d = .ok a := by
  obtain ⟨hfields, hblank⟩ := hfits
  have hfill : ∀ d, members.fill layout.fields shape.blank = .ok d ↔
      ∀ s ∈ layout.slots, Yields s.Means (Value.under s.name ms) (s.get d) := by
    intro d
    rw [layout.fill_members_iff h]
    exact forall₂_congr fun s hs => Slot.goes_of_empty (hblank s hs)
  rw [Shape.ofMembers, hfields]
  constructor
  · intro hread
    split at hread
    · simp at hread
    · next d hd => exact ⟨d, (hfill d).1 hd, hread⟩
  · rintro ⟨d, hd, hbuild⟩
    rw [(hfill d).2 hd]
    exact hbuild

/-- What is read from a list is built from a draft that holds its values in order. -/
theorem ofItems_iff (hfits : layout.Fits shape) {items : Items} {vs : List Value}
    (h : items.Denotes vs) (a : α) :
    shape.ofItems items = .ok a ↔ ∃ d, InOrder layout.slots vs d ∧ shape.build d = .ok a := by
  obtain ⟨hfields, hblank⟩ := hfits
  rw [Shape.ofItems, hfields]
  constructor
  · intro hread
    split at hread
    · simp at hread
    · next d hd => exact ⟨d, (layout.fill_items_iff _ h hblank d).1 hd, hread⟩
  · rintro ⟨d, hd, hbuild⟩
    rw [(layout.fill_items_iff _ h hblank d).2 hd]
    exact hbuild

end Layout

end ShardBridge.Json
