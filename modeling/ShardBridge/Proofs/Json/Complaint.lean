/-
  ShardBridge.Proofs.Json.Complaint

  What readers of a schema can complain of in a text that the general reader
  takes.  A tree that stands for a value holds no place where the text breaks
  off, so a reader of it complains of content or of form, but never that the
  text is cut (`Complaint.category`); and the words that it uses are those of
  its schema, but for a value or a name of a variant that stands in the text.

    * `Vocabulary` -- the words of a schema;
    * `Complaint w e` -- the error is one that these words allow;
    * `Complains w read` -- the reader gives no other error on trees that stand
      for a value; what it passes over counts with the rest.

  Single values, optional values, variants and lists have the property, and a
  shape has it when its fields have (`Shape.complains`).
-/
import ShardBridge.Proofs.Json.Conformance

namespace ShardBridge.Json

/-! ## Words -/

/-- The words of a schema. -/
structure Vocabulary where
  /-- The names of types. -/
  types : List String
  /-- The names of fields. -/
  fields : List String
  /-- The numbers of fields that lists hold in order, and how the lists are called. -/
  lengths : List (Nat × String)
  /-- The variants of which one is named. -/
  variants : List (List String)

/-- An error that the words allow, in a text that the general reader takes. -/
inductive Complaint (w : Vocabulary) : Error → Prop
  | form {f : Fault} (h : f.isEnd = false) : Complaint w (.fault f)
  | wrongType {t : Tree} {v : Value} (hvalue : t.Denotes v) {expected : String}
    (h : expected ∈ w.types) : Complaint w (v.found.wrongType expected)
  | wrongValue {t : Tree} {n : Int} (hvalue : t.Denotes (.int n)) {expected : String}
    (h : expected ∈ w.types) : Complaint w ((Value.int n).found.wrongValue expected)
  | wrongLength {n count : Nat} {expected : String} (hn : n < count)
    (h : (count, expected) ∈ w.lengths) : Complaint w (.mismatch (.wrongLength n expected))
  | missingField {name : String} (h : name ∈ w.fields) :
    Complaint w (.mismatch (.missingField name))
  | duplicateField {name : String} (h : name ∈ w.fields) :
    Complaint w (.mismatch (.duplicateField name))
  | unknownVariant {name : String} {variants : List String} (h : variants ∈ w.variants) :
    Complaint w (.mismatch (.unknownVariant name variants))

variable {α β δ : Type} {w : Vocabulary}

/-- No complaint is that the text ends too early. -/
theorem Complaint.category {e : Error} (h : Complaint w e) : e.category ≠ .ending := by
  cases h with
  | form h =>
    rw [Error.category, h]
    exact Category.noConfusion
  | _ => exact Category.noConfusion

/-- What the result complains of, if anything, is what the words allow. -/
def Admits (w : Vocabulary) (r : Result α) : Prop := ∀ e, r = .error e → Complaint w e

section Results

variable {r : Result α} {e : Error}

theorem admits_ok (a : α) : Admits w (.ok a : Result α) := by
  intro e h
  cases h

theorem admits_error (h : Complaint w e) : Admits w (.error e : Result α) := by
  rintro _ ⟨⟩
  exact h

theorem Admits.map (h : Admits w r) (g : α → β) : Admits w (r.map g) := by
  cases r with
  | ok a => exact admits_ok (g a)
  | error e => exact admits_error (h e rfl)

theorem Admits.of_error (h : Admits w r) (hr : r = .error e) : Admits w (.error e : Result β) :=
  admits_error (h e hr)

end Results

/-! ## Readers -/

/-- On trees that stand for a value the reader complains only of what the words allow. -/
def Complains (w : Vocabulary) (read : Tree → Result α) : Prop :=
  ∀ {t : Tree} {v : Value}, t.Denotes v → Admits w (read t)

variable {t : Tree} {v : Value} {read : Tree → Result α}

/-- A value of another type than is expected is named as it stands. -/
theorem Tree.Denotes.wrongType_eq (h : t.Denotes v) (expected : String) :
    t.wrongType expected = v.found.wrongType expected := by
  cases h with
  | number h =>
    rw [Tree.wrongType, h]
    rfl
  | string =>
    rw [Tree.wrongType, Literal.string_whole, String.ofList_toList]
    rfl
  | _ => rfl

theorem Tree.Denotes.admits_wrongType (h : t.Denotes v) {expected : String}
    (hword : expected ∈ w.types) : Admits w (.error (t.wrongType expected) : Result α) := by
  rw [h.wrongType_eq]
  exact admits_error (.wrongType h hword)

theorem complains_asString (hword : "a string" ∈ w.types) : Complains w Tree.asString := by
  intro t v h
  have hwrong := h.admits_wrongType (α := String) hword
  cases h with
  | string =>
    rw [Tree.asString, Literal.string_whole]
    exact admits_ok _
  | _ => exact hwrong

theorem complains_asUnit (hword : "unit" ∈ w.types) : Complains w Tree.asUnit := by
  intro t v h
  have hwrong := h.admits_wrongType (α := Unit) hword
  cases h with
  | null => exact admits_ok ()
  | _ => exact hwrong

theorem complains_asInteger (type : IntegerType) (hword : type.name ∈ w.types) :
    Complains w (Tree.asInteger type) := by
  intro t v h
  have hwrong := h.admits_wrongType (α := Int) hword
  cases h with
  | @number l n hl =>
    have hdenotes : (Tree.number l).Denotes (.number n) := .number hl
    rw [Tree.asInteger, hl]
    dsimp only
    cases n with
    | integer n =>
      rw [IntegerType.ofNumber]
      split
      · exact admits_ok n
      · exact admits_error (.wrongValue hdenotes hword)
    | real x => exact admits_error (.wrongType hdenotes hword)
  | _ => exact hwrong

theorem complains_readInt64 (hword : "i64" ∈ w.types) : Complains w Record.readInt64 :=
  fun h => (complains_asInteger .signed64 hword h).map Int64.ofInt

theorem Complains.asOptional (hread : Complains w read) : Complains w (Tree.asOptional read) := by
  intro t v h
  have hvalue := (hread h).map some
  cases h with
  | null => exact admits_ok none
  | _ => exact hvalue

/-! ## Variants -/

variable {variants : List (String × α)}

theorem admits_variant (hword : variants.map Prod.fst ∈ w.variants) (name : String) :
    Admits w ((Literal.whole name.toList).variant variants) := by
  rw [Literal.variant, Literal.string_whole]
  dsimp only
  rw [variantNamed]
  split
  · exact admits_ok _
  · exact admits_error (.unknownVariant hword)

theorem complains_asVariant (hword : variants.map Prod.fst ∈ w.variants)
    (hunit : "unit" ∈ w.types) : Complains w (Tree.asVariant variants) := by
  intro t v h
  cases h with
  | string => exact admits_variant hword _
  | object h =>
    cases h with
    | close => exact admits_error (.form rfl)
    | @member k value v rest ms hvalue h =>
      rw [Tree.asVariant, Members.asVariant]
      cases hname : (Literal.whole k.toList).variant variants with
      | error e => exact (admits_variant hword k).of_error hname
      | ok a =>
        dsimp only
        cases hnull : value.asUnit with
        | error e => exact (complains_asUnit hunit hvalue).of_error hnull
        | ok _ =>
          -- A member after the first is one too many.
          cases h with
          | close => exact admits_ok a
          | member _ _ => exact admits_error (.form rfl)
  | _ => exact admits_error (.form rfl)

/-! ## Lists -/

theorem Complains.items (hread : Complains w read) {items : Items} {vs : List Value}
    (h : items.Denotes vs) : Admits w (items.asList read) := by
  cases h with
  | close => exact admits_ok []
  | @item value v items vs hvalue h =>
    rw [Items.asList]
    cases hr : read value with
    | error e => exact (hread hvalue).of_error hr
    | ok a => exact (hread.items h).map (a :: ·)

theorem Complains.asList (hread : Complains w read) (hword : "a sequence" ∈ w.types) :
    Complains w (Tree.asList read) := by
  intro t v h
  have hwrong := h.admits_wrongType (α := List α) hword
  cases h with
  | array h => exact hread.items h
  | _ => exact hwrong

theorem Items.Denotes.admits_finish {items : Items} {vs : List Value} (h : items.Denotes vs) :
    Admits w items.finish := by
  cases h with
  | close => exact admits_ok ()
  | item _ _ => exact admits_error (.form rfl)

/-! ## Shapes -/

/-- The name of the field is a word, and reading the field complains of nothing else, whatever was
    read before. -/
structure Field.Complains (w : Vocabulary) (field : Field δ) : Prop where
  name : field.name ∈ w.fields
  take : ∀ d : δ, Json.Complains w (field.take · d)

theorem Field.complains_required {name : String} (hname : name ∈ w.fields) (slot : δ → Option α)
    (put : α → δ → δ) (hread : Json.Complains w read) :
    (Field.required name slot put read).Complains w :=
  ⟨hname, fun d _ _ h => (hread h).map (put · d)⟩

theorem Field.complains_optional {name : String} (hname : name ∈ w.fields) (slot : δ → Option α)
    (put : α → δ → δ) (hread : Json.Complains w read) :
    (Field.optional name slot put read).Complains w :=
  ⟨hname, fun d _ _ h => (hread h).map (put · d)⟩

/-- Members that stand for something are read or passed over to the last. -/
theorem Members.Denotes.admits_fill {fields : List (Field δ)}
    (hfields : ∀ field ∈ fields, field.Complains w) {members : Members}
    {ms : List (String × Value)} (h : members.Denotes ms) (d : δ) :
    Admits w (members.fill fields d) := by
  cases h with
  | close => exact admits_ok d
  | @member k value v rest ms hvalue h =>
    rw [Members.fill, Literal.string_whole]
    dsimp only
    cases hfield : fieldNamed fields (String.ofList k.toList) with
    | none =>
      -- What no field takes is passed over, and it is whole, since it stands for a value.
      dsimp only
      rw [hvalue.pass_eq]
      exact Members.Denotes.admits_fill hfields h d
    | some field =>
      have hcomplains := hfields field (List.mem_of_find?_eq_some hfield)
      have hname : field.name = String.ofList k.toList := by
        simpa using List.find?_some hfield
      dsimp only
      split
      · rw [← hname]
        exact admits_error (.duplicateField hcomplains.name)
      · have htake := hcomplains.take d hvalue
        cases hd : field.take value d with
        | error e => exact htake.of_error hd
        | ok d' => exact Members.Denotes.admits_fill hfields h d'

/-- Items that stand for something are read to the last field, and there are no more of them. -/
theorem Items.Denotes.admits_fill {expected : String} {count : Nat}
    (hword : (count, expected) ∈ w.lengths) {fields : List (Field δ)}
    (hfields : ∀ field ∈ fields, field.Complains w) {items : Items} {vs : List Value}
    (h : items.Denotes vs) {i : Nat} (hi : i + fields.length = count) (d : δ) :
    Admits w (items.fill expected fields i d) := by
  induction fields generalizing items vs i d with
  | nil =>
    rw [Items.fill]
    exact h.admits_finish.map _
  | cons field fields ih =>
    have hrest : ∀ f ∈ fields, f.Complains w := fun f hf => hfields f (List.mem_cons_of_mem _ hf)
    rw [List.length_cons] at hi
    cases h with
    | close =>
      rw [Items.fill]
      split
      · exact ih hrest .close (by omega) _
      · exact admits_error (.wrongLength (by omega) hword)
    | @item value v items vs hvalue h =>
      have htake := (hfields field (List.mem_cons_self ..)).take d hvalue
      rw [Items.fill]
      cases hd : field.take value d with
      | error e => exact htake.of_error hd
      | ok d' => exact ih hrest h (by omega) _

variable {shape : Shape δ α}

/-- A shape that is read from members complains as its fields do. -/
theorem Shape.admits_ofMembers (hfields : ∀ field ∈ shape.fields, field.Complains w)
    (hbuild : ∀ d, Admits w (shape.build d)) {members : Members} {ms : List (String × Value)}
    (h : members.Denotes ms) : Admits w (shape.ofMembers members) := by
  have hfill := h.admits_fill hfields shape.blank
  rw [Shape.ofMembers]
  cases hd : members.fill shape.fields shape.blank with
  | error e => exact hfill.of_error hd
  | ok d => exact hbuild d

/-- A shape complains as its fields do, of its name and of the length of a list of its fields. -/
theorem Shape.complains (hfields : ∀ field ∈ shape.fields, field.Complains w)
    (hbuild : ∀ d, Admits w (shape.build d)) (hname : shape.name ∈ w.types)
    (hlength : (shape.fields.length, shape.lengthName) ∈ w.lengths) :
    Complains w shape.ofTree := by
  intro t v h
  have hwrong := h.admits_wrongType (α := α) hname
  cases h with
  | @array items vs h =>
    have hfill := h.admits_fill hlength hfields (Nat.zero_add _) shape.blank
    rw [Shape.ofTree, Shape.ofItems]
    cases hd : items.fill shape.lengthName shape.fields 0 shape.blank with
    | error e => exact hfill.of_error hd
    | ok d => exact hbuild d
  | object h => exact Shape.admits_ofMembers hfields hbuild h
  | _ => exact hwrong

theorem admits_present {name : String} (hname : name ∈ w.fields) (o : Option α) :
    Admits w (present name o) := by
  cases o with
  | none => exact admits_error (.missingField hname)
  | some a => exact admits_ok a

end ShardBridge.Json
