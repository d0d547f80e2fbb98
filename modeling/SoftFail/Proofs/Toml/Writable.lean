import SoftFail.Proofs.Toml.Document

/-! Which documents can be printed: those with no value in them that has no text. -/

namespace SoftFail.Toml

theorem isSome_mapM {α β : Type} {f : α → Option β} {as : List α} :
    (as.mapM f).isSome = true ↔ ∀ a ∈ as, (f a).isSome = true := by
  induction as with
  | nil => simp
  | cons a as ih =>
    rw [List.mapM_cons, List.forall_mem_cons, ← ih]
    cases f a <;> cases as.mapM f <;> simp

/-! Single values. -/

theorem isSome_valueText_natural {n : Nat} :
    (valueText (.natural n)).isSome = true ↔ n < bound63 := by
  rw [Value.natural, valueText, ← isSigned64_natCast_iff]
  split <;> simp [*]

theorem isSome_itemLines {items : List Value} :
    (itemLines items).isSome = true ↔ ∀ v ∈ items, (valueText v).isSome = true := by
  induction items with
  | nil => simp [itemLines]
  | cons v items ih =>
    rw [itemLines, List.forall_mem_cons, ← ih]
    cases valueText v <;> cases itemLines items <;> simp

theorem isSome_valueText_list {items : List Value} :
    (valueText (.list items)).isSome = true ↔ ∀ v ∈ items, (valueText v).isSome = true := by
  match items with
  | [] => simp [valueText]
  | [v] => rw [valueText, Option.isSome_map, List.forall_mem_singleton]
  | v :: w :: items =>
    have hmany : valueText (.list (v :: w :: items)) =
        (itemLines (v :: w :: items)).map fun s => '[' :: s ++ ['\n', ']'] := by simp [valueText]
    rw [hmany, Option.isSome_map, isSome_itemLines]

/-! Fields and documents. -/

theorem isSome_lineTexts {fields : List (String × Value)} :
    (lineTexts fields).isSome = true ↔ ∀ f ∈ fields, (valueText f.2).isSome = true := by
  have hline (f : String × Value) : (fieldLine f).isSome = (valueText f.2).isSome := by
    rw [fieldLine]
    cases valueText f.2 <;> rfl
  simp only [← hline]
  rw [← isSome_mapM, lineTexts_eq]
  cases fields.mapM fieldLine <;> rfl

theorem isSome_tableText (name : String) {row : List (String × Value)} :
    (tableText name row).isSome = true ↔ ∀ f ∈ row, (valueText f.2).isSome = true := by
  rw [← isSome_lineTexts, tableText]
  cases lineTexts row <;> rfl

/-- All values of a field have a text: those of its tables, if it is a list of records, or else the
field itself. -/
def Writable (f : String × Value) : Prop :=
  match records? f.2 with
  | some rows => ∀ row ∈ rows, ∀ g ∈ row, (valueText g.2).isSome = true
  | none => (valueText f.2).isSome = true

theorem writable_iff {f : String × Value} :
    Writable f ↔ ((records? f.2).isNone = true → (valueText f.2).isSome = true) ∧
      (fieldTables f).isSome = true := by
  have htables : (fieldTables f).isSome = true ↔
      ∀ row ∈ (records? f.2).getD [], ∀ g ∈ row, (valueText g.2).isSome = true := by
    simp only [← isSome_tableText f.1]
    rw [← isSome_mapM, fieldTables]
    cases ((records? f.2).getD []).mapM (tableText f.1) <;> rfl
  rw [htables, Writable]
  cases records? f.2 <;> simp

theorem isSome_print {fields : List (String × Value)} :
    (print fields).isSome = true ↔ ∀ f ∈ fields, Writable f := by
  have hboth : (print fields).isSome = true ↔
      (lineTexts (fields.filter fun f => (records? f.2).isNone)).isSome = true ∧
        (fields.mapM fieldTables).isSome = true := by
    rw [print_eq]
    cases lineTexts (fields.filter fun f => (records? f.2).isNone) <;>
      cases fields.mapM fieldTables <;> simp
  rw [hboth, isSome_lineTexts, isSome_mapM]
  simp only [writable_iff, List.mem_filter, and_imp]
  exact ⟨fun h f hf => ⟨h.1 f hf, h.2 f hf⟩,
    fun h => ⟨fun f hf => (h f hf).1, fun f hf => (h f hf).2⟩⟩

theorem writable_line {f : String × Value} (h : records? f.2 = none) :
    Writable f ↔ (valueText f.2).isSome = true := by
  rw [Writable, h]

@[simp] theorem writable_natural {name : String} {n : Nat} :
    Writable (name, .natural n) ↔ n < bound63 :=
  (writable_line rfl).trans isSome_valueText_natural

@[simp] theorem writable_boolean (name : String) (b : Bool) : Writable (name, .boolean b) :=
  (writable_line rfl).2 (by rw [valueText]; rfl)

@[simp] theorem writable_float (name : String) (x : Float) : Writable (name, .number (.float x)) :=
  (writable_line rfl).2 (by rw [valueText]; rfl)

@[simp] theorem writable_text (name s : String) : Writable (name, .text s) :=
  (writable_line rfl).2 (by rw [valueText]; rfl)

@[simp] theorem writable_texts (name : String) (texts : List String) :
    Writable (name, .list (texts.map .text)) := by
  refine (writable_line ?_).2 (isSome_valueText_list.2 ?_)
  · cases texts <;> rfl
  · exact List.forall_mem_map.2 fun s _ => by rw [valueText]; rfl

theorem writable_rows {name : String} {rows : List (List (String × Value))} :
    Writable (name, .list (rows.map .record)) ↔
      ∀ row ∈ rows, ∀ f ∈ row, (valueText f.2).isSome = true := by
  cases rows with
  | nil => exact iff_of_true ((writable_line rfl).2 rfl) (by simp)
  | cons row rows => rw [Writable, records?_rows (List.cons_ne_nil row rows)]

end SoftFail.Toml
