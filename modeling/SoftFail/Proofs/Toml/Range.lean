import SoftFail.Proofs.Decode.Kinds
import SoftFail.Toml.Reading

/-! All integers of a document fit into 64 bits with their sign. -/

namespace SoftFail

namespace Toml

open Scan

variable {α β : Type} {r r' : Scan α} {f : α → Scan β} {P Q : α → Prop} {R : β → Prop}

def Gives (r : Scan α) (P : α → Prop) : Prop := ∀ s a rest, r s = some (a, rest) → P a

namespace Gives

theorem pure {a : α} (h : P a) : Gives (Pure.pure a) P := by
  rintro _ _ _ ⟨⟩
  exact h

theorem failure : Gives (Alternative.failure : Scan α) P := by
  rintro _ _ _ ⟨⟩

theorem bind (h : Gives r P) (h' : ∀ a, P a → Gives (f a) R) : Gives (r >>= f) R := by
  intro s b rest hb
  obtain ⟨⟨a, left⟩, ha, hb⟩ := Option.bind_eq_some_iff.1 hb
  exact h' a (h s a left ha) left b rest hb

theorem after (h : ∀ a, Gives (f a) R) : Gives (r >>= f) R :=
  .bind (P := fun _ => True) (fun _ _ _ _ => trivial) fun a _ => h a

theorem image {g : α → β} (h : ∀ a, R (g a)) : Gives (g <$> r) R := by
  rw [map_eq_pure_bind]
  exact .after fun a => .pure (h a)

theorem orElse (h : Gives r P) (h' : Gives r' P) : Gives (r <|> r') P := by
  intro s a rest ha
  change (r s <|> r' s) = _ at ha
  cases hr : r s with
  | none =>
    rw [hr] at ha
    exact h' s a rest ha
  | some x =>
    rw [hr] at ha
    exact h s a rest (hr.trans ha)

theorem ite {b : Bool} (h : Gives r P) (h' : Gives r' P) : Gives (if b then r else r') P := by
  cases b
  · exact h'
  · exact h

theorem many (h : Gives r P) : Gives (Scan.many r) fun as => ∀ a ∈ as, P a := by
  have hfrom (fuel : List Char) : Gives (manyFrom r fuel) fun as => ∀ a ∈ as, P a := by
    induction fuel with
    | nil => exact .pure (by simp)
    | cons _ fuel ih =>
      refine .orElse (.bind h fun a ha => .bind ih fun as has => .pure ?_) (.pure (by simp))
      exact List.forall_mem_cons.2 ⟨ha, has⟩
  exact fun s => hfrom s s

theorem separated (h : Gives r P) : Gives (separated r) fun as => ∀ a ∈ as, P a := by
  refine .orElse (.bind h fun a ha => .bind (.many (.after fun _ => h)) fun as has => .pure ?_)
    (.pure (by simp))
  exact List.forall_mem_cons.2 ⟨ha, has⟩

end Gives

/-! Scalars. -/

theorem ranged_gives (i : Int) : Gives (ranged i) Value.Signed := by
  rw [ranged]
  split
  next h => exact .pure (.integer h)
  next => exact .failure

theorem integer_gives : Gives integer Value.Signed := by
  have hbased (mark : Char) (base : Nat) : Gives (basedInteger mark base) Value.Signed :=
    .after fun _ => .after fun _ => ranged_gives _
  have hdecimal : Gives decimalInteger Value.Signed :=
    .after fun _ => .after fun _ => ranged_gives _
  exact .orElse (hbased _ _) (.orElse (hbased _ _) (.orElse (hbased _ _) hdecimal))

theorem pointed_gives : Gives pointed Value.Signed :=
  .after fun _ => .after fun _ => .after fun _ => .ite .failure (.pure (.float _))

theorem special_gives : Gives special Value.Signed :=
  .after fun _ => .after fun _ => .pure (.float _)

theorem moment_gives : Gives moment Value.Signed := by
  intro s v rest h
  obtain ⟨_, _, h⟩ := Option.bind_eq_some_iff.1 h
  cases h
  exact .record (List.forall_mem_singleton.2 (.text _))

theorem flag_gives : Gives flag Value.Signed :=
  .orElse (.after fun _ => .pure (.boolean true)) (.after fun _ => .pure (.boolean false))

theorem scalar_gives : Gives scalar Value.Signed :=
  .orElse moment_gives (.orElse pointed_gives (.orElse special_gives
    (.orElse integer_gives flag_gives)))

/-! Tables. -/

def Fields.Signed (fields : Fields) : Prop := ∀ f ∈ fields, f.2.toValue.Signed

theorem Fields.signed_toFields {fields : Fields} :
    (∀ f ∈ toFields fields, f.2.Signed) ↔ fields.Signed := by
  induction fields with
  | nil => simp [toFields, Signed]
  | cons f fields ih =>
    rw [toFields, List.forall_mem_cons, ih, Signed, Signed, List.forall_mem_cons]

theorem Fields.signed_toRecords {all : List Fields} :
    (∀ v ∈ toRecords all, v.Signed) ↔ ∀ fields ∈ all, fields.Signed := by
  induction all with
  | nil => simp [toRecords]
  | cons fields all ih =>
    rw [toRecords, List.forall_mem_cons, ih, List.forall_mem_cons, ← signed_toFields]
    refine and_congr_left fun _ => ⟨fun h => ?_, .record⟩
    cases h
    assumption

theorem Node.signed_table {origin : Origin} {fields : Fields} :
    (table origin fields).toValue.Signed ↔ fields.Signed := by
  rw [toValue, ← Fields.signed_toFields]
  refine ⟨fun h => ?_, .record⟩
  cases h
  assumption

theorem Node.signed_tables {all : List Fields} :
    (tables all).toValue.Signed ↔ ∀ fields ∈ all, fields.Signed := by
  rw [toValue, ← Fields.signed_toRecords]
  refine ⟨fun h => ?_, .list⟩
  cases h
  assumption

namespace Fields

def Keeps (g : Fields → Option Fields) : Prop :=
  ∀ fields, fields.Signed → ∀ fields' ∈ g fields, fields'.Signed

def KeepsNode (g : Option Node → Option Node) : Prop :=
  ∀ n, (∀ m ∈ n, m.toValue.Signed) → ∀ n' ∈ g n, n'.toValue.Signed

theorem keeps_alter {g : Option Node → Option Node} (h : KeepsNode g) (name : String) :
    Keeps (alter name g) := by
  intro fields hfields
  induction fields with
  | nil =>
    intro fields' hfields'
    obtain ⟨n, hn, rfl⟩ := Option.map_eq_some_iff.1 hfields'
    exact List.forall_mem_singleton.2 (h none (by simp) n hn)
  | cons f fields ih =>
    obtain ⟨other, node⟩ := f
    obtain ⟨hnode, hrest⟩ := List.forall_mem_cons.1 hfields
    intro fields' hfields'
    rw [alter] at hfields'
    split at hfields'
    · obtain ⟨n, hn, rfl⟩ := Option.map_eq_some_iff.1 hfields'
      refine List.forall_mem_cons.2 ⟨h (some node) ?_ n hn, hrest⟩
      rintro m ⟨⟩
      exact hnode
    · obtain ⟨more, hmore, rfl⟩ := Option.map_eq_some_iff.1 hfields'
      exact List.forall_mem_cons.2 ⟨hnode, ih hrest more hmore⟩

theorem signed_alterLast {g : Fields → Option Fields} (h : Keeps g) {all all' : List Fields}
    (hall : ∀ fields ∈ all, fields.Signed) (hall' : all' ∈ alterLast g all) :
    ∀ fields ∈ all', fields.Signed := by
  induction all generalizing all' with
  | nil => cases hall'
  | cons fields all ih =>
    obtain ⟨hfields, hrest⟩ := List.forall_mem_cons.1 hall
    cases all with
    | nil =>
      obtain ⟨last, hlast, rfl⟩ := Option.map_eq_some_iff.1 hall'
      exact List.forall_mem_singleton.2 (h fields hfields last hlast)
    | cons next all =>
      obtain ⟨more, hmore, rfl⟩ := Option.map_eq_some_iff.1 hall'
      exact List.forall_mem_cons.2 ⟨hfields, ih hrest hmore⟩

theorem keeps_within {new : Origin} {g : Origin → Fields → Option Fields}
    (h : ∀ origin, Keeps (g origin)) (path : List String) (origin : Origin) :
    Keeps (within new g path origin) := by
  -- The change is made at the end of the path; on the way to it, tables are only made or passed.
  induction path generalizing origin with
  | nil => exact h origin
  | cons name path ih =>
    refine keeps_alter (fun n hn n' hn' => ?_) name
    split at hn'
    next =>
      obtain ⟨fields, hfields, rfl⟩ := Option.map_eq_some_iff.1 hn'
      exact Node.signed_table.2 (ih new [] (by simp [Signed]) fields hfields)
    next => cases hn'
    next origin inner =>
      split at hn'
      · cases hn'
      · obtain ⟨fields, hfields, rfl⟩ := Option.map_eq_some_iff.1 hn'
        have hinner := Node.signed_table.1 (hn _ rfl)
        exact Node.signed_table.2 (ih origin inner hinner fields hfields)
    next all =>
      obtain ⟨all', hall', rfl⟩ := Option.map_eq_some_iff.1 hn'
      have hall := Node.signed_tables.1 (hn _ rfl)
      exact Node.signed_tables.2 (signed_alterLast (ih .header) hall hall')

theorem keeps_addValue {v : Value} (hv : v.Signed) (path : List String) (name : String)
    (origin : Origin) : Keeps (addValue path name v origin) := by
  refine keeps_within (fun origin => ?_) path origin
  intro fields hfields fields' hfields'
  split at hfields'
  · cases hfields'
  · refine keeps_alter (fun n _ n' hn' => ?_) name fields hfields fields' hfields'
    split at hn'
    · cases hn'
      exact hv
    · cases hn'

theorem signed_of_foldlM {pairs : List ((List String × String) × Value)} {fields fields' : Fields}
    (hpairs : ∀ p ∈ pairs, p.2.Signed) (hfields : fields.Signed)
    (h : pairs.foldlM (fun fields (k, v) => addValue k.1 k.2 v .header fields) fields =
      some fields') : fields'.Signed := by
  induction pairs generalizing fields with
  | nil =>
    cases h
    exact hfields
  | cons p pairs ih =>
    obtain ⟨hp, hpairs⟩ := List.forall_mem_cons.1 hpairs
    rw [List.foldlM_cons] at h
    obtain ⟨next, hnext, h⟩ := Option.bind_eq_some_iff.1 h
    exact ih hpairs (keeps_addValue hp _ _ _ fields hfields next hnext) h

theorem keeps_addTable (path : List String) (name : String) : Keeps (addTable path name) := by
  refine keeps_within (fun _ fields hfields fields' hfields' => ?_) path .header
  have hempty : Signed [] := by simp [Signed]
  split at hfields'
  next =>
    cases hfields'
    exact List.forall_mem_append.2 ⟨hfields, List.forall_mem_singleton.2
      (Node.signed_table.2 hempty)⟩
  next inner hlookup =>
    cases hfields'
    -- The table moves behind the others with what is in it.
    have hinner : (Node.table .path inner).toValue.Signed := by
      obtain ⟨l₁, l₂, rfl, -⟩ := List.lookup_eq_some_iff.1 hlookup
      exact hfields (name, .table .path inner) (by simp)
    refine List.forall_mem_append.2 ⟨fun f hf => hfields f (List.mem_filter.1 hf).1, ?_⟩
    exact List.forall_mem_singleton.2 (Node.signed_table.2 (Node.signed_table.1 hinner))
  next => cases hfields'

theorem keeps_addItem (path : List String) (name : String) : Keeps (addItem path name) := by
  refine keeps_within (fun _ => keeps_alter (fun n hn n' hn' => ?_) name) path .header
  have hempty : Signed [] := by simp [Signed]
  split at hn'
  next =>
    cases hn'
    exact Node.signed_tables.2 (List.forall_mem_singleton.2 hempty)
  next all =>
    cases hn'
    refine Node.signed_tables.2 (List.forall_mem_append.2 ⟨Node.signed_tables.1 (hn _ rfl), ?_⟩)
    exact List.forall_mem_singleton.2 hempty
  next => cases hn'

end Fields

/-! Values and documents. -/

theorem list_gives {item : Scan Value} (h : Gives item Value.Signed) :
    Gives (list item) Value.Signed := by
  have hitem : Gives (do gap; let v ← item; gap; pure v) Value.Signed :=
    .after fun _ => .bind h fun v hv => .after fun _ => .pure hv
  refine .after fun _ => .bind (.separated hitem) fun items hitems => ?_
  have hend : Gives (do gap; char ']'; return Value.list items) Value.Signed :=
    .after fun _ => .after fun _ => .pure (.list hitems)
  exact .ite (.after fun _ => hend) hend

theorem pair_gives {item : Scan Value} (h : Gives item Value.Signed) :
    Gives (pair item) fun p => p.2.Signed :=
  .after fun _ => .after fun _ => .after fun _ => .bind h fun _ hv => .pure hv

theorem inlineTable_gives {item : Scan Value} (h : Gives item Value.Signed) :
    Gives (inlineTable item) Value.Signed := by
  have hpair : Gives (do let p ← pair item; spaces; pure p) fun p => p.2.Signed :=
    .bind (pair_gives h) fun p hp => .after fun _ => .pure hp
  refine .after fun _ => .bind (.separated hpair) fun pairs hpairs => ?_
  refine .after fun _ => .after fun _ => ?_
  split
  next fields hfold =>
    have hempty : Fields.Signed [] := by simp [Fields.Signed]
    exact .pure (Node.signed_table.2 (Fields.signed_of_foldlM hpairs hempty hfold))
  next => exact .failure

theorem value_gives (room : Nat) : Gives (value room) Value.Signed := by
  have hquoted : Gives (.text <$> quoted) Value.Signed := .image .text
  induction room with
  | zero => exact .orElse hquoted scalar_gives
  | succ room ih =>
    refine .after fun c => ?_
    split
    · exact list_gives ih
    · exact inlineTable_gives ih
    · exact .orElse hquoted scalar_gives

theorem accept_gives {d : Document} {fields : Option Fields}
    (h : ∀ fields' ∈ fields, fields'.Signed) :
    Gives (accept d fields) fun d' => d'.fields.Signed := by
  cases fields with
  | none => exact .failure
  | some fields' => exact .pure (h fields' rfl)

theorem header_gives {d : Document} (hd : d.fields.Signed) :
    Gives (header d) fun d' => d'.fields.Signed := by
  refine .after fun _ => .after fun isItem => .after fun k => .after fun _ => .after fun _ => ?_
  refine accept_gives ?_
  cases isItem
  · exact Fields.keeps_addTable _ _ _ hd
  · exact Fields.keeps_addItem _ _ _ hd

theorem assignment_gives {d : Document} (hd : d.fields.Signed) :
    Gives (assignment d) fun d' => d'.fields.Signed := by
  refine .bind (pair_gives (value_gives _)) fun p hp => .after fun _ => accept_gives ?_
  exact Fields.keeps_within (Fields.keeps_addValue hp _ _) _ _ _ hd

theorem documentFrom_gives {d : Document} (hd : d.fields.Signed) (fuel : List Char) :
    Gives (documentFrom d fuel) fun d' => d'.fields.Signed := by
  induction fuel generalizing d with
  | nil => exact .pure hd
  | cons _ fuel ih =>
    refine .after fun _ => .after fun c => ?_
    split
    · exact .pure hd
    · exact .after fun _ => ih hd
    · exact .after fun _ => ih hd
    · exact .after fun _ => ih hd
    · exact .bind (header_gives hd) fun _ hd' => ih hd'
    · exact .bind (assignment_gives hd) fun _ hd' => ih hd'

theorem signed_of_parse {text : String} {v : Value} (h : parse text = some v) : v.Signed := by
  obtain ⟨⟨d, rest⟩, hd, rfl⟩ := Option.map_eq_some_iff.1 h
  have hdocument : Gives document fun d => d.fields.Signed :=
    .after fun _ s => documentFrom_gives (by simp [Fields.Signed]) s s
  exact .record (Fields.signed_toFields.2 (hdocument _ _ _ hd))

end Toml

end SoftFail
