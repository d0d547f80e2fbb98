import SoftFail.Proofs.Toml.Line

/-! Documents are read back as they were written: lines of simple values, and tables of them behind
all other lines. -/

namespace SoftFail.Toml

open Scan

variable {c : Char} {s rest : List Char} {v : Value} {name : String}

/-! Steps of the reading. -/

def Comes (d : Document) (s : List Char) (d' : Document) : Prop :=
  ∀ fuel : List Char, s.length ≤ fuel.length → documentFrom d fuel s = some (d', [])

variable {d d' d'' : Document}

theorem Comes.nil (d : Document) : Comes d [] d := by
  intro fuel _
  cases fuel <;> rfl

theorem documentFrom_cons (hc : isSpace c = false) (x : Char) (fuel : List Char) :
    documentFrom d (x :: fuel) (c :: s) = (match some c with
      | none => pure d
      | some '\n' | some '\r' => do newline; documentFrom d fuel
      | some '#' => do lineEnd; documentFrom d fuel
      | some '[' => do documentFrom (← header d) fuel
      | some _ => do documentFrom (← assignment d) fuel : Scan Document) (c :: s) := by
  have hspaces : Reads spaces [] (c :: s) () := spaces_reads (by simp) (stops_cons.2 hc)
  rw [documentFrom, bind_apply, show spaces (c :: s) = some ((), c :: s) from hspaces]
  rfl

theorem Comes.next {m : Scan Document} {t : List Char} (hm : Reads m t s d') (ht : t ≠ [])
    (hbranch : ∀ x fuel, documentFrom d (x :: fuel) (t ++ s) =
      (do documentFrom (← m) fuel : Scan Document) (t ++ s))
    (h : Comes d' s d'') : Comes d (t ++ s) d'' := by
  intro fuel hfuel
  have hlength := List.length_pos_iff.2 ht
  rw [List.length_append] at hfuel
  cases fuel with
  | nil =>
    rw [List.length_nil] at hfuel
    omega
  | cons x fuel =>
    rw [List.length_cons] at hfuel
    rw [hbranch, bind_apply, hm]
    exact h fuel (by omega)

theorem Comes.blank (h : Comes d s d') : Comes d ('\n' :: s) d' := by
  have hm : Reads (do newline; pure d) ['\n'] s d := .last (.left (.char _ _)) (.pure _ _)
  refine .next (t := ['\n']) hm (List.cons_ne_nil _ _) (fun x fuel => ?_) h
  rw [List.singleton_append, documentFrom_cons rfl]
  rfl

theorem Comes.table {t : List Char} (hm : Reads (header d) ('[' :: t) s d') (h : Comes d' s d'') :
    Comes d ('[' :: t ++ s) d'' :=
  .next hm (List.cons_ne_nil _ _) (fun _ _ => documentFrom_cons rfl _ _) h

theorem Comes.line {t : List Char} (hc : isBare c = true)
    (hm : Reads (assignment d) (c :: t) s d') (h : Comes d' s d'') : Comes d (c :: t ++ s) d'' := by
  refine .next hm (List.cons_ne_nil _ _) (fun _ _ => ?_) h
  rw [List.cons_append, documentFrom_cons (isSpace_of_isBare hc)]
  refine congrFun ?_ _
  split
  next heq => cases heq
  next heq =>
    cases heq
    cases hc
  next heq =>
    cases heq
    cases hc
  next heq =>
    cases heq
    cases hc
  next heq =>
    cases heq
    cases hc
  next => rfl

/-! Fields that are added. -/

def Fresh (name : String) (fields : Fields) : Prop := ∀ f ∈ fields, f.1 ≠ name

theorem alter_append {name : String} {f : Option Node → Option Node} {fields : Fields}
    (h : Fresh name fields) (more : Fields) :
    Fields.alter name f (fields ++ more) = (Fields.alter name f more).map (fields ++ ·) := by
  induction fields with
  | nil => simp
  | cons x fields ih =>
    obtain ⟨hx, hfields⟩ := List.forall_mem_cons.1 h
    rw [List.cons_append, Fields.alter, if_neg hx, ih hfields, Option.map_map]
    rfl

theorem alter_fresh {name : String} {f : Option Node → Option Node} {fields : Fields}
    (h : Fresh name fields) :
    Fields.alter name f fields = (f none).map fun n => fields ++ [(name, n)] := by
  have halter := alter_append (f := f) h []
  rw [List.append_nil] at halter
  rw [halter, Fields.alter, Option.map_map]
  rfl

theorem alter_last {name : String} {f : Option Node → Option Node} {fields : Fields} {n : Node}
    (h : Fresh name fields) :
    Fields.alter name f (fields ++ [(name, n)]) =
      (f (some n)).map fun n => fields ++ [(name, n)] := by
  rw [alter_append h, Fields.alter, if_pos rfl, Option.map_map]
  rfl

theorem alterLast_append (f : Fields → Option Fields) (all : List Fields) (last : Fields) :
    Fields.alterLast f (all ++ [last]) = (f last).map fun last => all ++ [last] := by
  induction all with
  | nil => rfl
  | cons fields all ih =>
    rw [List.cons_append, Fields.alterLast, ih, Option.map_map]
    · rfl
    · simp

theorem addValue_fresh {fields : Fields} (h : Fresh name fields) (v : Value) :
    Fields.addValue [] name v .header fields = some (fields ++ [(name, .value v)]) := by
  rw [Fields.addValue, Fields.within, if_neg (by simp), alter_fresh h]
  rfl

/-- The table that keys are added to, as what is there when it holds `inner`. -/
structure Growing (at_ : Fields → Document) : Prop where
  current (inner inner' : Fields) : (at_ inner).current = (at_ inner').current
  grows (inner : Fields) {name : String} (v : Value) (h : Fresh name inner) :
    Fields.within .path (Fields.addValue [] name v) (at_ inner).current .header (at_ inner).fields =
      some (at_ (inner ++ [(name, .value v)])).fields

theorem growing_top : Growing fun inner => ⟨inner, []⟩ where
  current _ _ := rfl
  grows _ _ v h := addValue_fresh h v

theorem growing_table {fields : Fields} {t : String} (h : Fresh t fields) (all : List Fields) :
    Growing fun inner => ⟨fields ++ [(t, .tables (all ++ [inner]))], [t]⟩ where
  current _ _ := rfl
  grows inner name v hname := by
    dsimp only
    rw [Fields.within, alter_last h]
    dsimp only
    rw [alterLast_append, Fields.within, addValue_fresh hname]
    rfl

/-! Lines. -/

structure Lines (fields : List (String × Value)) : Prop where
  bare : ∀ f ∈ fields, Bare f.1
  simple : ∀ f ∈ fields, Simple f.2
  distinct : (fields.map Prod.fst).Nodup

theorem Lines.append_singleton {fields : List (String × Value)} (h : Lines fields)
    (hname : Bare name) (hv : Simple v) (hfresh : ∀ f ∈ fields, f.1 ≠ name) :
    Lines (fields ++ [(name, v)]) where
  bare := List.forall_mem_append.2 ⟨h.bare, List.forall_mem_singleton.2 hname⟩
  simple := List.forall_mem_append.2 ⟨h.simple, List.forall_mem_singleton.2 hv⟩
  distinct := by
    rw [List.map_append, List.nodup_append]
    refine ⟨h.distinct, by simp, fun a ha b hb => ?_⟩
    obtain ⟨f, hf, rfl⟩ := List.mem_map.1 ha
    rw [List.mem_singleton.1 hb]
    exact hfresh f hf

def nodes (fields : List (String × Value)) : Fields := fields.map fun f => (f.1, .value f.2)

def fieldLine (f : String × Value) : Option (List Char) := do
  let text ← valueText f.2
  return keyText f.1 ++ " = ".toList ++ text ++ ['\n']

theorem lineTexts_eq (fields : List (String × Value)) :
    lineTexts fields = (do return (← fields.mapM fieldLine).flatten) := rfl

theorem lineTexts_cons {f : String × Value} {fields : List (String × Value)} {text rest : List Char}
    (hname : Bare f.1) (hf : valueText f.2 = some text) (hrest : lineTexts fields = some rest) :
    lineTexts (f :: fields) = some (line f.1 text ++ rest) := by
  have hline : fieldLine f = some (line f.1 text) := by
    rw [fieldLine, hf, keyText_of_bare hname]
    simp [line]
  rw [lineTexts_eq] at hrest ⊢
  rw [List.mapM_cons, hline]
  cases hlines : fields.mapM fieldLine with
  | none =>
    rw [hlines] at hrest
    cases hrest
  | some lines =>
    rw [hlines] at hrest
    cases hrest
    rfl

theorem Lines.comes {at_ : Fields → Document} (hat : Growing at_) {fields : List (String × Value)}
    (h : Lines fields) (inner : Fields) (hfresh : ∀ f ∈ fields, Fresh f.1 inner) :
    ∃ text, lineTexts fields = some text ∧
      (fields ≠ [] → ∃ c t, text = c :: t ∧ isBare c = true) ∧
      ∀ s d', Comes (at_ (inner ++ nodes fields)) s d' → Comes (at_ inner) (text ++ s) d' := by
  induction fields generalizing inner with
  | nil =>
    refine ⟨[], rfl, fun hne => absurd rfl hne, fun s d' hs => ?_⟩
    simpa [nodes] using hs
  | cons f fields ih =>
    obtain ⟨hbare, hbares⟩ := List.forall_mem_cons.1 h.bare
    obtain ⟨hsimple, hsimples⟩ := List.forall_mem_cons.1 h.simple
    obtain ⟨hnot, hdistinct⟩ := List.nodup_cons.1 h.distinct
    obtain ⟨hf, hfields⟩ := List.forall_mem_cons.1 hfresh
    obtain ⟨c, s, hback⟩ := hsimple.readBack (depth - 2)
    have hgrown : ∀ g ∈ fields, Fresh g.1 (inner ++ [(f.1, .value f.2)]) := by
      intro g hg x hx
      rcases List.mem_append.1 hx with hx | hx
      · exact hfields g hg x hx
      · rw [List.mem_singleton.1 hx]
        intro heq
        exact hnot (heq ▸ List.mem_map_of_mem hg)
    obtain ⟨text, htext, -, hcomes⟩ := ih ⟨hbares, hsimples, hdistinct⟩ _ hgrown
    obtain ⟨d, t, hname⟩ := List.exists_cons_of_ne_nil hbare.1
    have hd : isBare d = true := hbare.2 d (by rw [hname]; exact List.mem_cons_self)
    have hline : line f.1 (c :: s) = d :: (t ++ ' ' :: '=' :: ' ' :: (c :: s ++ ['\n'])) := by
      simp [line, hname]
    refine ⟨_, lineTexts_cons hbare hback.text htext, fun _ => ⟨d, _, by rw [hline]; rfl, hd⟩,
      fun s' d' hs => ?_⟩
    have hread := assignment_reads hbare hback (hat.grows inner f.2 hf) (text ++ s')
    have hdoc : (⟨(at_ (inner ++ [(f.1, .value f.2)])).fields, (at_ inner).current⟩ : Document) =
        at_ (inner ++ [(f.1, .value f.2)]) := by
      rw [hat.current inner (inner ++ [(f.1, .value f.2)])]
    rw [hline, hdoc] at hread
    have hmore := hcomes s' d' (by simpa [nodes] using hs)
    have hall := Comes.line hd hread hmore
    rw [hline, List.append_assoc]
    exact hall

/-! Tables. -/

/-- The list of tables that was read, which comes into being with the first one. -/
def tables (t : String) (all : List Fields) : Fields :=
  if all = [] then [] else [(t, .tables all)]

theorem tables_append (t : String) (all : List Fields) (inner : Fields) :
    tables t (all ++ [inner]) = [(t, .tables (all ++ [inner]))] := if_neg (by simp)

theorem addItem_tables {t : String} {fields : Fields} (h : Fresh t fields) (all : List Fields) :
    Fields.addItem [] t (fields ++ tables t all) = some (fields ++ tables t (all ++ [[]])) := by
  rw [Fields.addItem, Fields.within, tables_append]
  rcases Decidable.em (all = []) with rfl | hne
  · rw [tables, if_pos rfl, List.append_nil, alter_fresh h]
    rfl
  · rw [tables, if_neg hne, alter_last h]
    rfl

theorem header_reads {t : String} (ht : Bare t) {d : Document} {fields : Fields}
    (hfields : Fields.addItem [] t d.fields = some fields) (rest : List Char) :
    Reads (header d) ('[' :: ('[' :: (t.toList ++ [']', ']', '\n']))) rest ⟨fields, [t]⟩ := by
  have hitem : Reads (passed ['[']) ['['] (t.toList ++ [']', ']', '\n'] ++ rest) true :=
    .left (.last (.word _ _) (.pure _ _))
  have hkey : Reads key (t.toList ++ []) ([']', ']', '\n'] ++ rest) ([], t) :=
    key_reads ht (by simp) (stops_cons.2 rfl) (stops_cons.2 rfl) (by simp)
  rw [List.append_nil] at hkey
  refine .bind (t := ['[']) (.char _ _) (.bind (t := ['[']) hitem (.bind hkey ?_))
  refine .bind (t := [']', ']']) (.word _ _) (.last (lineEnd_reads rest) ?_)
  change Reads (accept { d with current := [t] } (Fields.addItem [] t d.fields)) [] rest _
  rw [hfields]
  exact .pure _ _

theorem tables_comes {t : String} (ht : Bare t) {fields : Fields} (hfresh : Fresh t fields)
    {rows : List (List (String × Value))} (h : ∀ row ∈ rows, Lines row) (all : List Fields)
    (current : List String) :
    ∃ texts, rows.mapM (tableText t) = some texts ∧ ∃ current',
      Comes ⟨fields ++ tables t all, current⟩ texts.flatten
        ⟨fields ++ tables t (all ++ rows.map nodes), current'⟩ := by
  -- Every table is one more at the end of `all`; its lines then grow it as the last one.
  induction rows generalizing all current with
  | nil => exact ⟨[], rfl, current, by simpa using Comes.nil _⟩
  | cons row rows ih =>
    obtain ⟨hrow, hrows⟩ := List.forall_mem_cons.1 h
    obtain ⟨texts, htexts, current', hcomes⟩ := ih hrows (all ++ [nodes row]) [t]
    obtain ⟨text, htext, -, hlines⟩ := hrow.comes (growing_table hfresh all) [] (by simp [Fresh])
    have htable : tableText t row =
        some ('\n' :: ('[' :: ('[' :: (t.toList ++ [']', ']', '\n'])) ++ text)) := by
      rw [tableText, htext, keyText_of_bare ht]
      simp
    refine ⟨_, by rw [List.mapM_cons, htable, htexts]; rfl, current', ?_⟩
    have hheader := header_reads ht (d := ⟨fields ++ tables t all, current⟩)
      (addItem_tables hfresh all) (text ++ texts.flatten)
    rw [tables_append] at hheader hcomes
    have hrest := hlines texts.flatten _ hcomes
    have hall := (Comes.table hheader hrest).blank
    simpa using hall

/-! What was read. -/

theorem toFields_append (fields more : Fields) :
    toFields (fields ++ more) = toFields fields ++ toFields more := by
  induction fields with
  | nil => rfl
  | cons f fields ih => rw [List.cons_append, toFields, ih, toFields, List.cons_append]

theorem toFields_nodes (fields : List (String × Value)) : toFields (nodes fields) = fields := by
  induction fields with
  | nil => rfl
  | cons f fields ih =>
    rw [nodes, List.map_cons, toFields, Node.toValue]
    exact congrArg (f :: ·) ih

theorem toRecords_nodes (rows : List (List (String × Value))) :
    toRecords (rows.map nodes) = rows.map .record := by
  induction rows with
  | nil => rfl
  | cons row rows ih => rw [List.map_cons, toRecords, toFields_nodes, ih, List.map_cons]

theorem document_comes (hs : s.head? ≠ some '\uFEFF') {d : Document} (h : Comes ⟨[], []⟩ s d) :
    document s = some (d, []) := by
  have hmark : Reads (maybe (char '\uFEFF')) [] s none := Refuses.none (.char hs)
  rw [document, bind_apply, show maybe (char '\uFEFF') s = some (none, s) from hmark]
  exact h s (Nat.le_refl _)

theorem parse_comes {text : String} (hs : text.toList.head? ≠ some '\uFEFF') {d : Document}
    (h : Comes ⟨[], []⟩ text.toList d) : parse text = some (.record (toFields d.fields)) := by
  rw [parse, document_comes hs h]
  rfl

/-! What was printed. -/

theorem records?_simple (h : Simple v) : records? v = none := by
  cases h with
  | scalar h => cases h <;> rfl
  | @list items h =>
    cases items with
    | nil => rfl
    | cons v items =>
      have hv := h v List.mem_cons_self
      cases hv <;> rfl

theorem records?_rows {rows : List (List (String × Value))} (h : rows ≠ []) :
    records? (.list (rows.map .record)) = some rows := by
  have hrows {g : Value → Option (List (String × Value))} (hg : ∀ row, g (.record row) = some row)
      (rows : List (List (String × Value))) : (rows.map Value.record).mapM g = some rows := by
    induction rows with
    | nil => rfl
    | cons row rows ih =>
      rw [List.map_cons, List.mapM_cons, hg, ih]
      rfl
  obtain ⟨row, rows, rfl⟩ := List.exists_cons_of_ne_nil h
  exact hrows (fun _ => rfl) (row :: rows)

def fieldTables (f : String × Value) : Option (List Char) := do
  return (← ((records? f.2).getD []).mapM (tableText f.1)).flatten

theorem print_eq (fields : List (String × Value)) :
    print fields = (do
      let top ← lineTexts (fields.filter fun f => (records? f.2).isNone)
      let below ← fields.mapM fieldTables
      return String.ofList (top ++ below.flatten)) := rfl

theorem fieldTables_simple {fields : List (String × Value)} (h : ∀ f ∈ fields, Simple f.2) :
    fields.filter (fun f => (records? f.2).isNone) = fields ∧
      ∃ below, fields.mapM fieldTables = some below ∧ below.flatten = [] := by
  refine ⟨List.filter_eq_self.2 fun f hf => by rw [records?_simple (h f hf)]; rfl, ?_⟩
  induction fields with
  | nil => exact ⟨[], rfl, rfl⟩
  | cons f fields ih =>
    obtain ⟨hf, hfields⟩ := List.forall_mem_cons.1 h
    obtain ⟨below, hbelow, hflatten⟩ := ih hfields
    refine ⟨[] :: below, ?_, hflatten⟩
    rw [List.mapM_cons, hbelow, fieldTables, records?_simple hf]
    rfl

theorem print_lines {fields : List (String × Value)} (h : ∀ f ∈ fields, Simple f.2)
    {text : List Char} (htext : lineTexts fields = some text) :
    print fields = some (String.ofList text) := by
  obtain ⟨hfilter, below, hbelow, hflatten⟩ := fieldTables_simple h
  rw [print_eq, hfilter, htext, hbelow]
  exact congrArg (fun s => some (String.ofList s)) (by rw [hflatten, List.append_nil])

theorem print_tables {fields : List (String × Value)} (h : ∀ f ∈ fields, Simple f.2) {t : String}
    {rows : List (List (String × Value))} (hrows : rows ≠ []) {text : List Char}
    {texts : List (List Char)} (htext : lineTexts fields = some text)
    (htexts : rows.mapM (tableText t) = some texts) :
    print (fields ++ [(t, .list (rows.map .record))]) =
      some (String.ofList (text ++ texts.flatten)) := by
  obtain ⟨hfilter, below, hbelow, hflatten⟩ := fieldTables_simple h
  have hlast : [(t, Value.list (rows.map .record))].mapM fieldTables = some [texts.flatten] := by
    rw [List.mapM_cons, fieldTables, records?_rows hrows, Option.getD_some, htexts]
    rfl
  have hnone : [(t, Value.list (rows.map .record))].filter (fun f => (records? f.2).isNone) =
      [] := by
    rw [List.filter_cons, records?_rows hrows]
    rfl
  rw [print_eq, List.filter_append, hfilter, hnone, List.append_nil, htext, List.mapM_append,
    hbelow, hlast]
  refine congrArg (fun s => some (String.ofList (text ++ s))) ?_
  rw [List.flatten_append, hflatten]
  simp

theorem parse_print {fields : List (String × Value)} (h : Lines fields) (hne : fields ≠ [])
    {t : String} (ht : Bare t) (hfresh : ∀ f ∈ fields, f.1 ≠ t)
    {rows : List (List (String × Value))} (hrows : ∀ row ∈ rows, Lines row) :
    ∃ text, print (fields ++ [(t, .list (rows.map .record))]) = some text ∧
      parse text = some (.record (fields ++ [(t, .list (rows.map .record))])) := by
  have hbegin {c : Char} {t more : List Char} (hc : isBare c = true) :
      (String.ofList (c :: t ++ more)).toList.head? ≠ some '\uFEFF' := by
    rw [String.toList_ofList]
    rintro ⟨⟩
    cases hc
  rcases Decidable.em (rows = []) with rfl | hsome
  -- Without tables there is an empty list, on a line like all others.
  · have hall : Lines (fields ++ [(t, .list [])]) :=
      h.append_singleton ht (.list (by simp)) hfresh
    obtain ⟨text, htext, hhead, hcomes⟩ := hall.comes growing_top [] (by simp [Fresh])
    obtain ⟨c, text, rfl, hc⟩ := hhead (by simp)
    refine ⟨_, print_lines hall.simple htext, ?_⟩
    have hdoc := hcomes [] _ (.nil _)
    rw [← String.toList_ofList (l := c :: text ++ [])] at hdoc
    have hparse := parse_comes (hbegin hc) hdoc
    rw [List.nil_append, toFields_nodes] at hparse
    simpa using hparse
  · obtain ⟨text, htext, hhead, hcomes⟩ := h.comes growing_top [] (by simp [Fresh])
    obtain ⟨c, text, rfl, hc⟩ := hhead hne
    have hfree : Fresh t (nodes fields) := List.forall_mem_map.2 hfresh
    obtain ⟨texts, htexts, current, htables⟩ := tables_comes ht hfree hrows [] []
    refine ⟨_, print_tables h.simple hsome htext htexts, ?_⟩
    have htables : Comes ⟨[] ++ nodes fields, []⟩ texts.flatten
        ⟨nodes fields ++ tables t (rows.map nodes), current⟩ := by simpa [tables] using htables
    have hdoc := hcomes texts.flatten _ htables
    rw [← String.toList_ofList (l := c :: text ++ texts.flatten)] at hdoc
    have hparse := parse_comes (hbegin hc) hdoc
    have hne : rows.map nodes ≠ [] := by simpa using hsome
    rw [tables, if_neg hne, toFields_append, toFields_nodes] at hparse
    rw [hparse, toFields, toFields, Node.toValue, toRecords_nodes]

end SoftFail.Toml
