import SoftFail.Proofs.Config.Fits
import SoftFail.Proofs.Decode.Taking
import SoftFail.Proofs.Toml.Document

/-! A configuration that was printed is read back as it was, but for a content type that is not
set. -/

namespace SoftFail

open Decode

def ExpectedPattern.fields (p : ExpectedPattern) : List (String × Value) :=
  [("name", .text p.name), ("pattern", .text p.expression), ("min_count", .natural p.minCount)]

theorem ExpectedPattern.takes_read {p : ExpectedPattern} (h : p.minCount < bound64) :
    Takes ExpectedPattern.read p.toValue.kinds [] p := by
  have hfields : Takes.Fills readField ([], { name := "", expression := "" })
      [("name", (Value.text p.name).kinds), ("pattern", (Value.text p.expression).kinds),
        ("min_count", (Value.natural p.minCount).kinds)] (["min_count", "pattern", "name"], p) :=
    .cons (.look (.once rfl _) ((Takes.member (.ofText p.name)).giving _))
      (.cons (.look (.once rfl _) ((Takes.member (.ofText p.expression)).giving _))
        (.cons (.look (.once rfl _) ((Takes.member (.ofNatural h _)).giving _)) (.nil _)))
  rw [toValue, Value.kinds_record]
  refine .record ((Takes.fields hfields).last ?_) _ _
  exact .look (.require rfl _) (.look (.require rfl _) (.pure p _))

namespace Config

def Sets (f : String × Value) (g : Config → Config) : Prop :=
  ∀ seen c, seen.contains f.1 = false →
    Takes (readField (seen, c) f.1) (.colon :: f.2.kinds) [] (f.1 :: seen, g c)

theorem sets {name : String} {v : Value} {r : Config → Reader Config} {g : Config → Config}
    (hfield : ∀ seen c, readField (seen, c) name =
      (do let seen ← Reader.once seen name; return (seen, ← Reader.member (r c))))
    (hread : ∀ c, Takes (r c) v.kinds [] (g c)) : Sets (name, v) g := by
  intro seen c hseen
  rw [hfield]
  exact .look (.once hseen _) ((Takes.member (hread c)).giving _)

abbrev Settings := List ((String × Value) × (Config → Config))

theorem fills_settings {settings : Settings} (h : ∀ x ∈ settings, Sets x.1 x.2)
    (hdistinct : (settings.map (·.1.1)).Nodup) {seen : List String}
    (hseen : ∀ x ∈ settings, x.1.1 ∉ seen) (c : Config) :
    ∃ seen', Takes.Fills readField (seen, c) (settings.map fun x => (x.1.1, x.1.2.kinds))
      (seen', settings.foldl (fun c x => x.2 c) c) := by
  -- Every name that was read joins `seen`, so those that follow must stay different from it.
  induction settings generalizing seen c with
  | nil => exact ⟨seen, .nil _⟩
  | cons x settings ih =>
    obtain ⟨hx, hsettings⟩ := List.forall_mem_cons.1 h
    obtain ⟨hnot, hdistinct⟩ := List.nodup_cons.1 hdistinct
    obtain ⟨hfresh, hseen⟩ := List.forall_mem_cons.1 hseen
    have hnext : ∀ y ∈ settings, y.1.1 ∉ x.1.1 :: seen := by
      intro y hy
      rw [List.mem_cons, not_or]
      exact ⟨fun heq => hnot (List.mem_map.2 ⟨y, hy, heq⟩), hseen y hy⟩
    obtain ⟨seen', hfills⟩ := ih hsettings hdistinct hnext (x.2 c)
    exact ⟨seen', .cons (hx seen c (by simpa using hfresh)) hfills⟩

theorem ofValue_settings {settings : Settings} (h : ∀ x ∈ settings, Sets x.1 x.2)
    (hdistinct : (settings.map (·.1.1)).Nodup) :
    ofValue (.record (settings.map (·.1))) = .ok (settings.foldl (fun c x => x.2 c) {}) := by
  obtain ⟨seen, hfills⟩ := fills_settings h hdistinct (fun _ _ => List.not_mem_nil) {}
  have hread : Takes read (Value.record (settings.map (·.1))).kinds []
      (settings.foldl (fun c x => x.2 c) {}) := by
    rw [Value.kinds_record, List.map_map]
    have hfields := Takes.fields hfills
    rw [List.map_map] at hfields
    have hlast := hfields.giving fun st : List String × Config => st.2
    exact .record hlast _ _
  rw [ofValue, hread.run_eq]

def settings (c : Config) : Settings :=
  [(("min_content_length", .natural c.minContentLength),
      fun d => { d with minContentLength := c.minContentLength })] ++
    c.maxContentLength.toList.map (fun n =>
      (("max_content_length", .natural n), fun d => { d with maxContentLength := some n })) ++
    c.expectedContentType.toList.map (fun s =>
      (("expected_content_type", .text s), fun d => { d with expectedContentType := some s })) ++
    [(("required_markers", .list (c.requiredMarkers.map .text)),
      fun d => { d with requiredMarkers := c.requiredMarkers })] ++
    c.minItemCount.toList.map (fun n =>
      (("min_item_count", .natural n), fun d => { d with minItemCount := some n })) ++
    [(("check_lazy_loading", .boolean c.checkLazyLoading),
        fun d => { d with checkLazyLoading := c.checkLazyLoading }),
      (("check_pagination", .boolean c.checkPagination),
        fun d => { d with checkPagination := c.checkPagination }),
      (("check_noscript", .boolean c.checkNoscript),
        fun d => { d with checkNoscript := c.checkNoscript }),
      (("check_structured_data", .boolean c.checkStructuredData),
        fun d => { d with checkStructuredData := c.checkStructuredData }),
      (("check_js_rendering", .boolean c.checkJsRendering),
        fun d => { d with checkJsRendering := c.checkJsRendering }),
      (("min_text_ratio", .number (.float c.minTextRatio)),
        fun d => { d with minTextRatio := c.minTextRatio })]

def patternSetting (c : Config) : (String × Value) × (Config → Config) :=
  (("expected_patterns", .list (c.expectedPatterns.map ExpectedPattern.toValue)),
    fun d => { d with expectedPatterns := c.expectedPatterns })

theorem toFields_eq (c : Config) :
    c.toFields (.number (.float c.minTextRatio)) =
      (c.settings ++ [c.patternSetting]).map (·.1) := by
  obtain ⟨_, _ | _, _ | _, _, _ | _, _, _, _, _, _, _, _⟩ := c <;> rfl

/-- What the fields of a configuration set: all options, but no content type that is none. -/
theorem foldl_settings (c : Config) :
    (c.settings ++ [c.patternSetting]).foldl (fun d x => x.2 d) {} =
      { c with expectedContentType := some (c.expectedContentType.getD "text/html") } := by
  obtain ⟨_, _ | _, _ | _, _, _ | _, _, _, _, _, _, _, _⟩ := c <;> rfl

def optionNames : List String :=
  ["min_content_length", "max_content_length", "expected_content_type", "required_markers",
    "min_item_count", "check_lazy_loading", "check_pagination", "check_noscript",
    "check_structured_data", "check_js_rendering", "min_text_ratio", "expected_patterns"]

theorem sublist_optionNames (c : Config) :
    ((c.settings ++ [c.patternSetting]).map (·.1.1)).Sublist optionNames := by
  obtain ⟨_, _ | _, _ | _, _, _ | _, _, _, _, _, _, _, _⟩ := c <;>
    exact List.isSublist_iff_sublist.1 rfl

theorem nodup_settings (c : Config) :
    ((c.settings ++ [c.patternSetting]).map (·.1.1)).Nodup :=
  (sublist_optionNames c).nodup (by decide)

theorem takes_natural {n : Nat} (h : n < bound63) :
    Takes Reader.size (Value.natural n).kinds [] n :=
  .ofNatural (Nat.lt_trans h (by decide)) _

theorem settings_spec {c : Config} (h : c.Fits)
    (hratio : Decimal.float? (Decimal.pointed.text c.minTextRatio) = some c.minTextRatio) :
    ∀ x ∈ c.settings, Toml.Simple x.1.2 ∧ Sets x.1 x.2 := by
  have hflag {name : String} (b : Bool) (set : Config → Bool → Config)
      (hfield : ∀ seen d, readField (seen, d) name = (do
        let seen ← Reader.once seen name
        return (seen, ← Reader.member do return set d (← Reader.boolean)))) :
      Toml.Simple (.boolean b) ∧ Sets (name, .boolean b) fun d => set d b :=
    ⟨.scalar (.boolean b), sets hfield fun d => (Takes.boolean b).giving (set d)⟩
  refine List.forall_mem_append.2 ⟨List.forall_mem_append.2 ⟨List.forall_mem_append.2
    ⟨List.forall_mem_append.2 ⟨List.forall_mem_append.2 ⟨?_, ?_⟩, ?_⟩, ?_⟩, ?_⟩, ?_⟩
  · refine List.forall_mem_singleton.2 ⟨.scalar (.natural h.minContentLength),
      sets (fun _ _ => rfl) fun d => ?_⟩
    exact (takes_natural h.minContentLength).giving fun n => { d with minContentLength := n }
  · refine List.forall_mem_map.2 fun n hn => ?_
    have hn := h.maxContentLength n (Option.mem_toList.1 hn)
    refine ⟨.scalar (.natural hn), sets (fun _ _ => rfl) fun d => ?_⟩
    exact (Takes.ofOption (takes_natural hn) (by simp [Value.natural])).giving
      fun n => { d with maxContentLength := n }
  · refine List.forall_mem_map.2 fun s _ => ⟨.scalar (.text s), sets (fun _ _ => rfl) fun d => ?_⟩
    exact (Takes.ofOption (.ofText s) (by simp)).giving
      fun s => { d with expectedContentType := s }
  · refine List.forall_mem_singleton.2 ⟨.list (List.forall_mem_map.2 fun s _ => .text s),
      sets (fun _ _ => rfl) fun d => ?_⟩
    exact (Takes.ofList fun s _ => .ofText s).giving fun s => { d with requiredMarkers := s }
  · refine List.forall_mem_map.2 fun n hn => ?_
    have hn := h.minItemCount n (Option.mem_toList.1 hn)
    refine ⟨.scalar (.natural hn), sets (fun _ _ => rfl) fun d => ?_⟩
    exact (Takes.ofOption (takes_natural hn) (by simp [Value.natural])).giving
      fun n => { d with minItemCount := n }
  · refine List.forall_mem_cons.2 ⟨hflag _ (fun d b => { d with checkLazyLoading := b })
      fun _ _ => rfl, ?_⟩
    refine List.forall_mem_cons.2 ⟨hflag _ (fun d b => { d with checkPagination := b })
      fun _ _ => rfl, ?_⟩
    refine List.forall_mem_cons.2 ⟨hflag _ (fun d b => { d with checkNoscript := b })
      fun _ _ => rfl, ?_⟩
    refine List.forall_mem_cons.2 ⟨hflag _ (fun d b => { d with checkStructuredData := b })
      fun _ _ => rfl, ?_⟩
    refine List.forall_mem_cons.2 ⟨hflag _ (fun d b => { d with checkJsRendering := b })
      fun _ _ => rfl, ?_⟩
    refine List.forall_mem_singleton.2 ⟨.scalar (.float hratio), sets (fun _ _ => rfl) fun d => ?_⟩
    exact (Takes.float c.minTextRatio none).giving fun x => { d with minTextRatio := x }

theorem sets_patterns {c : Config} (h : c.Fits) : Sets c.patternSetting.1 c.patternSetting.2 := by
  refine sets (fun _ _ => rfl) fun d => ?_
  have hpattern : ∀ p ∈ c.expectedPatterns, Takes ExpectedPattern.read p.toValue.kinds [] p :=
    fun p hp => p.takes_read (Nat.lt_trans (h.minCount p hp) (by decide))
  exact (Takes.ofList hpattern).giving fun ps => { d with expectedPatterns := ps }

theorem bare_optionNames : ∀ name ∈ optionNames, Toml.Bare name := by decide

theorem bare_settings (c : Config) : ∀ x ∈ c.settings, Toml.Bare x.1.1 := by
  intro x hx
  have hname := List.mem_map_of_mem (f := (·.1.1)) (List.mem_append_left [c.patternSetting] hx)
  exact bare_optionNames _ ((sublist_optionNames c).mem hname)

def rows (c : Config) : List (List (String × Value)) :=
  c.expectedPatterns.map ExpectedPattern.fields

theorem lines_settings {c : Config} (h : c.Fits)
    (hratio : Decimal.float? (Decimal.pointed.text c.minTextRatio) = some c.minTextRatio) :
    Toml.Lines (c.settings.map (·.1)) where
  bare := List.forall_mem_map.2 (bare_settings c)
  simple := List.forall_mem_map.2 fun x hx => (settings_spec h hratio x hx).1
  distinct := by
    have hnodup := nodup_settings c
    rw [List.map_append] at hnodup
    rw [List.map_map]
    exact (List.nodup_append.1 hnodup).1

theorem lines_rows {c : Config} (h : c.Fits) : ∀ row ∈ c.rows, Toml.Lines row := by
  refine List.forall_mem_map.2 fun p hp => ⟨?_, ?_, ?_⟩
  · have hnames : ∀ name ∈ ["name", "pattern", "min_count"], Toml.Bare name := by decide
    exact fun f hf => hnames f.1 (List.mem_map_of_mem (f := Prod.fst) hf)
  · refine List.forall_mem_cons.2 ⟨.scalar (.text p.name), List.forall_mem_cons.2 ⟨?_, ?_⟩⟩
    · exact .scalar (.text p.expression)
    · exact List.forall_mem_singleton.2 (.scalar (.natural (h.minCount p hp)))
  · simp [ExpectedPattern.fields]

theorem readable_record {fields : List (String × Value)}
    (h : ∀ patterns, ("expected_patterns", .list patterns) ∈ fields →
      patterns.map withoutSurplus = patterns) : readable (.record fields) = .record fields := by
  rw [readable]
  refine congrArg _ ((List.map_congr_left fun f hf => ?_).trans (List.map_id _))
  split
  next patterns => rw [h patterns hf, id]
  next => rfl

theorem toFields_eq_append (c : Config) :
    c.toFields (.number (.float c.minTextRatio)) =
      c.settings.map (·.1) ++ [("expected_patterns", .list (c.rows.map .record))] := by
  have hpatterns : c.patternSetting.1 = ("expected_patterns", .list (c.rows.map .record)) := by
    rw [rows, List.map_map]
    rfl
  rw [toFields_eq, List.map_append, List.map_singleton, hpatterns]

theorem ne_of_mem_settings (c : Config) :
    ∀ f ∈ c.settings.map (·.1), f.1 ≠ "expected_patterns" := by
  have hnodup := nodup_settings c
  rw [List.map_append] at hnodup
  refine List.forall_mem_map.2 fun x hx => ?_
  exact (List.nodup_append.1 hnodup).2.2 _ (List.mem_map_of_mem (f := (·.1.1)) hx) _
    (List.mem_singleton.2 rfl)

theorem readable_toFields (c : Config) :
    readable (.record (c.toFields (.number (.float c.minTextRatio)))) =
      .record (c.toFields (.number (.float c.minTextRatio))) := by
  refine readable_record fun patterns hmem => ?_
  rw [toFields_eq_append, List.mem_append, List.mem_singleton] at hmem
  rcases hmem with hmem | hmem
  · exact absurd rfl (ne_of_mem_settings c _ hmem)
  · cases hmem
    rw [List.map_map]
    rfl

theorem toToml_of_print {c : Config} {o : Option String}
    (h : Toml.print (c.toFields (.number (.float c.minTextRatio))) = o) :
    c.toToml = o.elim (.error .unwritable) .ok := by
  -- The name is unfolded by itself: applied to `c`, checking that step would run the printer.
  have hdef : toToml = toToml := rfl
  conv at hdef => rhs; delta toToml
  rw [hdef]
  dsimp only
  rw [h]
  cases o <;> rfl

/-- The printed form of a configuration, and the fields that are read in it. -/
theorem exists_toToml {c : Config} (h : c.Fits)
    (hratio : Decimal.float? (Decimal.pointed.text c.minTextRatio) = some c.minTextRatio) :
    ∃ text, c.toToml = .ok text ∧
      Toml.parse text = some (.record (c.toFields (.number (.float c.minTextRatio)))) := by
  obtain ⟨text, hprint, hparse⟩ := Toml.parse_print (lines_settings h hratio) (by simp [settings])
    (bare_optionNames "expected_patterns" (by simp [optionNames])) (ne_of_mem_settings c)
    (lines_rows h)
  rw [← toFields_eq_append] at hprint hparse
  exact ⟨text, toToml_of_print hprint, hparse⟩

theorem ofToml_toToml {c : Config} (h : c.Fits)
    (hratio : Decimal.float? (Decimal.pointed.text c.minTextRatio) = some c.minTextRatio) :
    ∃ text, c.toToml = .ok text ∧ ofToml text =
      .ok { c with expectedContentType := some (c.expectedContentType.getD "text/html") } := by
  obtain ⟨text, htext, hparse⟩ := exists_toToml h hratio
  have hsets : ∀ x ∈ c.settings ++ [c.patternSetting], Sets x.1 x.2 :=
    List.forall_mem_append.2 ⟨fun x hx => (settings_spec h hratio x hx).2,
      List.forall_mem_singleton.2 (sets_patterns h)⟩
  refine ⟨text, htext, ?_⟩
  rw [ofToml, hparse]
  dsimp only
  rw [readable_toFields, toFields_eq, ofValue_settings hsets (nodup_settings c), foldl_settings]

end Config

end SoftFail
