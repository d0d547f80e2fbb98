import SoftFail.Json.Printing
import SoftFail.Json.Reading
import SoftFail.Json.Tokens
import SoftFail.Proofs.Decode.Taking
import SoftFail.Proofs.Json.Number
import SoftFail.Proofs.Json.Quoted

/-! The tokens of a printed value are of the kinds of this value, so that a reader that takes these
kinds reads it back. -/

namespace SoftFail

namespace Value

variable {name : String} {v : Value} {es : List (String × Value)}

theorem putField_eq_append (h : ∀ e ∈ es, e.1 < name) : putField name v es = es ++ [(name, v)] := by
  induction es with
  | nil => rfl
  | cons e es ih =>
    obtain ⟨he, hes⟩ := List.forall_mem_cons.1 h
    have hne : name ≠ e.1 := fun heq => String.lt_irrefl _ (heq ▸ he)
    rw [putField, if_neg (String.lt_asymm he), if_neg hne, ih hes, List.cons_append]

theorem foldl_putField_eq_append {fs : List (String × Value)}
    (h : (es ++ fs).Pairwise (·.1 < ·.1)) :
    fs.foldl (fun es f => putField f.1 f.2 es) es = es ++ fs := by
  induction fs generalizing es with
  | nil => rw [List.foldl_nil, List.append_nil]
  | cons f fs ih =>
    have hf : ∀ e ∈ es, e.1 < f.1 := fun e he =>
      (List.pairwise_append.1 h).2.2 e he f List.mem_cons_self
    rw [List.append_cons] at h ⊢
    rw [List.foldl_cons, putField_eq_append hf, ih h]

theorem ofFields_eq_record (h : es.Pairwise (·.1 < ·.1)) : ofFields es = .record es :=
  congrArg Value.record (foldl_putField_eq_append (List.nil_append es ▸ h))

end Value

namespace Json

open Decode

theorem tokensFrom_done (size : Nat) (done : List Token) (skip at_ : Nat) (s : List Char) :
    tokensFrom size done skip at_ s = done.reverse ++ tokensFrom size [] skip at_ s := by
  induction s generalizing done skip at_ with
  | nil => simp [tokensFrom]
  | cons c s ih =>
    cases skip with
    | succ skip =>
      rw [tokensFrom, tokensFrom]
      exact ih done skip _
    | zero =>
      rw [tokensFrom, tokensFrom]
      split
      · exact ih done 0 _
      · dsimp only
        split
        · simp
        · rw [ih, ih [_]]
          simp

theorem tokensFrom_skip (size at_ : Nat) (done : List Token) (front s : List Char) :
    ∃ at', tokensFrom size done front.length at_ (front ++ s) = tokensFrom size done 0 at' s := by
  induction front generalizing at_ with
  | nil => exact ⟨at_, rfl⟩
  | cons c front ih =>
    obtain ⟨at', h⟩ := ih (at_ + c.utf8Size)
    exact ⟨at', by rw [← h]; rfl⟩

def kindsFrom (size at_ : Nat) (s : List Char) : List Kind :=
  (tokensFrom size [] 0 at_ s).map Token.kind

def Lexes (s : List Char) (ks : List Kind) (tail : List Char) : Prop :=
  ∀ size at_, ∃ at', kindsFrom size at_ s = ks ++ kindsFrom size at' tail

namespace Lexes

variable {s t tail : List Char} {k : Kind} {ks ks' : List Kind}

theorem refl (s : List Char) : Lexes s [] s := fun _ at_ => ⟨at_, rfl⟩

theorem trans (h : Lexes s ks t) (h' : Lexes t ks' tail) : Lexes s (ks ++ ks') tail := by
  intro size at_
  obtain ⟨at₁, h₁⟩ := h size at_
  obtain ⟨at₂, h₂⟩ := h' size at₁
  exact ⟨at₂, by rw [h₁, h₂, List.append_assoc]⟩

theorem next (h : Lexes s [k] t) (h' : Lexes t ks tail) : Lexes s (k :: ks) tail := h.trans h'

/-! Single tokens. -/

theorem lexeme {c : Char} {front : List Char} (hc : isBlank c = false)
    (hx : ∀ size at_, ∃ stop,
      Json.lexeme size at_ c (front ++ tail) = ⟨k, front.length, stop, false⟩) :
    Lexes (c :: (front ++ tail)) [k] tail := by
  intro size at_
  obtain ⟨stop, hx⟩ := hx size at_
  obtain ⟨at', h⟩ := tokensFrom_skip size (at_ + c.utf8Size) [⟨k, at_, stop⟩] front tail
  refine ⟨at', ?_⟩
  rw [kindsFrom, tokensFrom]
  simp only [hc, hx, Bool.false_eq_true, if_false]
  rw [h, tokensFrom_done]
  rfl

theorem sign {c : Char} (hc : isBlank c = false)
    (hx : ∀ size at_, Json.lexeme size at_ c tail = ⟨k, 0, at_ + 1, false⟩) :
    Lexes (c :: tail) [k] tail := by
  change Lexes (c :: ([] ++ tail)) [k] tail
  exact lexeme hc fun size at_ => ⟨at_ + 1, hx size at_⟩

theorem comma (tail : List Char) : Lexes (',' :: tail) [.comma] tail :=
  sign rfl fun _ _ => rfl

theorem colon (tail : List Char) : Lexes (':' :: tail) [.colon] tail :=
  sign rfl fun _ _ => rfl

theorem openList (tail : List Char) : Lexes ('[' :: tail) [.openList] tail :=
  sign rfl fun _ _ => rfl

theorem closeList (tail : List Char) : Lexes (']' :: tail) [.closeList] tail :=
  sign rfl fun _ _ => rfl

theorem openRecord (tail : List Char) : Lexes ('\x7b' :: tail) [.openRecord] tail :=
  sign rfl fun _ _ => rfl

theorem closeRecord (tail : List Char) : Lexes ('\x7d' :: tail) [.closeRecord] tail :=
  sign rfl fun _ _ => rfl

theorem quote (s : String) (tail : List Char) :
    Lexes (Json.quote s tail) [.text (.ok s) none] tail := by
  have heq : Json.quote s tail = '"' :: ((s.toList.flatMap escape ++ ['"']) ++ tail) := by
    rw [quote_eq, List.append_assoc, List.singleton_append]
  rw [heq]
  refine lexeme rfl fun size at_ => ?_
  obtain ⟨stop, h⟩ := scanText_escaped size 0 (at_ + 1) [] tail s.toList
  refine ⟨stop, ?_⟩
  rw [List.append_assoc, List.singleton_append]
  change scanText size 0 (at_ + 1) (.sound .plain []) _ = _
  rw [h, List.reverse_nil, List.nil_append, String.ofList_toList, Nat.zero_add, List.length_append]
  rfl

theorem wordFault?_append (size at_ : Nat) (word s : List Char) :
    wordFault? size at_ word (word ++ s) = none := by
  induction word generalizing at_ with
  | nil => rfl
  | cons c word ih => rw [List.cons_append, wordFault?, if_pos rfl, ih]

theorem word {c : Char} {front : List Char} (hc : isBlank c = false)
    (hx : ∀ size at_, Json.lexeme size at_ c (front ++ tail) =
      wordLexeme size at_ k front (front ++ tail)) : Lexes (c :: (front ++ tail)) [k] tail := by
  refine lexeme hc fun size at_ => ⟨at_ + 1 + front.length, ?_⟩
  rw [hx, wordLexeme, wordFault?_append]

theorem natural {n : Nat} (hn : n < bound64) (htail : EndsNumber tail) :
    Lexes (Decimal.digits n ++ tail) [.number (.ok (.integer n)) none] tail := by
  obtain ⟨c, ds, heq, hdigits, _⟩ := Decimal.exists_digits_eq_cons n
  obtain ⟨hc, _⟩ := List.forall_mem_cons.1 hdigits
  have hblank : isBlank c = false := by
    simp only [isBlank, Bool.or_eq_false_iff, decide_eq_false_iff_not]
    refine ⟨⟨⟨?_, ?_⟩, ?_⟩, ?_⟩ <;> rintro rfl <;> exact absurd hc (by decide)
  -- No other token begins with a digit.
  have hnumber (size at_ : Nat) (s : List Char) :
      Json.lexeme size at_ c s = numberLexeme at_ (c :: s) := by
    unfold Json.lexeme
    split <;> first
      | exact absurd hc (by decide)
      | rw [if_pos (by simp [hc])]
  rw [heq]
  refine lexeme hblank fun size at_ => ⟨at_ + (Decimal.digits n).length, ?_⟩
  rw [hnumber, ← List.cons_append, ← heq, numberLexeme, Literal.read_digits htail]
  simp only [Literal.value_digits hn]
  rw [heq, List.length_cons, Nat.add_sub_cancel_left, Nat.add_sub_cancel]

/-! Values. -/

theorem endsNumber_sign {c : Char} (hc : c = ',' ∨ c = ']' ∨ c = '\x7d') (tail : List Char) :
    EndsNumber (c :: tail) := by
  rintro d ⟨⟩
  rcases hc with rfl | rfl | rfl <;> decide

theorem endsNumber_compactItems (items : List Value) (htail : EndsNumber tail) :
    EndsNumber (compactItems false items tail) := by
  cases items with
  | nil => exact htail
  | cons v items => exact endsNumber_sign (.inl rfl) _

theorem endsNumber_compactFields (fields : List (String × Value)) (htail : EndsNumber tail) :
    EndsNumber (compactFields false fields tail) := by
  cases fields with
  | nil => exact htail
  | cons f fields => exact endsNumber_sign (.inl rfl) _

theorem compactItems {items : List Value}
    (h : ∀ v ∈ items, ∀ tail, EndsNumber tail → Lexes (compact v tail) v.kinds tail)
    (first : Bool) (htail : EndsNumber tail) :
    Lexes (Json.compactItems first items tail) (separated first (items.map Value.kinds)) tail := by
  induction items generalizing first with
  | nil => exact refl tail
  | cons v items ih =>
    obtain ⟨hv, hitems⟩ := List.forall_mem_cons.1 h
    have hout := (hv _ (endsNumber_compactItems items htail)).trans (ih hitems false)
    cases first with
    | true => exact hout
    | false => exact (comma _).next hout

theorem compactFields {fields : List (String × Value)}
    (h : ∀ f ∈ fields, ∀ tail, EndsNumber tail → Lexes (compact f.2 tail) f.2.kinds tail)
    (first : Bool) (htail : EndsNumber tail) :
    Lexes (Json.compactFields first fields tail)
      (separated first (fields.map fun f => Value.fieldKinds f.1 f.2.kinds)) tail := by
  induction fields generalizing first with
  | nil => exact refl tail
  | cons f fields ih =>
    obtain ⟨hf, hfields⟩ := List.forall_mem_cons.1 h
    have hvalue := (hf _ (endsNumber_compactFields fields htail)).trans (ih hfields false)
    have hout := (quote f.1 _).next ((colon _).next hvalue)
    cases first with
    | true => exact hout
    | false => exact (comma _).next hout

theorem compact {depth : Nat} {v : Value} (h : v.Plain depth) (htail : EndsNumber tail) :
    Lexes (Json.compact v tail) v.kinds tail := by
  induction h generalizing tail with
  | null => exact word rfl fun _ _ => rfl
  | boolean _ b => cases b <;> exact word rfl fun _ _ => rfl
  | natural _ hn =>
    have htext (n : Nat) : numberText (.integer n) = Decimal.digits n := String.toList_ofList
    rw [Value.kinds_natural, Value.natural, Json.compact, htext]
    exact natural hn htail
  | text _ s =>
    rw [Value.kinds_text]
    exact quote s tail
  | list _ ih =>
    rw [Value.kinds_list]
    have hitems := compactItems (fun v hv _ ht => ih v hv ht) true
      (endsNumber_sign (.inr (.inl rfl)) tail)
    exact (openList _).next (hitems.trans (closeList tail))
  | record _ ih =>
    rw [Value.kinds_record]
    have hfields := compactFields (fun f hf _ ht => ih f hf ht) true
      (endsNumber_sign (.inr (.inr rfl)) tail)
    exact (openRecord _).next (hfields.trans (closeRecord tail))

end Lexes

theorem kind_tokens {text : String} {ks : List Kind} (h : Lexes text.toList ks []) :
    (tokens text).map Token.kind = ks := by
  obtain ⟨at', heq⟩ := h text.utf8ByteSize 0
  have hempty : kindsFrom text.utf8ByteSize at' [] = [] := rfl
  rw [hempty, List.append_nil] at heq
  rw [← heq, kindsFrom, tokens]

theorem kind_tokens_print {depth : Nat} {v : Value} (h : v.Plain depth) :
    (tokens (print v)).map Token.kind = v.kinds := by
  have hend : EndsNumber [] := by
    rintro _ ⟨⟩
  refine kind_tokens ?_
  rw [print, String.toList_ofList]
  exact Lexes.compact h hend

theorem read_print {α : Type} {r : Reader α} {depth : Nat} {v : Value} {a : α}
    (hv : v.Plain depth) (h : Takes r v.kinds [] a) : read r (print v) = .ok a := by
  rw [← kind_tokens_print hv] at h
  rw [read, h.run_atEnd]

/-- A plain value whose records have their fields in order, so that it is read as it is printed. -/
def Reloads (depth : Nat) (v : Value) : Prop :=
  v.Plain depth ∧ Takes (Reader.value Value.ofFields depth) v.kinds [] v

namespace Reloads

variable {d : Nat}

theorem null : Reloads d .null := ⟨.null d, .value_null⟩

theorem text (s : String) : Reloads d (.text s) := ⟨.text d s, .value_text s⟩

theorem natural {n : Nat} (hn : n < bound64) : Reloads d (.natural n) :=
  ⟨.natural d hn, .value_natural n⟩

theorem list {items : List Value} (h : ∀ v ∈ items, Reloads d v) : Reloads (d + 1) (.list items) :=
  ⟨.list fun v hv => (h v hv).1, .value_list fun v hv => (h v hv).2⟩

theorem record {fields : List (String × Value)} (h : ∀ f ∈ fields, Reloads d f.2)
    (hfields : fields.Pairwise (·.1 < ·.1)) : Reloads (d + 1) (.record fields) := by
  have htakes := Takes.value_record fun f hf => (h f hf).2
  rw [Value.ofFields_eq_record hfields] at htakes
  exact ⟨.record fun f hf => (h f hf).1, htakes⟩

theorem parse_print {v : Value} (h : Reloads depth v) : parse (print v) = .ok v :=
  read_print h.1 h.2

end Reloads

end Json

end SoftFail
