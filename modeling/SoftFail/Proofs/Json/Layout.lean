import SoftFail.Proofs.Json.Tokens

/-! Values printed over several lines: line ends and indentation are no tokens, so that such a text
is read like a text without blanks. -/

namespace SoftFail.Json

open Decode

namespace Lexes

variable {s t tail : List Char} {ks : List Kind}

theorem blank {c : Char} (hc : isBlank c = true) (tail : List Char) :
    Lexes (c :: tail) [] tail := by
  intro size at_
  refine ⟨at_ + c.utf8Size, ?_⟩
  rw [kindsFrom, tokensFrom]
  simp only [hc, if_true]
  rfl

theorem blanks (n : Nat) (tail : List Char) : Lexes (List.replicate n ' ' ++ tail) [] tail := by
  induction n with
  | zero => exact refl tail
  | succ n ih => exact (blank rfl _).trans ih

theorem newline (depth : Nat) (tail : List Char) : Lexes (Json.newline depth tail) [] tail :=
  (blank rfl _).trans (blanks _ tail)

theorem line (depth : Nat) (h : Lexes s ks tail) : Lexes (Json.newline depth s) ks tail :=
  (newline depth s).trans h

theorem endsNumber_newline (depth : Nat) (tail : List Char) :
    EndsNumber (Json.newline depth tail) := by
  rintro c ⟨⟩
  decide

theorem endsNumber_prettyItems (depth : Nat) (items : List Value) (htail : EndsNumber tail) :
    EndsNumber (Json.prettyItems depth false items tail) := by
  cases items with
  | nil => exact htail
  | cons v items => exact endsNumber_sign (.inl rfl) _

theorem endsNumber_prettyFields (depth : Nat) (fields : List (String × Value))
    (htail : EndsNumber tail) : EndsNumber (Json.prettyFields depth false fields tail) := by
  cases fields with
  | nil => exact htail
  | cons f fields => exact endsNumber_sign (.inl rfl) _

theorem prettyItems {items : List Value} {depth : Nat}
    (h : ∀ v ∈ items, ∀ tail, EndsNumber tail → Lexes (Json.pretty depth v tail) v.kinds tail)
    (first : Bool) (htail : EndsNumber tail) :
    Lexes (Json.prettyItems depth first items tail) (separated first (items.map Value.kinds))
      tail := by
  induction items generalizing first with
  | nil => exact refl tail
  | cons v items ih =>
    obtain ⟨hv, hitems⟩ := List.forall_mem_cons.1 h
    have hvalue := hv _ (endsNumber_prettyItems depth items htail)
    have hout := line depth (hvalue.trans (ih hitems false))
    cases first with
    | true => exact hout
    | false => exact (comma _).next hout

theorem prettyFields {fields : List (String × Value)} {depth : Nat}
    (h : ∀ f ∈ fields, ∀ tail, EndsNumber tail → Lexes (Json.pretty depth f.2 tail) f.2.kinds tail)
    (first : Bool) (htail : EndsNumber tail) :
    Lexes (Json.prettyFields depth first fields tail)
      (separated first (fields.map fun f => Value.fieldKinds f.1 f.2.kinds)) tail := by
  induction fields generalizing first with
  | nil => exact refl tail
  | cons f fields ih =>
    obtain ⟨hf, hfields⟩ := List.forall_mem_cons.1 h
    have hvalue := hf _ (endsNumber_prettyFields depth fields htail)
    have hspaced := (blank (c := ' ') rfl _).trans (hvalue.trans (ih hfields false))
    have hout := line depth ((quote f.1 _).next ((colon _).next hspaced))
    cases first with
    | true => exact hout
    | false => exact (comma _).next hout

theorem pretty {plainDepth : Nat} {v : Value} (h : v.Plain plainDepth) (depth : Nat)
    (htail : EndsNumber tail) : Lexes (Json.pretty depth v tail) v.kinds tail := by
  induction h generalizing depth tail with
  | null d => exact compact (.null d) htail
  | boolean d b => exact compact (.boolean d b) htail
  | natural d hn => exact compact (.natural d hn) htail
  | text d s => exact compact (.text d s) htail
  | @list d items hplain ih =>
    cases items with
    | nil => exact compact (.list hplain) htail
    | cons v items =>
      rw [Value.kinds_list]
      have hitems := prettyItems (fun v hv _ ht => ih v hv (depth + 1) ht) true
        (endsNumber_newline depth (']' :: tail))
      exact (openList _).next (hitems.trans (line depth (closeList tail)))
  | @record d fields hplain ih =>
    cases fields with
    | nil => exact compact (.record hplain) htail
    | cons f fields =>
      rw [Value.kinds_record]
      have hfields := prettyFields (fun f hf _ ht => ih f hf (depth + 1) ht) true
        (endsNumber_newline depth ('\x7d' :: tail))
      exact (openRecord _).next (hfields.trans (line depth (closeRecord tail)))

end Lexes

theorem quote_append (s : String) (tail s' : List Char) :
    quote s tail ++ s' = quote s (tail ++ s') := by
  rw [quote_eq, quote_eq, List.cons_append, List.append_assoc, List.cons_append]

end SoftFail.Json
