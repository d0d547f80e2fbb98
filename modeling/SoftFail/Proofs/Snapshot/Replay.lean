import SoftFail.Detector
import SoftFail.Proofs.Decode.Taking
import SoftFail.Proofs.Headers.Order
import SoftFail.Proofs.Json.Tokens
import SoftFail.Snapshot.Record

/-! Snapshots that were saved are read back as they were. -/

namespace SoftFail

open Decode

/-! What the parts of a snapshot are written as is plain. -/

theorem plain_pairs (pairs : List (String × String)) (depth : Nat) :
    (Value.record (pairs.map fun p => (p.1, .text p.2))).Plain (depth + 1) :=
  .record (List.forall_mem_map.2 fun p _ => .text depth p.2)

theorem Headers.plain_toValue (h : Headers) (depth : Nat) : h.toValue.Plain (depth + 1) :=
  plain_pairs h.entries depth

theorem plain_word16 (depth : Nat) (n : UInt16) : (Value.natural n.toNat).Plain depth :=
  .natural depth (Nat.lt_trans n.toNat_lt (by decide))

theorem Hop.plain_toValue (hop : Hop) (depth : Nat) : hop.toValue.Plain (depth + 1) := by
  refine .record (List.forall_mem_cons.2 ⟨.text depth hop.url, ?_⟩)
  exact List.forall_mem_singleton.2 (plain_word16 depth hop.status)

theorem Body.plain_toValue (b : Body) (depth : Nat) : b.toValue.Plain (depth + 1) := by
  cases b with
  | text s => exact .text _ s
  | undecodable e => exact .record (List.forall_mem_singleton.2 (.text depth e))

theorem Snapshot.plain_toValue (s : Snapshot) : s.toValue.Plain 3 := by
  have hhops : (Value.list (s.redirects.map Hop.toValue)).Plain 2 := by
    refine .list fun v hv => ?_
    obtain ⟨hop, _, rfl⟩ := List.mem_map.1 hv
    exact hop.plain_toValue 0
  refine .record (List.forall_mem_cons.2 ⟨plain_word16 2 s.status, ?_⟩)
  refine List.forall_mem_cons.2 ⟨s.headers.plain_toValue 1, ?_⟩
  exact List.forall_mem_cons.2 ⟨hhops, List.forall_mem_singleton.2 (s.body.plain_toValue 1)⟩

/-! The parts of a snapshot are read from what they are written as. -/

theorem Headers.takes_pairs (pairs : List (String × String)) :
    Takes Headers.read (Value.record (pairs.map fun p => (p.1, .text p.2))).kinds []
      (NameMap.ofList pairs).toHeaders := by
  have hvalues : ∀ p ∈ pairs, Takes Reader.text (Value.text p.2).kinds [] p.2 :=
    fun p _ => .ofText p.2
  rw [Value.kinds_record, List.map_map]
  exact (Takes.map (fun s => (Value.text s).kinds) hvalues).giving
    fun pairs => (NameMap.ofList pairs).toHeaders

theorem Headers.takes_read (h : Headers) : Takes Headers.read h.toValue.kinds [] h := by
  have hpairs := Headers.takes_pairs h.entries
  rwa [Headers.toHeaders_ofList_entries] at hpairs

theorem Hop.takes_read (hop : Hop) : Takes Hop.read hop.toValue.kinds [] hop := by
  have hfields : Takes.Fills Hop.readField ([], ⟨"", 0⟩)
      [("url", (Value.text hop.url).kinds), ("status", (Value.natural hop.status.toNat).kinds)]
      (["status", "url"], hop) := by
    rw [Value.kinds_text, Value.kinds_natural]
    refine .cons (.look (.once rfl _) ((Takes.member (.text hop.url none)).giving _)) ?_
    refine .cons (.look (.once rfl _) ((Takes.member (.word16 hop.status none)).giving _)) ?_
    exact .nil _
  rw [Hop.toValue, Value.kinds_record]
  refine .record ((Takes.fields hfields).last ?_) _ _
  exact .look (.require rfl _) (.look (.require rfl _) (.pure hop _))

theorem Body.takes_read (b : Body) : Takes (Body.read 1) b.toValue.kinds [] b := by
  -- Inside the record of its snapshot, a body may be 126 levels deep.
  refine (Takes.value (b.plain_toValue 125)).last ?_
  cases b <;> exact .pure _ _

theorem Snapshot.takes_read (s : Snapshot) : Takes Snapshot.read s.toValue.kinds [] s := by
  have hhops : Takes (Reader.list Hop.read) (Value.list (s.redirects.map Hop.toValue)).kinds []
      s.redirects := .ofList fun hop _ => hop.takes_read
  have hfields : Takes.Fills Snapshot.readField ([], .ofText 0 "")
      [("status", (Value.natural s.status.toNat).kinds), ("headers", s.headers.toValue.kinds),
        ("redirect_history", (Value.list (s.redirects.map Hop.toValue)).kinds),
        ("body", s.body.toValue.kinds)]
      (["body", "redirect_history", "headers", "status"], s) := by
    rw [Value.kinds_natural]
    refine .cons (.look (.once rfl _) ((Takes.member (.word16 s.status none)).giving _)) ?_
    refine .cons (.look (.once rfl _) ((Takes.member s.headers.takes_read).giving _)) ?_
    refine .cons (.look (.once rfl _) ((Takes.member hhops).giving _)) ?_
    refine .cons (.look (.once rfl _) ((Takes.member s.body.takes_read).giving _)) ?_
    exact .nil _
  rw [Snapshot.toValue, Value.kinds_record]
  refine .record ((Takes.fields hfields).last ?_) _ _
  exact .look (.require rfl _) (.look (.require rfl _) (.pure s _))

/-- A snapshot that was saved is the same when it is read back, and judged the same. -/
theorem Snapshot.ofJson_toJson (s : Snapshot) :
    ofJson s.toJson = .ok s ∧
      ∀ d : Detector, (ofJson s.toJson).map d.evaluate = .ok (d.evaluate s) := by
  have hread : ofJson s.toJson = .ok s := Json.read_print s.plain_toValue s.takes_read
  exact ⟨hread, fun d => by rw [hread]; rfl⟩

end SoftFail
