import ChainFeed.Proofs.Dictionary.Entries

/-!
# The entries of handlers, each once

A list of handlers has no entries if one of them needs every block: the dictionary indexes neither
blocks nor transactions, and cannot narrow what no filter narrows. Otherwise every handler has an
entry of its own, and the entries of the list are these, in the order of the handlers, without those
that stand before. Entries are told apart by their texts, and so in every detail: `1` and `1.0`, the
zeros `0.0` and `-0.0`, a number and its numeral, or two strings that are escaped differently make
two entries.

## Main definitions

- `Handler.NeedsEveryBlock`: the handlers that have no entry
- `FirstsOf`: a list without what stands before in it
- `QueryEntry.Gathers`: the entries of handlers all of which have one

## Main results

- `QueryEntry.firstsOf_distinct`: entries are left out only where the same entry stands before
- `QueryEntry.gathers_ofHandlers`: which entries a list of handlers has, and in which order
-/

namespace ChainFeed

/-! ### Lists without what stands before -/

section Firsts

variable {α : Type} {all kept : List α}

/-- The elements of a list that do not stand before in it, in their order. -/
inductive FirstsOf : (all kept : List α) → Prop
  | nil : FirstsOf [] []
  | keep {all kept : List α} {x : α} (h : FirstsOf all kept) (hnew : x ∉ all) :
    FirstsOf (all ++ [x]) (kept ++ [x])
  | drop {all kept : List α} {x : α} (h : FirstsOf all kept) (hold : x ∈ all) :
    FirstsOf (all ++ [x]) kept

theorem FirstsOf.mem_iff (h : FirstsOf all kept) {x : α} : x ∈ kept ↔ x ∈ all := by
  induction h with
  | nil => exact Iff.rfl
  | keep _ _ ih => rw [List.mem_append, List.mem_append, ih]
  | @drop all kept y _ hold ih =>
    rw [List.mem_append, List.mem_singleton, ih]
    refine ⟨Or.inl, ?_⟩
    rintro (hmem | rfl)
    · exact hmem
    · exact hold

theorem FirstsOf.nodup (h : FirstsOf all kept) : kept.Nodup := by
  induction h with
  | nil => exact List.nodup_nil
  | @keep all kept x h hnew ih =>
    rw [List.nodup_append]
    refine ⟨ih, List.nodup_singleton x, fun y hy z hz heq => hnew ?_⟩
    rw [← List.mem_singleton.mp hz, ← heq]
    exact h.mem_iff.mp hy
  | drop _ _ ih => exact ih

theorem FirstsOf.eq_nil_iff (h : FirstsOf all kept) : kept = [] ↔ all = [] := by
  simp only [List.eq_nil_iff_forall_not_mem, h.mem_iff]

end Firsts

/-! ### Handlers with entries -/

namespace Handler

/-- The handlers that the dictionary cannot serve: those for blocks and transactions, and those for
all messages or all events. -/
inductive NeedsEveryBlock : Handler → Prop
  | block (filter : Option BlockFilter) : NeedsEveryBlock (.block filter)
  | transaction (filter : Option TxFilter) : NeedsEveryBlock (.transaction filter)
  | message : NeedsEveryBlock (.message none)
  | event : NeedsEveryBlock (.event none)

theorem needsEveryBlock_iff (handler : Handler) :
    handler.NeedsEveryBlock ↔ QueryEntry.ofHandler? handler = none := by
  constructor
  · intro h
    cases h <;> rfl
  · intro h
    cases handler with
    | block filter => exact .block filter
    | transaction filter => exact .transaction filter
    | message filter =>
      cases filter with
      | none => exact .message
      | some filter => cases h
    | event filter =>
      cases filter with
      | none => exact .event
      | some filter => cases h

end Handler

namespace QueryEntry

variable {entry : QueryEntry} {entries own : List QueryEntry} {handlers : List Handler}

/-- Entries have different texts if and only if they are different. -/
theorem text_bne_iff {other : QueryEntry} : (other.text != entry.text) = true ↔ other ≠ entry := by
  rw [bne_iff_ne]
  exact not_congr ⟨text_injective, congrArg text⟩

/-- An entry behind others is kept if it is none of them. -/
theorem distinct_append_of_notMem (h : entry ∉ entries) :
    distinct (entries ++ [entry]) = distinct entries ++ [entry] := by
  induction entries with
  | nil => rfl
  | cons first rest ih =>
    obtain ⟨hfirst, hrest⟩ := List.ne_and_not_mem_of_not_mem_cons h
    rw [List.cons_append, distinct, ih hrest, List.filter_append, distinct, List.cons_append]
    simp [text_bne_iff.mpr hfirst]

/-- An entry behind others is left out if it is one of them. -/
theorem distinct_append_of_mem (h : entry ∈ entries) :
    distinct (entries ++ [entry]) = distinct entries := by
  induction entries with
  | nil => exact absurd h List.not_mem_nil
  | cons first rest ih =>
    rw [List.cons_append, distinct, distinct]
    by_cases hrest : entry ∈ rest
    · rw [ih hrest]
    · -- it can only be the first one, whose text takes it out again
      obtain rfl : entry = first := (List.mem_cons.mp h).resolve_right hrest
      rw [distinct_append_of_notMem hrest, List.filter_append]
      simp

/-- Entries are left out only where the same entry stands before. -/
theorem firstsOf_distinct (entries : List QueryEntry) : FirstsOf entries (distinct entries) := by
  -- the entries are met from the front, so the induction takes them from the back
  induction entries using List.reverseRecOn with
  | nil => exact .nil
  | append_singleton entries entry ih =>
    by_cases hmem : entry ∈ entries
    · rw [distinct_append_of_mem hmem]
      exact ih.drop hmem
    · rw [distinct_append_of_notMem hmem]
      exact ih.keep hmem

theorem ofHandlers_singleton {handler : Handler} (h : ofHandler? handler = some entry) :
    ofHandlers [handler] = [entry] := by
  rw [ofHandlers, List.mapM_cons, h]
  rfl

/-- One handler that needs every block leaves no entries. -/
theorem ofHandlers_eq_nil {handler : Handler} (hmem : handler ∈ handlers)
    (h : handler.NeedsEveryBlock) : ofHandlers handlers = [] := by
  rw [ofHandlers]
  cases hentries : handlers.mapM ofHandler? with
  | none => rfl
  | some entries =>
    obtain ⟨entry, -, hentry⟩ :=
      exists_of_mem_of_forall₂ (mapM_eq_some_iff.mp hentries).flip hmem
    rw [handler.needsEveryBlock_iff.mp h] at hentry
    cases hentry

/-- The entries of handlers each of which has one. -/
structure Gathers (handlers : List Handler) (entries : List QueryEntry) : Prop where
  /-- They are the handlers' own entries in order, without those that stand before. -/
  firsts : ∃ own, List.Forall₂ (fun handler entry => ofHandlers [handler] = [entry]) handlers own ∧
    FirstsOf own entries
  /-- No handler's own entry is lost. -/
  complete : ∀ handler ∈ handlers, ∃ entry ∈ entries, ofHandlers [handler] = [entry]
  /-- No entry is there twice. -/
  nodup : entries.Nodup
  /-- Only an empty list of handlers has no entries. -/
  eq_nil_iff : entries = [] ↔ handlers = []

theorem gathers_of_forall (h : ∀ handler ∈ handlers, ¬ handler.NeedsEveryBlock) :
    Gathers handlers (ofHandlers handlers) := by
  have hentry : ∀ handler ∈ handlers, ∃ entry, ofHandler? handler = some entry := by
    intro handler hmem
    apply Option.ne_none_iff_exists'.mp
    intro hnone
    exact h handler hmem (handler.needsEveryBlock_iff.mpr hnone)
  obtain ⟨own, hown⟩ := exists_forall₂_of_forall hentry
  have hsingle := hown.imp fun _ _ => ofHandlers_singleton
  have hfirsts : FirstsOf own (ofHandlers handlers) := by
    rw [ofHandlers, mapM_eq_some_iff.mpr hown]
    exact firstsOf_distinct own
  refine ⟨⟨own, hsingle, hfirsts⟩, ?_, hfirsts.nodup, ?_⟩
  · intro handler hmem
    obtain ⟨entry, hmem, hsingle⟩ := exists_of_mem_of_forall₂ hsingle.flip hmem
    exact ⟨entry, hfirsts.mem_iff.mpr hmem, hsingle⟩
  · rw [hfirsts.eq_nil_iff, ← List.length_eq_zero_iff, ← hown.length_eq, List.length_eq_zero_iff]

/-- A list of handlers has no entries if one of them needs every block, and otherwise the entries of
all of them, each once. -/
theorem gathers_ofHandlers (handlers : List Handler) :
    ((∃ handler ∈ handlers, handler.NeedsEveryBlock) ∧ ofHandlers handlers = []) ∨
      ((∀ handler ∈ handlers, ¬ handler.NeedsEveryBlock) ∧
        Gathers handlers (ofHandlers handlers)) := by
  by_cases h : ∃ handler ∈ handlers, handler.NeedsEveryBlock
  · obtain ⟨handler, hmem, hneeds⟩ := h
    exact .inl ⟨⟨handler, hmem, hneeds⟩, ofHandlers_eq_nil hmem hneeds⟩
  · have hnone : ∀ handler ∈ handlers, ¬ handler.NeedsEveryBlock := by
      intro handler hmem hneeds
      exact h ⟨handler, hmem, hneeds⟩
    exact .inr ⟨hnone, gathers_of_forall hnone⟩

/-- The two zeros make two entries. -/
example :
    let handler (negative : Bool) : Handler :=
      .message (some ⟨"/t", some [("a", .number (.float (.zero negative)))], none, none⟩)
    (ofHandlers [handler false, handler true, handler false]).length = 2 := by
  decide +kernel

end QueryEntry

end ChainFeed
