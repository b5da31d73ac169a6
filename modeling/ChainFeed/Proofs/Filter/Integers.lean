import ChainFeed.Proofs.Block.Coherence
import ChainFeed.Proofs.Json.Numeral
import ChainFeed.Proofs.Json.Printer

/-!
# Integers in either form

Payloads carry integers as numbers or as numerals in strings, and so do filters. Whichever form
either side has, values that are words match exactly if they are the same integer: a numeral has
one integer only, and reading it gives that integer back. So for a filter all of whose values are
such integers it makes no difference how they are written, nor how the payload carries what is found
at their paths.

## Main definitions

- `Json.Carries`: a value carries an integer
- `MessageFilter.OnIntegers`: a filter compares integers only

## Main results

- `Json.matchesFilterValue_of_carries`: values match exactly if they carry the same integer
- `Session.integers_match`: what a filter of integers accepts
-/

namespace ChainFeed

open Number (IsWord)

/-- A JSON value carries an integer, as a number or as its numeral. -/
inductive Json.Carries : Json → Int → Prop
  | number (n : Int) : Carries (.int n) n
  | numeral (n : Int) : Carries (.string (toString n)) n

namespace Json

variable {actual expected : Json} {a b : Int}

theorem matchesFilterValue_number_numeral :
    matchesFilterValue (.int a) (.string (toString b)) = decide (a = b) :=
  decide_eq_decide.mpr ⟨Number.toString_int_injective, congrArg toString⟩

/-- A numeral that is no word would be read as another number. -/
theorem matchesFilterValue_numeral_number (ha : IsWord a) :
    matchesFilterValue (.string (toString a)) (.int b) = decide (a = b) := by
  show matchesFilterValue (.string (toString a)) (.number (.integer b)) = _
  rw [matchesFilterValue, Number.ofBytes?_toString ha]
  rfl

theorem matchesFilterValue_numeral_numeral :
    matchesFilterValue (.string (toString a)) (.string (toString b)) = decide (a = b) :=
  decide_eq_decide.mpr ⟨Number.toString_int_injective, congrArg toString⟩

/-- Values match exactly if they carry the same integer. -/
theorem matchesFilterValue_of_carries (ha : IsWord a) (hactual : actual.Carries a)
    (hexpected : expected.Carries b) : actual.matchesFilterValue expected = decide (a = b) := by
  cases hactual with
  | number =>
    cases hexpected with
    | number => rfl
    | numeral => exact matchesFilterValue_number_numeral
  | numeral =>
    cases hexpected with
    | number => exact matchesFilterValue_numeral_number ha
    | numeral => exact matchesFilterValue_numeral_numeral

/-- A value carries one integer at most. -/
theorem Carries.unique (ha : actual.Carries a) (hb : actual.Carries b) : a = b := by
  cases ha with
  | number =>
    cases hb
    rfl
  | numeral =>
    generalize htext : toString a = text at hb
    cases hb
    exact Number.toString_int_injective htext

end Json

/-- A filter compares integers only: its values are such, and its paths lead to such in a payload,
or to nothing. -/
structure MessageFilter.OnIntegers (filter : MessageFilter) (payload : Json) : Prop where
  expected : ∀ entry ∈ filter.values.getD [], ∃ b, IsWord b ∧ entry.2.Carries b
  actual : ∀ entry ∈ filter.values.getD [], ∀ value, payload.atPath? entry.1 = some value →
    ∃ a, IsWord a ∧ value.Carries a

namespace MessageFilter

variable {filter : MessageFilter} {payload expected : Json} {path : String} {b : Int}

/-- A payload has an integer at a path if the path leads to it. -/
theorem hasValue_iff
    (hactual : ∀ value, payload.atPath? path = some value → ∃ a, IsWord a ∧ value.Carries a)
    (hexpected : expected.Carries b) :
    hasValue payload path expected = true ↔
      ∃ value, payload.atPath? path = some value ∧ value.Carries b := by
  unfold hasValue
  cases hvalue : payload.atPath? path with
  | none => simp
  | some value =>
    obtain ⟨a, ha, hcarries⟩ := hactual value hvalue
    dsimp only
    rw [Json.matchesFilterValue_of_carries ha hcarries hexpected, decide_eq_true_iff]
    constructor
    · rintro rfl
      exact ⟨value, rfl, hcarries⟩
    · rintro ⟨_, hfound, hb⟩
      obtain rfl := Option.some.inj hfound
      exact hcarries.unique hb

/-- A payload is accepted if every path leads to the integer of its value. -/
theorem acceptsPayload_iff (hcall : filter.contractCall = none) (h : filter.OnIntegers payload) :
    filter.acceptsPayload payload = true ↔
      ∀ entry ∈ filter.values.getD [], ∃ b value, entry.2.Carries b ∧
        payload.atPath? entry.1 = some value ∧ value.Carries b := by
  have hnone : filter.call? = none := by rw [call?, hcall, Option.filter_none]
  rw [acceptsPayload, hnone, Option.all_none, Bool.and_true, List.all_eq_true]
  refine forall₂_congr fun entry hentry => ?_
  obtain ⟨b, -, hb⟩ := h.expected entry hentry
  rw [hasValue_iff (h.actual entry hentry) hb]
  constructor
  · rintro ⟨value, hvalue, hcarries⟩
    exact ⟨b, value, hb, hvalue, hcarries⟩
  · rintro ⟨c, value, hc, hvalue, hcarries⟩
    exact ⟨value, hvalue, hb.unique hc ▸ hcarries⟩

end MessageFilter

/-- Integers match if they are the same, in any form; and so a filter whose values are integers
accepts a message of its type exactly if every path leads to the integer of its value. -/
theorem Session.integers_match {session : Session} {message : Message} {filter : MessageFilter}
    {payload : Json} (hsession : session.Coherent) (hmessage : message ∈ session.pair.messages)
    (hsuccess : message.tx.isSuccess = true)
    (hpayload : session.registry.decode message.typeUrl message.value = .ok payload)
    (hkind : filter.kind = message.typeUrl) (hcall : filter.contractCall = none)
    (hintegers : filter.OnIntegers payload) :
    (∀ a b actual expected, IsWord a → IsWord b → Json.Carries actual a →
      Json.Carries expected b → actual.matchesFilterValue expected = decide (a = b)) ∧
    ((session.acceptsMessage (some filter) message).1 = true ↔
      ∀ entry ∈ filter.values.getD [], ∃ b value, entry.2.Carries b ∧
        payload.atPath? entry.1 = some value ∧ value.Carries b) := by
  refine ⟨fun a b actual expected ha _ => Json.matchesFilterValue_of_carries ha, ?_⟩
  have hadmits : filter.admits message = true := by
    simp [MessageFilter.admits, TxFilter.accepts, hsuccess, hkind]
  rw [hsession.acceptsMessage_iff hmessage, ← MessageFilter.acceptsPayload_iff hcall hintegers]
  constructor
  · rintro ⟨-, haccepts⟩
    by_cases hneeds : filter.needsPayload = true
    · obtain ⟨other, hother, haccepts⟩ := haccepts hneeds
      rw [hpayload] at hother
      cases hother
      exact haccepts
    -- without a need for the payload there are no values
    · have hempty : filter.values.getD [] = [] := by
        simpa [MessageFilter.needsPayload] using (Bool.or_eq_false_iff.mp
          (Bool.eq_false_iff.mpr hneeds)).1
      refine (MessageFilter.acceptsPayload_iff hcall hintegers).mpr fun entry hentry => ?_
      rw [hempty] at hentry
      exact absurd hentry List.not_mem_nil
  · exact fun haccepts => ⟨hadmits, fun _ => ⟨payload, hpayload, haccepts⟩⟩

/-! ### The greatest and the least word -/

section Transfer

/-- A payload with the greatest word as a numeral, and the least one as a number. -/
def transferPayload : Json :=
  .object [("amount", .string (toString (18446744073709551615 : Int))),
    ("memo", .object [("id", .int (-9223372036854775808))])]

/-- A filter with the same words, each in the other form. -/
def transferFilter : MessageFilter :=
  ⟨"/t.Transfer", some [("amount", .int 18446744073709551615),
    ("memo.id", .string (toString (-9223372036854775808 : Int)))], none, none⟩

/-- A transaction of one message without bytes. -/
def transferTx : Transaction where
  idx := 0
  raw := [10, 15, 10, 13, 10, 11] ++ Utf8.encode "/t.Transfer"
  result := ⟨0, "", "", "", [], 0, 0, []⟩

/-- The message. -/
def transferMessage : Message :=
  ⟨0, transferTx, "/t.Transfer", []⟩

/-- A block of the transaction, and a decoder of the user that gives the payload. -/
def transferSession : Session :=
  .ofPair ⟨⟨"", ⟨⟨11, 0⟩, "chain", 1, ⟨0, 0⟩, none, "", "", ""⟩, [transferTx.raw]⟩,
    ⟨1, [transferTx.result], none, none⟩, rfl⟩
    (Registry.empty.register "/t.Transfer" (.custom fun _ => .ok transferPayload))

theorem onIntegers_transfer : transferFilter.OnIntegers transferPayload := by
  constructor
  · intro entry hentry
    rcases List.mem_cons.mp hentry with rfl | hentry
    · exact ⟨_, by decide, .number _⟩
    · obtain rfl := List.mem_singleton.mp hentry
      exact ⟨_, by decide, .numeral _⟩
  · intro entry hentry value hvalue
    rcases List.mem_cons.mp hentry with rfl | hentry
    · obtain rfl : Json.string (toString (18446744073709551615 : Int)) = value :=
        Option.some.inj hvalue
      exact ⟨_, by decide, .numeral _⟩
    · obtain rfl := List.mem_singleton.mp hentry
      obtain rfl : Json.int (-9223372036854775808) = value := Option.some.inj hvalue
      exact ⟨_, by decide, .number _⟩

/-- The filter accepts the message. -/
theorem integers_match_transfer :
    transferSession.Coherent ∧ transferMessage ∈ transferSession.pair.messages ∧
      transferMessage.tx.isSuccess = true ∧
      transferSession.registry.decode transferMessage.typeUrl transferMessage.value =
        .ok transferPayload ∧
      transferFilter.kind = transferMessage.typeUrl ∧ transferFilter.contractCall = none ∧
      transferFilter.OnIntegers transferPayload ∧
      (transferSession.acceptsMessage (some transferFilter) transferMessage).1 = true := by
  have hcoherent : transferSession.Coherent := Session.coherent_ofPair
  have hmem : transferMessage ∈ transferSession.pair.messages := by decide +kernel
  have hdecode : transferSession.registry.decode transferMessage.typeUrl transferMessage.value =
      .ok transferPayload := rfl
  refine ⟨hcoherent, hmem, rfl, hdecode, rfl, rfl, onIntegers_transfer, ?_⟩
  refine (Session.integers_match hcoherent hmem rfl hdecode rfl rfl
    onIntegers_transfer).2.mpr fun entry hentry => ?_
  rcases List.mem_cons.mp hentry with rfl | hentry
  · exact ⟨_, _, .number _, rfl, .numeral _⟩
  · obtain rfl := List.mem_singleton.mp hentry
    exact ⟨_, _, .numeral _, rfl, .number _⟩

end Transfer

end ChainFeed
