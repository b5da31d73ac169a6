import ChainFeed.Block.Session
import ChainFeed.Proofs.Block.EventStream

/-!
# What a session remembers

A session remembers payloads by the positions of their messages. Positions tell the messages of a
block apart, so what a session finds for a message of its block is what its registry decodes, no
matter which payloads and which filters were asked for before.

## Main definitions

- `Session.Coherent`: the session remembers what its registry decodes

## Main results

- `Session.Coherent.payload_eq`: a payload is what the registry decodes
- `Session.Coherent.acceptsMessage_iff`: so filters see what the registry decodes
- `Session.Coherent.payload`, `Session.Coherent.acceptsMessage`, `Session.Coherent.acceptsEvent`:
  sessions stay coherent in use
-/

namespace ChainFeed

namespace Session

variable {session : Session} {pair : BlockPair} {registry : Registry} {message : Message}
  {filter : Option MessageFilter} {event : BlockEvent}

/-- The session remembers what its registry decodes. -/
def Coherent (session : Session) : Prop :=
  ∀ message ∈ session.pair.messages, ∀ result,
    session.decoded.lookup (place message) = some result →
      result = session.registry.decode message.typeUrl message.value

/-- Messages of one block at the same place are the same. -/
theorem message_eq_of_place {other : Message} (hmessage : message ∈ pair.messages)
    (hother : other ∈ pair.messages) (h : place message = place other) : message = other :=
  BlockPair.message_ext hmessage hother (Prod.mk.inj h).1 (Prod.mk.inj h).2

/-! ### Frames -/

@[simp]
theorem payload_pair : (session.payload message).2.pair = session.pair := by
  unfold payload
  split <;> rfl

@[simp]
theorem payload_registry : (session.payload message).2.registry = session.registry := by
  unfold payload
  split <;> rfl

/-- A message filter leaves the session as it is, or asks for the payload. -/
theorem acceptsMessage_snd :
    (session.acceptsMessage filter message).2 = session ∨
      (session.acceptsMessage filter message).2 = (session.payload message).2 := by
  unfold acceptsMessage
  split
  · exact .inl rfl
  · split
    · exact .inl rfl
    · split
      · exact .inl rfl
      · split
        · rename_i h
          exact .inr (congrArg (·.2) h).symm
        · rename_i h
          exact .inr (congrArg (·.2) h).symm

/-- An event filter leaves the session as it is, or asks a message filter. -/
theorem acceptsEvent_snd {filter : Option EventFilter} :
    (session.acceptsEvent filter event).2 = session ∨
      ∃ messageFilter origin, event.origin = some origin ∧
        (session.acceptsEvent filter event).2 =
          (session.acceptsMessage messageFilter origin.message).2 := by
  unfold acceptsEvent
  split
  · exact .inl rfl
  · split
    · exact .inl rfl
    · split
      · exact .inl rfl
      · exact .inl rfl
      · rename_i messageFilter origin _ horigin
        refine .inr ⟨some messageFilter, origin, horigin, ?_⟩
        split
        · rename_i h
          exact (congrArg (·.2) h).symm
        · rename_i h
          exact (congrArg (·.2) h).symm

/-! ### Coherence -/

theorem coherent_ofPair : (ofPair pair registry).Coherent :=
  nofun

namespace Coherent

/-- What is found for a message is what the registry decodes. -/
theorem payload_eq (h : session.Coherent) (hmessage : message ∈ session.pair.messages) :
    (session.payload message).1 = session.registry.decode message.typeUrl message.value := by
  unfold Session.payload
  split
  · rename_i result hresult
    exact h message hmessage result hresult
  · rfl

/-- Asking for a payload keeps a session coherent: what it adds is found for no other message. -/
theorem payload (h : session.Coherent) (hmessage : message ∈ session.pair.messages) :
    (session.payload message).2.Coherent := by
  intro other hother result hresult
  rw [payload_pair] at hother
  rw [payload_registry]
  unfold Session.payload at hresult
  split at hresult
  · exact h other hother result hresult
  · by_cases hplace : place other = place message
    · obtain rfl := message_eq_of_place hother hmessage hplace
      rw [List.lookup_cons_self] at hresult
      exact (Option.some.inj hresult).symm
    · rw [List.lookup_cons, beq_eq_false_iff_ne.mpr hplace] at hresult
      exact h other hother result hresult

theorem acceptsMessage (h : session.Coherent) (hmessage : message ∈ session.pair.messages) :
    (session.acceptsMessage filter message).2.Coherent := by
  rcases acceptsMessage_snd with heq | heq
  · rw [heq]
    exact h
  · rw [heq]
    exact h.payload hmessage

theorem acceptsEvent {filter : Option EventFilter} (h : session.Coherent)
    (hevent : event ∈ session.pair.events) : (session.acceptsEvent filter event).2.Coherent := by
  rcases acceptsEvent_snd with heq | ⟨messageFilter, origin, horigin, heq⟩
  · rw [heq]
    exact h
  · rw [heq]
    exact h.acceptsMessage (BlockPair.message_mem_of_mem_events hevent horigin)

/-- A message filter accepts a message if it admits it, and accepts what the registry decodes if it
needs a payload. -/
theorem acceptsMessage_iff {filter : MessageFilter} (h : session.Coherent)
    (hmessage : message ∈ session.pair.messages) :
    (session.acceptsMessage (some filter) message).1 = true ↔
      filter.admits message = true ∧ (filter.needsPayload = true → ∃ payload,
        session.registry.decode message.typeUrl message.value = .ok payload ∧
          filter.acceptsPayload payload = true) := by
  rw [← h.payload_eq hmessage]
  simp only [Session.acceptsMessage]
  by_cases hadmits : filter.admits message = true
  · by_cases hneeds : filter.needsPayload = true
    · rw [if_neg (by simp [hadmits]), if_neg (by simp [hneeds])]
      rcases session.payload message with ⟨_ | payload, _⟩
      · refine iff_of_false Bool.false_ne_true fun ⟨_, haccepts⟩ => ?_
        obtain ⟨_, heq, -⟩ := haccepts hneeds
        exact nomatch heq
      · constructor
        · exact fun haccepts => ⟨hadmits, fun _ => ⟨payload, rfl, haccepts⟩⟩
        · rintro ⟨-, haccepts⟩
          obtain ⟨_, heq, haccepts⟩ := haccepts hneeds
          cases heq
          exact haccepts
    · rw [if_neg (by simp [hadmits]), if_pos (by simp [hneeds])]
      exact iff_of_true rfl ⟨hadmits, fun h => absurd h hneeds⟩
  · rw [if_pos (by simp [hadmits])]
    exact iff_of_false Bool.false_ne_true fun h => hadmits h.1

end Coherent

end Session

end ChainFeed
