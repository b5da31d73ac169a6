import ChainFeed.Proofs.Block.Coherence
import ChainFeed.Proofs.Block.Objects
import Mathlib.Data.List.Nodup

/-!
# The progress of a lazy block

What a lazy block holds is determined by how far it has been used: which of its parts have been
built, which envelopes have been decoded, and which payloads have been needed. Building a part moves
on to another such progress, at which no more payloads have been needed. What the part is depends
on the block only.

## Main definitions

- `LazyBlock.Progress`: how far a block has been used
- `LazyBlock.Progress.state`: what it holds then
- `LazyBlock.Builds`: a computation that builds objects of messages

## Main results

- `LazyBlock.run_block`, `LazyBlock.run_transactions`, `LazyBlock.builds_messages`,
  `LazyBlock.builds_eventList`: what the parts are
-/

namespace ChainFeed

variable {pair : BlockPair} {registry : Registry} {message : Message}

/-! ### Cells -/

open Classical in
/-- The cell of a transaction, which may have been decoded. -/
noncomputable def Transaction.envelope (tx : Transaction) (opened : Prop) :
    Option (Except DecodeError Tx) :=
  if opened then some tx.decode else none

namespace BlockPair

/-- The cells of transactions, of which `opened` have been decoded. -/
noncomputable def envelopes (pair : BlockPair) (opened : Transaction → Prop) :
    List (Option (Except DecodeError Tx)) :=
  pair.transactions.map fun tx => tx.envelope (opened tx)

open Classical in
/-- The cell of a message, whose payload may have been needed. -/
noncomputable def session (pair : BlockPair) (registry : Registry) (message : Message)
    (needed : Prop) : Session :=
  if needed then ((Session.ofPair pair registry).payload message).2 else .ofPair pair registry

/-- The cells of messages, of which `needed` have been decoded. -/
noncomputable def sessions (pair : BlockPair) (registry : Registry) (needed : Message → Prop) :
    List Session :=
  pair.messages.map fun message => pair.session registry message (needed message)

variable {needed : Prop} {opened : Transaction → Prop}

theorem payload_ofPair :
    (Session.ofPair pair registry).payload message =
      (registry.decode message.typeUrl message.value, pair.session registry message True) := by
  rw [session, if_pos trivial]
  rfl

theorem session_false : pair.session registry message False = .ofPair pair registry :=
  if_neg not_false

/-- The payload of a message is decoded when its cell is empty, and found in it otherwise. -/
theorem payload_session :
    (pair.session registry message needed).payload message =
      (registry.decode message.typeUrl message.value, pair.session registry message True) := by
  by_cases h : needed
  · have hlookup : (pair.session registry message True).decoded.lookup (Session.place message) =
        some (registry.decode message.typeUrl message.value) := by
      rw [session, if_pos trivial]
      exact List.lookup_cons_self
    rw [eq_true h, Session.payload, hlookup]
  · rw [eq_false h, session_false, payload_ofPair]

/-- Changing a list of images at one place changes the image of one element, if all elements are
different. -/
theorem set_map_eq_map {α β : Type} {f g : α → β} {xs : List α} {x : α} {i : Nat}
    (hnodup : xs.Nodup) (hx : xs[i]? = some x) (hother : ∀ y ∈ xs, y ≠ x → g y = f y) :
    (xs.map f).set i (g x) = xs.map g := by
  refine List.ext_getElem? fun j => ?_
  obtain ⟨hi, rfl⟩ := List.getElem?_eq_some_iff.mp hx
  by_cases hij : i = j
  · rw [← hij, List.getElem?_set_self (by rwa [List.length_map]), List.getElem?_map, hx]
    rfl
  · rw [List.getElem?_set_ne hij, List.getElem?_map, List.getElem?_map]
    refine Option.map_congr fun y hy => ?_
    obtain ⟨hj, rfl⟩ := List.getElem?_eq_some_iff.mp hy
    exact (hother _ (List.getElem_mem hj) fun heq => hij (hnodup.getElem_inj_iff.mp heq).symm).symm

/-- Messages of a block stand at different places. -/
theorem nodup_place_messages (pair : BlockPair) : (pair.messages.map Session.place).Nodup :=
  pair.nodup_messages.map_on fun _ hmessage _ hother heq =>
    Session.message_eq_of_place hmessage hother heq

theorem envelopes_congr {opened opened' : Transaction → Prop}
    (h : ∀ tx ∈ pair.transactions, opened tx ↔ opened' tx) :
    pair.envelopes opened = pair.envelopes opened' :=
  List.map_congr_left fun tx htx => by rw [propext (h tx htx)]

/-- Decoding an envelope fills the cell of its transaction. -/
theorem set_envelopes {ref : TxRef} (h : ref ∈ pair.txRefs) :
    (pair.envelopes opened).set ref.cell (some ref.tx.decode) =
      pair.envelopes fun tx => opened tx ∨ tx = ref.tx := by
  have hset := set_map_eq_map (f := fun tx => tx.envelope (opened tx))
    (g := fun tx => tx.envelope (opened tx ∨ tx = ref.tx)) pair.nodup_transactions
    (getElem?_transactions_cell h) (fun tx _ hne => by rw [or_iff_left hne])
  rw [Transaction.envelope, if_pos (.inr rfl)] at hset
  exact hset

/-- Needing a payload fills the cell of its message. -/
theorem set_sessions {demanded : Message → Prop} {ref : MessageRef} (h : ref ∈ pair.messageRefs) :
    (pair.sessions registry demanded).set ref.cell
        (pair.session registry ref.message (demanded ref.message ∨ needed)) =
      pair.sessions registry fun message => demanded message ∨ message = ref.message ∧ needed := by
  have hset := set_map_eq_map (f := fun message => pair.session registry message (demanded message))
    (g := fun message => pair.session registry message
      (demanded message ∨ message = ref.message ∧ needed))
    pair.nodup_messages (getElem?_messages_cell h)
    (fun message _ hne => by simp only [hne, false_and, or_false])
  simp only [true_and] at hset
  exact hset

end BlockPair

/-! ### Running -/

namespace LazyBlock

section Slots

variable {α β : Type} {slot? : LazyBlock → Option α} {fill : α → LazyBlock → LazyBlock}
  {build : StateM LazyBlock α} {value : α} {block block' : LazyBlock}

theorem run_bind {x : StateM LazyBlock α} (f : α → StateM LazyBlock β)
    (h : x.run block = (value, block')) : (x >>= f).run block = (f value).run block' := by
  rw [StateT.run_bind, h]
  rfl

theorem run_get_bind (f : LazyBlock → StateM LazyBlock β) :
    (get >>= f).run block = (f block).run block :=
  rfl

theorem run_getOrBuild_of_some (h : slot? block = some value) :
    (getOrBuild slot? fill build).run block = (value, block) := by
  rw [getOrBuild, run_get_bind, h]
  rfl

theorem run_getOrBuild_of_none (h : slot? block = none)
    (hbuild : build.run block = (value, block')) :
    (getOrBuild slot? fill build).run block = (value, fill value block') := by
  rw [getOrBuild, run_get_bind, h]
  exact run_bind _ hbuild

end Slots

/-- A block with other cells. -/
def withCells (block : LazyBlock) (envelopes : List (Option (Except DecodeError Tx)))
    (sessions : List Session) : LazyBlock :=
  { block with envelopes, sessions }

variable {block : LazyBlock} {decoded : Transaction → Prop}

/-- New transactions have the cells behind the others. -/
theorem run_mapM_newTx (txs : List Transaction) (block : LazyBlock) :
    (txs.mapM newTx).run block =
      ((txs.zipIdx block.envelopes.length).map fun (tx, i) => ⟨tx, i⟩,
        block.withCells (block.envelopes ++ txs.map fun _ => none) block.sessions) := by
  induction txs generalizing block with
  | nil =>
    rw [List.map_nil, List.append_nil]
    rfl
  | cons tx txs ih =>
    have hfirst : (newTx tx).run block =
        (⟨tx, block.envelopes.length⟩,
          block.withCells (block.envelopes ++ [none]) block.sessions) :=
      rfl
    rw [List.mapM_cons, run_bind _ hfirst, run_bind _ (ih _)]
    simp only [withCells, List.length_append, List.append_assoc]
    rfl

/-- So have new messages. -/
theorem run_mapM_newMessage (txCell : Nat) (messages : List Message) (block : LazyBlock) :
    (messages.mapM (newMessage txCell)).run block =
      (MessageRef.number txCell block.sessions.length messages,
        block.withCells block.envelopes
          (block.sessions ++ messages.map fun _ => .ofPair block.pair block.registry)) := by
  induction messages generalizing block with
  | nil =>
    rw [List.map_nil, List.append_nil]
    rfl
  | cons message messages ih =>
    have hfirst : (newMessage txCell message).run block =
        (⟨message, txCell, block.sessions.length⟩,
          block.withCells block.envelopes
            (block.sessions ++ [.ofPair block.pair block.registry])) :=
      rfl
    rw [List.mapM_cons, run_bind _ hfirst, run_bind _ (ih _)]
    simp only [withCells, List.length_append, List.append_assoc]
    rfl

/-- An envelope is what the transaction is decoded to. -/
theorem run_decodedTx {ref : TxRef} (href : ref ∈ block.pair.txRefs)
    (h : block.envelopes = block.pair.envelopes decoded) :
    (decodedTx ref).run block =
      (ref.tx.decode,
        block.withCells (block.pair.envelopes fun tx => decoded tx ∨ tx = ref.tx)
          block.sessions) := by
  have hcell : block.envelopes[ref.cell]?.join = ref.tx.envelope (decoded ref.tx) := by
    rw [h, BlockPair.envelopes, List.getElem?_map, BlockPair.getElem?_transactions_cell href]
    rfl
  -- a filled cell is read and left alone, an empty one is filled
  by_cases hdecoded : decoded ref.tx
  · rw [Transaction.envelope, if_pos hdecoded] at hcell
    have hsame : (fun tx => decoded tx ∨ tx = ref.tx) = decoded :=
      funext fun tx => propext (or_iff_left_of_imp fun heq => heq ▸ hdecoded)
    rw [hsame, ← h]
    exact run_getOrBuild_of_some hcell
  · rw [Transaction.envelope, if_neg hdecoded] at hcell
    rw [← BlockPair.set_envelopes href, ← h]
    exact run_getOrBuild_of_none hcell rfl

/-- The messages of a transaction are those of its envelope. -/
theorem run_wrapMessages {ref : TxRef} (href : ref ∈ block.pair.txRefs)
    (h : block.envelopes = block.pair.envelopes decoded) :
    (wrapMessages ref).run block =
      (MessageRef.number ref.cell block.sessions.length ref.tx.messages,
        block.withCells (block.pair.envelopes fun tx => decoded tx ∨ tx = ref.tx)
          (block.sessions ++
            ref.tx.messages.map fun _ => .ofPair block.pair block.registry)) := by
  rw [wrapMessages, run_bind _ (run_decodedTx href h)]
  exact run_mapM_newMessage _ _ _

/-- The objects of messages are built for one transaction after the other. -/
theorem run_mapM_wrapMessages {refs : List TxRef} (hrefs : ∀ ref ∈ refs, ref ∈ block.pair.txRefs)
    (h : block.envelopes = block.pair.envelopes decoded) :
    (refs.mapM wrapMessages).run block =
      (TxRef.messageGroups block.sessions.length refs,
        block.withCells (block.pair.envelopes fun tx => decoded tx ∨ tx ∈ refs.map TxRef.tx)
          (block.sessions ++ (refs.flatMap fun ref => ref.tx.messages).map fun _ =>
            .ofPair block.pair block.registry)) := by
  induction refs generalizing block decoded with
  | nil =>
    simp only [List.map_nil, List.not_mem_nil, or_false, List.flatMap_nil, List.append_nil, ← h]
    rfl
  | cons ref refs ih =>
    have hrest : ∀ other ∈ refs, other ∈ block.pair.txRefs := fun other hother =>
      hrefs other (List.mem_cons_of_mem _ hother)
    rw [List.mapM_cons, run_bind _ (run_wrapMessages (hrefs ref List.mem_cons_self) h),
      run_bind _ (ih (by exact hrest) rfl)]
    simp only [withCells, List.length_append, List.append_assoc, List.length_map, List.map_cons,
      List.mem_cons, or_assoc, List.flatMap_cons, List.map_append]
    rfl

/-! ### Progress -/

/-- How far a block has been used. -/
inductive Progress where
  /-- There are no objects yet; what is known without looking into the block may be there. -/
  | blank (known : Bool)
  /-- There are objects of transactions, some of which have been decoded. -/
  | opened (decoded : Transaction → Prop)
  /-- There are objects of messages, too, and lists of messages or of events may have been made of
  them. The payloads of some have been needed. -/
  | built (needed : Message → Prop) (listed streamed : Bool)

namespace Progress

/-- What a block holds when it has been used so far. -/
noncomputable def state (pair : BlockPair) (registry : Registry) : Progress → LazyBlock
  | blank known => { new pair registry with info? := if known then some pair.info else none }
  | opened decoded =>
    { new pair registry with
      info? := some pair.info
      transactions? := some pair.txRefs
      envelopes := pair.envelopes decoded }
  | built needed listed streamed =>
    { new pair registry with
      info? := some pair.info
      transactions? := some pair.txRefs
      txMessages? := some pair.messageGroups
      messages? := if listed then some pair.messageRefs else none
      events? := if streamed then some pair.eventList else none
      envelopes := pair.envelopes fun _ => True
      sessions := pair.sessions registry needed }

/-- The messages whose payloads have been needed. -/
def needed : Progress → Message → Prop
  | blank _ | opened _ => fun _ => False
  | built needed _ _ => needed

end Progress

theorem run_block_blank (known : Bool) :
    LazyBlock.block.run ((Progress.blank known).state pair registry) =
      (pair.info, (Progress.blank true).state pair registry) := by
  cases known with
  | false => exact run_getOrBuild_of_none rfl rfl
  | true => exact run_getOrBuild_of_some rfl

/-- The cells of new transactions are empty. -/
theorem envelopes_false : (pair.envelopes fun _ => False) = pair.transactions.map fun _ => none :=
  List.map_congr_left fun _ _ => if_neg not_false

theorem run_transactions_blank (known : Bool) :
    transactions.run ((Progress.blank known).state pair registry) =
      (pair.txRefs, (Progress.opened fun _ => False).state pair registry) := by
  have hbuild : newTransactions.run ((Progress.blank known).state pair registry) =
      (pair.txRefs,
        ((Progress.blank true).state pair registry).withCells (pair.envelopes fun _ => False)
          []) := by
    rw [newTransactions, run_bind _ (run_block_blank known), run_get_bind, run_mapM_newTx,
      envelopes_false]
    rfl
  exact run_getOrBuild_of_none rfl hbuild

/-- The cells of new messages are empty. -/
theorem sessions_false :
    (pair.sessions registry fun _ => False) =
      pair.messages.map fun _ => .ofPair pair registry :=
  List.map_congr_left fun _ _ => BlockPair.session_false

/-- The objects of messages are built from those of transactions. -/
theorem run_mapM_wrapMessages_txRefs (decoded : Transaction → Prop) :
    (pair.txRefs.mapM wrapMessages).run ((Progress.opened decoded).state pair registry) =
      (pair.messageGroups,
        ((Progress.opened fun _ => True).state pair registry).withCells
          (pair.envelopes fun _ => True) (pair.sessions registry fun _ => False)) := by
  have hopened : (pair.envelopes fun tx => decoded tx ∨ tx ∈ pair.txRefs.map TxRef.tx) =
      pair.envelopes fun _ => True :=
    BlockPair.envelopes_congr fun tx htx =>
      iff_true_intro (.inr (pair.map_tx_txRefs.symm ▸ htx))
  rw [sessions_false, ← BlockPair.flatMap_messages_txRefs, ← hopened]
  exact run_mapM_wrapMessages (fun _ href => href) rfl

theorem run_txMessages_opened (decoded : Transaction → Prop) :
    txMessages.run ((Progress.opened decoded).state pair registry) =
      (pair.messageGroups,
        (Progress.built (fun _ => False) false false).state pair registry) := by
  have htxs : transactions.run ((Progress.opened decoded).state pair registry) =
      (pair.txRefs, (Progress.opened decoded).state pair registry) :=
    run_getOrBuild_of_some rfl
  exact run_getOrBuild_of_none rfl
    ((run_bind _ htxs).trans (run_mapM_wrapMessages_txRefs decoded))

theorem run_txMessages_blank (known : Bool) :
    txMessages.run ((Progress.blank known).state pair registry) =
      (pair.messageGroups,
        (Progress.built (fun _ => False) false false).state pair registry) :=
  run_getOrBuild_of_none rfl
    ((run_bind _ (run_transactions_blank known)).trans (run_mapM_wrapMessages_txRefs _))

/-- What is known of a block is known at every progress. -/
theorem run_block (pair : BlockPair) (registry : Registry) (p : Progress) :
    ∃ p' : Progress, LazyBlock.block.run (p.state pair registry) =
      (pair.info, p'.state pair registry) ∧ p'.needed = p.needed := by
  cases p with
  | blank known => exact ⟨.blank true, run_block_blank known, rfl⟩
  | opened decoded => exact ⟨.opened decoded, run_getOrBuild_of_some rfl, rfl⟩
  | built needed listed streamed =>
    exact ⟨.built needed listed streamed, run_getOrBuild_of_some rfl, rfl⟩

/-- Whether there are objects of transactions. -/
def Progress.HasTxs : Progress → Prop
  | blank _ => False
  | opened _ | built .. => True

/-- The transactions are the same objects at every progress. -/
theorem run_transactions (pair : BlockPair) (registry : Registry) (p : Progress) :
    ∃ p' : Progress, transactions.run (p.state pair registry) =
      (pair.txRefs, p'.state pair registry) ∧ p'.HasTxs ∧ p'.needed = p.needed := by
  cases p with
  | blank known => exact ⟨.opened fun _ => False, run_transactions_blank known, trivial, rfl⟩
  | opened decoded => exact ⟨.opened decoded, run_getOrBuild_of_some rfl, trivial, rfl⟩
  | built needed listed streamed =>
    exact ⟨.built needed listed streamed, run_getOrBuild_of_some rfl, trivial, rfl⟩

/-- Envelopes of objects are decoded, or have been. -/
theorem run_decodedTx_of_hasTxs (registry : Registry) {p : Progress} (h : p.HasTxs) {ref : TxRef}
    (href : ref ∈ pair.txRefs) :
    ∃ p' : Progress, (decodedTx ref).run (p.state pair registry) =
      (ref.tx.decode, p'.state pair registry) ∧ p'.needed = p.needed := by
  cases p with
  | blank known => exact h.elim
  | opened decoded => exact ⟨.opened _, run_decodedTx href rfl, rfl⟩
  | built needed listed streamed =>
    refine ⟨.built needed listed streamed, (run_decodedTx href rfl).trans ?_, rfl⟩
    simp only [true_or]
    rfl

/-! ### Messages and events -/

section Builds

variable {α β : Type} {x : StateM LazyBlock α} {a : α}

/-- From every progress on, the answer is `a`. Afterwards there are objects of messages, and no
payload has been needed that was not needed before. -/
def Builds (pair : BlockPair) (registry : Registry) (x : StateM LazyBlock α) (a : α) : Prop :=
  ∀ p : Progress, ∃ listed streamed, x.run (p.state pair registry) =
    (a, (Progress.built p.needed listed streamed).state pair registry)

theorem Builds.map (h : Builds pair registry x a) (f : α → β) :
    Builds pair registry (do return f (← x)) (f a) := by
  intro p
  obtain ⟨listed, streamed, hrun⟩ := h p
  exact ⟨listed, streamed, run_bind _ hrun⟩

end Builds

theorem builds_txMessages (pair : BlockPair) (registry : Registry) :
    Builds pair registry txMessages pair.messageGroups := by
  intro p
  cases p with
  | blank known => exact ⟨false, false, run_txMessages_blank known⟩
  | opened decoded => exact ⟨false, false, run_txMessages_opened decoded⟩
  | built needed listed streamed => exact ⟨listed, streamed, run_getOrBuild_of_some rfl⟩

/-- The messages are the same objects at every progress. -/
theorem builds_messages (pair : BlockPair) (registry : Registry) :
    Builds pair registry messages pair.messageRefs := by
  intro p
  by_cases hslot : (p.state pair registry).messages? = none
  · obtain ⟨listed, streamed, hbuild⟩ := (builds_txMessages pair registry).map List.flatten p
    exact ⟨true, streamed, run_getOrBuild_of_none hslot hbuild⟩
  -- a list that is there has been made of the objects that are there
  · cases p with
    | blank known => exact absurd rfl hslot
    | opened decoded => exact absurd rfl hslot
    | built needed listed streamed =>
      cases listed with
      | false => exact absurd rfl hslot
      | true => exact ⟨true, streamed, run_getOrBuild_of_some rfl⟩

/-- So are the messages that the events refer to. -/
theorem builds_eventList (pair : BlockPair) (registry : Registry) :
    Builds pair registry eventList pair.eventList := by
  intro p
  by_cases hslot : (p.state pair registry).events? = none
  -- the three parts that the list is made of need no payloads
  · obtain ⟨p₁, hinfo, hneeded₁⟩ := run_block pair registry p
    obtain ⟨p₂, htxs, -, hneeded₂⟩ := run_transactions pair registry p₁
    obtain ⟨listed, streamed, hgroups⟩ := builds_txMessages pair registry p₂
    rw [hneeded₂, hneeded₁] at hgroups
    have hbuild : newEvents.run (p.state pair registry) =
        (pair.eventList, (Progress.built p.needed listed streamed).state pair registry) := by
      rw [newEvents, run_bind _ hinfo, run_bind _ htxs, run_bind _ hgroups]
      rfl
    exact ⟨listed, true, run_getOrBuild_of_none hslot hbuild⟩
  · cases p with
    | blank known => exact absurd rfl hslot
    | opened decoded => exact absurd rfl hslot
    | built needed listed streamed =>
      cases streamed with
      | false => exact absurd rfl hslot
      | true => exact ⟨listed, true, run_getOrBuild_of_some rfl⟩

end LazyBlock

end ChainFeed
