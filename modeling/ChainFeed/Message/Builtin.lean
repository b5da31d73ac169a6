import ChainFeed.Message.Layout
import ChainFeed.Message.TypeUrl

/-!
# Built-in messages

The message types that are known without a schema: bank, staking, distribution, governance, token
transfer between chains, and contracts. Of each only the fields that matter to an index are
declared.
-/

namespace ChainFeed.Layout

/-- A field that stands once. -/
def single (number : Nat) (name : String) (type : FieldType) : LayoutField :=
  (number, name, .single, type)

/-- A field that may stand many times. -/
def repeated (number : Nat) (name : String) (type : FieldType) : LayoutField :=
  (number, name, .repeated, type)

/-- An amount of one denomination. -/
def coin : Layout :=
  .mk "Coin" [single 1 "denom" .text, single 2 "amount" .text]

/-- Moves coins. -/
def send : Layout :=
  .mk "MsgSend" [single 1 "from_address" .text, single 2 "to_address" .text,
    repeated 3 "amount" (.message coin)]

/-- One side of a move among many. -/
def bankSide : Layout :=
  .mk "BankIo" [single 1 "address" .text, repeated 2 "coins" (.message coin)]

/-- Moves coins among many. -/
def multiSend : Layout :=
  .mk "MsgMultiSend" [repeated 1 "inputs" (.message bankSide),
    repeated 2 "outputs" (.message bankSide)]

/-- Gives coins to a validator, or takes them back. -/
def delegate : Layout :=
  .mk "MsgDelegate" [single 1 "delegator_address" .text, single 2 "validator_address" .text,
    single 3 "amount" (.message coin)]

/-- Gives coins from one validator to another. -/
def beginRedelegate : Layout :=
  .mk "MsgBeginRedelegate" [single 1 "delegator_address" .text,
    single 2 "validator_src_address" .text, single 3 "validator_dst_address" .text,
    single 4 "amount" (.message coin)]

/-- Takes the rewards of a delegation. -/
def withdrawDelegatorReward : Layout :=
  .mk "MsgWithdrawDelegatorReward" [single 1 "delegator_address" .text,
    single 2 "validator_address" .text]

/-- Votes on a proposal. -/
def vote : Layout :=
  .mk "MsgVote" [single 1 "proposal_id" .uint64, single 2 "voter" .text,
    single 3 "option" .int32]

/-- A height on another chain. -/
def remoteHeight : Layout :=
  .mk "IbcHeight" [single 1 "revision_number" .uint64, single 2 "revision_height" .uint64]

/-- Moves a coin to another chain. -/
def transfer : Layout :=
  .mk "MsgTransfer" [single 1 "source_port" .text, single 2 "source_channel" .text,
    single 3 "token" (.message coin), single 4 "sender" .text, single 5 "receiver" .text,
    single 6 "timeout_height" (.message remoteHeight), single 7 "timeout_timestamp" .uint64,
    single 8 "memo" .text]

/-- Calls a contract. -/
def executeContract : Layout :=
  .mk "MsgExecuteContract" [single 1 "sender" .text, single 2 "contract" .text,
    single 3 "msg" .bytes, repeated 5 "funds" (.message coin)]

/-- Creates a contract. -/
def instantiateContract : Layout :=
  .mk "MsgInstantiateContract" [single 1 "sender" .text, single 2 "admin" .text,
    single 3 "code_id" .uint64, single 4 "label" .text, single 5 "msg" .bytes,
    repeated 6 "funds" (.message coin)]

/-- Moves a contract to new code. -/
def migrateContract : Layout :=
  .mk "MsgMigrateContract" [single 1 "sender" .text, single 2 "contract" .text,
    single 3 "code_id" .uint64, single 4 "msg" .bytes]

/-- The built-in types by type url. -/
def builtin : List (String × Layout) :=
  [("/cosmos.bank.v1beta1.MsgSend", send),
    ("/cosmos.bank.v1beta1.MsgMultiSend", multiSend),
    ("/cosmos.staking.v1beta1.MsgDelegate", delegate),
    ("/cosmos.staking.v1beta1.MsgUndelegate", delegate),
    ("/cosmos.staking.v1beta1.MsgBeginRedelegate", beginRedelegate),
    ("/cosmos.distribution.v1beta1.MsgWithdrawDelegatorReward", withdrawDelegatorReward),
    ("/cosmos.gov.v1beta1.MsgVote", vote),
    ("/ibc.applications.transfer.v1.MsgTransfer", transfer),
    (TypeUrl.executeContract, executeContract),
    (TypeUrl.instantiateContract, instantiateContract),
    (TypeUrl.migrateContract, migrateContract)]

end ChainFeed.Layout
