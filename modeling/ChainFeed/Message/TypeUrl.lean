/-!
# Type urls

Names of message types that have a meaning to the library itself.
-/

namespace ChainFeed.TypeUrl

/-- Calls a contract. -/
def executeContract : String :=
  "/cosmwasm.wasm.v1.MsgExecuteContract"

/-- Creates a contract. -/
def instantiateContract : String :=
  "/cosmwasm.wasm.v1.MsgInstantiateContract"

/-- Moves a contract to new code. -/
def migrateContract : String :=
  "/cosmwasm.wasm.v1.MsgMigrateContract"

/-- The types whose payload holds the JSON message for a contract. -/
def isContract (typeUrl : String) : Bool :=
  typeUrl = executeContract || typeUrl = instantiateContract || typeUrl = migrateContract

end ChainFeed.TypeUrl
