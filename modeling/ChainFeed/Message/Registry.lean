import ChainFeed.Message.Builtin
import ChainFeed.Message.Contract
import ChainFeed.Message.Dynamic
import ChainFeed.Text.Quoted

/-!
# The registry of decoders

Each type url has at most one decoder, the one that was registered last. Decoders are built in, come
from a schema, or are functions of the user.

## Main definitions

- `ChainFeed.Decoder`, `ChainFeed.Decoder.run`: the decoders
- `ChainFeed.Registry`: decoders by type url
- `ChainFeed.Registry.loadSchemas`: registers the messages of schema files
- `ChainFeed.Registry.decode`: the payload of a message
-/

namespace ChainFeed

/-- Turns the bytes of a message into its payload. -/
inductive Decoder where
  | builtin (layout : Layout)
  | dynamic (schema : Schema) (name : String)
  | custom (run : List UInt8 → Except String Json)

namespace Decoder

/-- Decodes bytes, or says in words why not. -/
def run : Decoder → List UInt8 → Except String Json
  | .builtin layout, bytes =>
    match layout.decode bytes with
    | .ok values => .ok (layout.toJson values)
    | .error e => .error e.message
  | .dynamic schema name, bytes => (schema.decode name bytes).mapError DynamicFault.message
  | .custom run, bytes => run bytes

/-- Whether the decoder is a function of the user. -/
def isCustom : Decoder → Bool
  | .custom _ => true
  | _ => false

end Decoder

/-- Decoders by type url. -/
structure Registry where
  decoders : Members Decoder

namespace Registry

/-- No decoders. -/
def empty : Registry :=
  ⟨[]⟩

/-- The decoder of a type url. -/
def find? (registry : Registry) (typeUrl : String) : Option Decoder :=
  registry.decoders.get? typeUrl

/-- Registers a decoder, in place of an earlier one. -/
def register (registry : Registry) (typeUrl : String) (decoder : Decoder) : Registry :=
  ⟨registry.decoders.insert typeUrl decoder⟩

/-- Registers decoders in order. -/
def registerAll (registry : Registry) (decoders : List (String × Decoder)) : Registry :=
  decoders.foldl (fun registry entry => registry.register entry.1 entry.2) registry

/-- The built-in messages. -/
def withDefaults : Registry :=
  empty.registerAll (Layout.builtin.map fun (typeUrl, layout) => (typeUrl, .builtin layout))

/-- Whether a type url has a decoder. -/
def contains (registry : Registry) (typeUrl : String) : Bool :=
  registry.decoders.contains typeUrl

/-- The type urls that have a decoder, sorted. -/
def typeUrls (registry : Registry) : List String :=
  registry.decoders.map (·.1)

/-- Whether a type url has a decoder of the user. -/
def isCustom (registry : Registry) (typeUrl : String) : Bool :=
  (registry.find? typeUrl).any Decoder.isCustom

/-- The registry as a text for people. -/
def debugText (registry : Registry) : String :=
  String.join ["TypeRegistry \x7b type_urls: [",
    ", ".intercalate (registry.typeUrls.map Quoted.quote), "] \x7d"]

/-- The decoders of a schema's messages by type url, in the order of their declaration. -/
def schemaDecoders (schema : Schema) : List (String × Decoder) :=
  schema.names.map fun name => ("/" ++ name, .dynamic schema name)

/-- Registers the messages of schema files, one file after the other, up to the first file that
cannot be used. Gives the registry, and the type urls that were registered or the error. -/
def loadSchemas (registry : Registry) (read : String → Except FileError String) :
    List String → Registry × Except SchemaError (List String)
  | [] => (registry, .ok [])
  | path :: paths =>
    match SchemaFile.load path (read path) with
    | .error e => (registry, .error e)
    | .ok schema =>
      let decoders := schemaDecoders schema
      let (registry, result) := loadSchemas (registry.registerAll decoders) read paths
      (registry, result.map fun typeUrls => decoders.map (·.1) ++ typeUrls)

/-- Decodes a message by the decoder of its type url. Contract messages have their inner JSON
read. -/
def decode (registry : Registry) (typeUrl : String) (bytes : List UInt8) :
    Except DecodeError Json :=
  match registry.find? typeUrl with
  | none => .error (.unknownType typeUrl)
  | some decoder =>
    match decoder.run bytes with
    | .error cause => .error (.malformedPayload typeUrl cause)
    | .ok payload =>
      if TypeUrl.isContract typeUrl then
        (Contract.readInner payload).mapError (.malformedPayload typeUrl)
      else .ok payload

end Registry

end ChainFeed
