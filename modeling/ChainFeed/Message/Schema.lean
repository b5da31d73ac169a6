import ChainFeed.Json.Reader
import ChainFeed.Wire.Basic

/-!
# Schema files

A schema file declares the messages of one package. A field of message type names its type either
fully or relative to the package; both are looked up among the messages of the same file, the full
name first. A file is used only if every such name leads to a declared message.

## Main definitions

- `ChainFeed.SchemaFile`: a file as written
- `ChainFeed.Schema`: a file with all names resolved
- `ChainFeed.SchemaFile.resolve`: from one to the other
- `ChainFeed.SchemaFile.load`: reading and resolving
-/

namespace ChainFeed

/-- The kinds of fields. -/
inductive FieldKind where
  | string
  | bytes
  | bool
  | int32
  | int64
  | uint32
  | uint64
  | sint32
  | sint64
  | fixed32
  | fixed64
  | sfixed32
  | sfixed64
  | double
  | float
  | enum
  | message
  deriving DecidableEq, Repr

namespace FieldKind

/-- The kinds by name. -/
def names : List (String × FieldKind) :=
  [("string", .string), ("bytes", .bytes), ("bool", .bool), ("int32", .int32), ("int64", .int64),
    ("uint32", .uint32), ("uint64", .uint64), ("sint32", .sint32), ("sint64", .sint64),
    ("fixed32", .fixed32), ("fixed64", .fixed64), ("sfixed32", .sfixed32),
    ("sfixed64", .sfixed64), ("double", .double), ("float", .float), ("enum", .enum),
    ("message", .message)]

/-- The kind of a name. -/
def ofName? (name : String) : Option FieldKind :=
  names.lookup name

/-- The shape of the payload of one value. -/
def wireType : FieldKind → WireType
  | .string | .bytes | .message => .lengthDelimited
  | .fixed32 | .sfixed32 | .float => .thirtyTwoBit
  | .fixed64 | .sfixed64 | .double => .sixtyFourBit
  | _ => .varint

/-- The value of a field that does not occur. -/
def absentValue : FieldKind → Json
  | .string => .string ""
  | .bytes => .array []
  | .bool => .bool false
  | .message => .null
  | .double | .float => .number (.float (.zero false))
  | _ => .int 0

end FieldKind

/-- A field as declared. -/
structure FieldDeclaration where
  name : String
  number : UInt32
  kind : FieldKind
  repeated : Bool
  /-- The message type, of a field of kind message. -/
  typeName : Option String
  deriving DecidableEq, Repr

/-- A message as declared. -/
structure MessageDeclaration where
  name : String
  fields : List FieldDeclaration
  deriving DecidableEq, Repr

/-- A schema file as written. -/
structure SchemaFile where
  /-- The package, or nothing. -/
  package : String
  messages : List MessageDeclaration
  deriving DecidableEq, Repr

/-- A field with its message type resolved. -/
structure SchemaField where
  name : String
  number : UInt32
  kind : FieldKind
  repeated : Bool
  /-- The full name of the message type, of a field of kind message. -/
  message : Option String
  deriving DecidableEq, Repr

/-- The messages of a file by full name, in the order of their declaration. -/
structure Schema where
  messages : List (String × List SchemaField)
  deriving DecidableEq, Repr

/-- Why a file cannot be read. -/
inductive FileError where
  | notFound
  | isDirectory
  | notDirectory
  | nameTooLong
  /-- The path holds a zero byte, with which paths end. -/
  | zeroByte
  /-- A reader of files that has words of its own. -/
  | other (text : String)
  deriving DecidableEq, Repr

/-- The text of a file error. -/
def FileError.message : FileError → String
  | .notFound => "No such file or directory (os error 2)"
  | .isDirectory => "Is a directory (os error 21)"
  | .notDirectory => "Not a directory (os error 20)"
  | .nameTooLong => "File name too long (os error 36)"
  | .zeroByte => "file name contained an unexpected NUL byte"
  | .other text => text

/-- Why a schema file cannot be used. -/
inductive SchemaError where
  | unreadable (path : String) (error : FileError)
  | malformed (path : String) (fault : ReadFault)
  | missingTypeName (path message field : String)
  | unresolvedType (path message field typeName : String)
  deriving DecidableEq, Repr

/-- The text of a schema error. -/
def SchemaError.message : SchemaError → String
  | .unreadable path error => "unable to read schema " ++ path ++ ": " ++ error.message
  | .malformed path fault => "unable to parse schema " ++ path ++ ": " ++ fault.message
  | .missingTypeName path message field =>
    "field " ++ message ++ "." ++ field ++ " in " ++ path ++ " is a message but has no type_name"
  | .unresolvedType path message field typeName =>
    "field " ++ message ++ "." ++ field ++ " in " ++ path ++ " refers to unknown type " ++ typeName

namespace SchemaFile

/-- Reads a field. -/
def fieldReader : Reader FieldDeclaration :=
  .record (FieldDeclaration.mk <$> .required "name" .string <*> .required "number" .uint32 <*>
    .required "type" (.symbol FieldKind.ofName?) <*> .withDefault "repeated" false .bool <*>
    .withDefault "type_name" none (.option .string))

/-- Reads a message. -/
def messageReader : Reader MessageDeclaration :=
  .record (MessageDeclaration.mk <$> .required "name" .string <*>
    .required "fields" (.list fieldReader))

/-- Reads a file. -/
def reader : Reader SchemaFile :=
  .record (SchemaFile.mk <$> .withDefault "package" "" .string <*>
    .required "messages" (.list messageReader))

/-- The full name of a message of the file's package. -/
def qualify (file : SchemaFile) (name : String) : String :=
  if file.package = "" then name else file.package ++ "." ++ name

/-- The full names of the declared messages. -/
def declared (file : SchemaFile) : List String :=
  file.messages.map fun message => file.qualify message.name

/-- A type name without the dots in front of it. -/
def bareName (typeName : String) : String :=
  String.ofList (typeName.toList.dropWhile (· = '.'))

/-- The declared message that a type name means: the one of this full name, or the one of this name
in the package. -/
def resolveName? (file : SchemaFile) (typeName : String) : Option String :=
  let bare := bareName typeName
  [bare, file.qualify bare].find? fun name => file.declared.contains name

/-- The full name of a field's message type. -/
def resolveType (file : SchemaFile) (path message : String) (field : FieldDeclaration) :
    Except SchemaError (Option String) :=
  if field.kind = .message then
    match field.typeName with
    | none => .error (.missingTypeName path message field.name)
    | some typeName =>
      match file.resolveName? typeName with
      | some name => .ok (some name)
      | none => .error (.unresolvedType path message field.name (bareName typeName))
  else .ok none

/-- Resolves a field. -/
def resolveField (file : SchemaFile) (path message : String) (field : FieldDeclaration) :
    Except SchemaError SchemaField :=
  (file.resolveType path message field).map fun target =>
    ⟨field.name, field.number, field.kind, field.repeated, target⟩

/-- Resolves a message. -/
def resolveMessage (file : SchemaFile) (path : String) (message : MessageDeclaration) :
    Except SchemaError (String × List SchemaField) :=
  (message.fields.mapM (file.resolveField path message.name)).map fun fields =>
    (file.qualify message.name, fields)

/-- Resolves all names of a file; the first one that leads nowhere is the error. -/
def resolve (file : SchemaFile) (path : String) : Except SchemaError Schema :=
  (file.messages.mapM (file.resolveMessage path)).map Schema.mk

/-- Reads and resolves the text of a file. -/
def load (path : String) (text : Except FileError String) : Except SchemaError Schema :=
  match text with
  | .error error => .error (.unreadable path error)
  | .ok text =>
    match reader.ofText (Utf8.encode text) with
    | .error fault => .error (.malformed path fault)
    | .ok file => file.resolve path

end SchemaFile

namespace Schema

/-- The full names of the messages, in the order of their declaration. -/
def names (schema : Schema) : List String :=
  schema.messages.map (·.1)

/-- The fields of a message; of messages of one name the last one counts. -/
def fields (schema : Schema) (name : String) : List SchemaField :=
  (schema.messages.reverse.lookup name).getD []

end Schema

end ChainFeed
