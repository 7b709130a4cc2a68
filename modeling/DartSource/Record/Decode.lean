import DartSource.Record.Fields

/-!
# Reading records

Reading a tree as a library and its records. A tree is read or refused; why it is refused does not
matter, because the notation's own complaint is all that a reader of the description gets to see.

Directives and declarations are taken in as a whole before their fields are looked at, so
everything inside them must be readable, while what an asset of the output ignores may be anything
that is well formed.
-/

namespace DartSource.Record

/-! ### Constants -/

/-- An enum value: the type and the name of the value. -/
def readEnumValue (fields : Fields) : Option Value := do
  let type ← fields.required "enum" readText
  let value ← fields.required "value" readText
  return .enumValue type value

mutual

/-- A constant. A table is an enum value, a custom value or a map, whichever it can be read as
first. -/
def readValue : Tree → Option Value
  | .null => some .null
  | .bool value => some (.bool value)
  | .int value => some (.int value)
  | .natural value =>
    if value ≤ Tree.maxInt then some (.int value) else some (.double (.ofRatio false value 1))
  | .double value => some (.double value)
  | .text value => some (.text value)
  | .list items => (readValues items).map .list
  | .table entries =>
    readEnumValue entries <|>
      (do
        let type ← Fields.required entries "custom" readText
        let fields ← readCustomFields entries
        return .custom type (Assoc.ofList fields)) <|>
      (readMapEntries entries).map .map
  | .unreadable | .undefined => none

/-- The items of a list. -/
def readValues : List Tree → Option (List Value)
  | [] => some []
  | item :: rest => do
    let first ← readValue item
    let more ← readValues rest
    return first :: more

/-- The fields of a custom value, none if they are not given. -/
def readCustomFields : List (String × Tree) → Option (List (String × Value))
  | [] => some []
  | (name, tree) :: rest =>
    if name = "fields" then
      if rest.any (fun field => field.1 == name) then none else readBindings tree
    else readCustomFields rest

/-- Constants by name. -/
def readBindings : Tree → Option (List (String × Value))
  | .table entries => readBound entries
  | _ => none

/-- Constants by name, from the entries of a table. -/
def readBound : List (String × Tree) → Option (List (String × Value))
  | [] => some []
  | (name, tree) :: rest => do
    let first ← readValue tree
    let more ← readBound rest
    return (name, first) :: more

/-- The entries of a map, which must be given. -/
def readMapEntries : List (String × Tree) → Option (List (Value × Value))
  | [] => none
  | (name, tree) :: rest =>
    if name = "map" then
      if rest.any (fun field => field.1 == name) then none else readPairs tree
    else readMapEntries rest

/-- Entries of a map, from a list. -/
def readPairs : Tree → Option (List (Value × Value))
  | .list items => readPairItems items
  | _ => none

/-- Entries of a map, item by item. -/
def readPairItems : List Tree → Option (List (Value × Value))
  | [] => some []
  | item :: rest => do
    let first ← readPair item
    let more ← readPairItems rest
    return first :: more

/-- An entry of a map: a table with a key and a value, or a list of the two. -/
def readPair : Tree → Option (Value × Value)
  | .list [key, value] => do
    let key ← readValue key
    let value ← readValue value
    return (key, value)
  | .table entries => do
    let key ← readNamed "key" entries
    let value ← readNamed "value" entries
    return (key, value)
  | _ => none

/-- The constant that a name is bound to, which must be bound once. -/
def readNamed (wanted : String) : List (String × Tree) → Option Value
  | [] => none
  | (name, tree) :: rest =>
    if name = wanted then
      if rest.any (fun field => field.1 == name) then none else readValue tree
    else readNamed wanted rest

end

/-! ### Signatures -/

/-- A keyword. -/
def readModifier (tree : Tree) : Option Modifier := do
  let word ← readWord tree
  Modifier.ofText? word

/-- The keywords of a record. -/
def readModifiers (fields : Fields) : Option (List Modifier) :=
  fields.withDefault "modifiers" [] (readList readModifier)

/-- The texts of a field that may be missing. -/
def readTexts (fields : Fields) (name : String) : Option (List String) :=
  fields.withDefault name [] (readList readText)

/-- The doc comment and the annotations of a record. -/
def readMeta (fields : Fields) : Option Meta := do
  let doc ← fields.optional "doc" readText
  let annotations ← readTexts fields "annotations"
  return { doc, annotations }

/-- A type parameter. -/
def readTypeParam (tree : Tree) : Option TypeParam := do
  let fields ← Fields.ofTree? ["name", "bound"] false tree
  let name ← fields.required "name" readText
  let bound ← fields.optional "bound" readText
  return { name, bound }

/-- The type parameters of a record. -/
def readTypeParams (fields : Fields) : Option (List TypeParam) :=
  fields.withDefault "type_params" [] (readList readTypeParam)

/-- A body. -/
def readBody (tree : Tree) : Option Body := do
  let (form, inner) ← readForm tree
  let text ← readText inner
  if form = "block" then return .block text
  else if form = "arrow" then return .arrow text
  else none

/-- A parameter. -/
def readParam (tree : Tree) : Option Param := do
  let fields ← Fields.ofTree? ["name", "type", "modifiers", "default"] false tree
  let name ← fields.required "name" readText
  let type ← fields.optional "type" readText
  let modifiers ← readModifiers fields
  let defaultValue ← fields.optional "default" readText
  return { name, type, modifiers, defaultValue }

/-- The parameters of a record. -/
def readParams (fields : Fields) : Option (List Param) :=
  fields.withDefault "params" [] (readList readParam)

/-- A function or method. -/
def readCallable (fields : Fields) : Option Callable := do
  let name ← fields.required "name" readText
  let info ← readMeta fields
  let returns ← fields.optional "returns" readText
  let typeParams ← readTypeParams fields
  let params ← readParams fields
  let modifiers ← readModifiers fields
  let multiline ← fields.withDefault "multiline_params" false readBool
  let body ← fields.optional "body" readBody
  return { name, info, returns, typeParams, params, modifiers, multiline, body }

/-! ### Members -/

/-- A field of a type. -/
def readProperty (fields : Fields) : Option Property := do
  let name ← fields.required "name" readText
  let info ← readMeta fields
  let type ← fields.optional "type" readText
  let modifiers ← readModifiers fields
  let defaultValue ← fields.optional "default" readText
  let value ← fields.optional "value" readValue
  return { name, info, type, modifiers, defaultValue, value }

/-- A getter. -/
def readGetter (fields : Fields) : Option Getter := do
  let name ← fields.required "name" readText
  let info ← readMeta fields
  let type ← fields.optional "type" readText
  let modifiers ← readModifiers fields
  let body ← fields.optional "body" readBody
  return { name, info, type, modifiers, body }

/-- A setter. -/
def readSetter (fields : Fields) : Option Setter := do
  let name ← fields.required "name" readText
  let info ← readMeta fields
  let param ← fields.required "param" readParam
  let modifiers ← readModifiers fields
  let body ← fields.optional "body" readBody
  return { name, info, param, modifiers, body }

/-- A call of a constructor. -/
def readCall (fields : Fields) : Option Call := do
  let constructor ← fields.optional "constructor" readText
  let args ← readTexts fields "args"
  let named ← fields.withDefault "named" {} readLabelled
  return { constructor, args, named }

/-- The kinds of initializers. -/
def initializerKinds : List String := ["assert", "field", "super", "redirect"]

/-- The fields of an initializer in the order of its list form. -/
def initializerNames (kind : String) : List String :=
  if kind = "assert" then ["condition", "message"]
  else if kind = "field" then ["name", "value"]
  else ["constructor", "args", "named"]

/-- The kind and the fields of an initializer: a table with a kind, or a list that starts with the
kind. -/
def initializerParts : Tree → Option (String × Fields)
  | .table fields => do
    let kind ← Fields.required fields "kind" (readKind initializerKinds)
    return (kind, fields)
  | .list (first :: rest) => do
    let kind ← readKind initializerKinds first
    let fields ← Fields.ofTree? (initializerNames kind) false (.list rest)
    return (kind, fields)
  | _ => none

/-- An entry of an initializer list. -/
def readInitializer (tree : Tree) : Option Initializer := do
  let (kind, fields) ← initializerParts tree
  if kind = "assert" then
    let condition ← fields.required "condition" readText
    let message ← fields.optional "message" readText
    return .assert condition message
  else if kind = "field" then
    let name ← fields.required "name" readText
    let value ← fields.required "value" readText
    return .field name value
  else
    let call ← readCall fields
    return if kind = "super" then .superCall call else .redirect call

/-- A constructor. -/
def readConstructor (fields : Fields) : Option Constructor := do
  let className ← fields.optional "class" readText
  let name ← fields.optional "name" readText
  let info ← readMeta fields
  let params ← readParams fields
  let modifiers ← readModifiers fields
  let multiline ← fields.withDefault "multiline_params" false readBool
  let initializers ← fields.withDefault "initializers" [] (readList readInitializer)
  let body ← fields.optional "body" readBody
  return { className, name, info, params, modifiers, multiline, initializers, body }

/-- The kinds of members. -/
def memberKinds : List String := ["property", "getter", "setter", "constructor", "method"]

/-- A member. -/
def readMember (tree : Tree) : Option Member := do
  let fields ← Fields.ofTable? tree
  let kind ← fields.required "kind" (readKind memberKinds)
  if kind = "property" then (readProperty fields).map .property
  else if kind = "getter" then (readGetter fields).map .getter
  else if kind = "setter" then (readSetter fields).map .setter
  else if kind = "constructor" then (readConstructor fields).map .constructor
  else (readCallable fields).map .method

/-- The members of a declaration. -/
def readMembers (fields : Fields) : Option (List Member) :=
  fields.withDefault "members" [] (readList readMember)

/-! ### Declarations -/

/-- A class. -/
def readClass (fields : Fields) : Option ClassDecl := do
  let name ← fields.required "name" readText
  let info ← readMeta fields
  let modifiers ← readModifiers fields
  let typeParams ← readTypeParams fields
  let superclass ← fields.optional "extends" readText
  let mixins ← readTexts fields "with"
  let interfaces ← readTexts fields "implements"
  let members ← readMembers fields
  return { name, info, modifiers, typeParams, superclass, mixins, interfaces, members }

/-- A constant of an enum. -/
def readEnumConstant (tree : Tree) : Option EnumConstant := do
  let fields ← Fields.ofTable? tree
  let name ← fields.required "name" readText
  let info ← readMeta fields
  let constructor ← fields.optional "constructor" readText
  let args ← fields.optional "args" (readList readText)
  let named ← fields.withDefault "named" {} readLabelled
  return { name, info, constructor, args, named }

/-- An enum. -/
def readEnum (fields : Fields) : Option EnumDecl := do
  let name ← fields.required "name" readText
  let info ← readMeta fields
  let typeParams ← readTypeParams fields
  let mixins ← readTexts fields "with"
  let interfaces ← readTexts fields "implements"
  let constants ← fields.required "constants" (readList readEnumConstant)
  let members ← readMembers fields
  return { name, info, typeParams, mixins, interfaces, constants, members }

/-- A mixin. -/
def readMixin (fields : Fields) : Option MixinDecl := do
  let name ← fields.required "name" readText
  let info ← readMeta fields
  let modifiers ← readModifiers fields
  let typeParams ← readTypeParams fields
  let constraints ← readTexts fields "on"
  let interfaces ← readTexts fields "implements"
  let members ← readMembers fields
  return { name, info, modifiers, typeParams, constraints, interfaces, members }

/-- An extension. -/
def readExtension (fields : Fields) : Option ExtensionDecl := do
  let name ← fields.optional "name" readText
  let target ← fields.required "on" readText
  let info ← readMeta fields
  let typeParams ← readTypeParams fields
  let members ← readMembers fields
  return { name, target, info, typeParams, members }

/-- A variable. -/
def readVariable (fields : Fields) : Option VariableDecl := do
  let name ← fields.required "name" readText
  let info ← readMeta fields
  let type ← fields.optional "type" readText
  let modifiers ← readModifiers fields
  let defaultValue ← fields.optional "default" readText
  let value ← fields.optional "value" readValue
  return { name, info, type, modifiers, defaultValue, value }

/-- A declaration. -/
def readDeclaration (tree : Tree) : Option Declaration := do
  let fields ← if tree.isReadable then Fields.ofTable? tree else none
  let kind ← fields.required "kind" readText
  if kind = "class" then (readClass fields).map .classDecl
  else if kind = "enum" then (readEnum fields).map .enumDecl
  else if kind = "mixin" then (readMixin fields).map .mixinDecl
  else if kind = "extension" then (readExtension fields).map .extensionDecl
  else if kind = "function" then (readCallable fields).map .functionDecl
  else if kind = "variable" then (readVariable fields).map .variable
  else none

/-! ### Directives -/

/-- An asset. -/
def readAsset (surplus : Bool) (tree : Tree) : Option AssetRef := do
  let fields ← Fields.ofTree? ["package", "path"] surplus tree
  let package ← fields.required "package" readText
  let path ← fields.required "path" readText
  return { package, path }

/-- What a directive points at: the first name that says it. -/
def readTarget : Fields → Option Target
  | [] => none
  | (name, tree) :: rest =>
    if name = "uri" then (readText tree).map .uri
    else if name = "asset" then (readAsset false tree).map .asset
    else readTarget rest

/-- An import. -/
def readImport (fields : Fields) : Option Import := do
  let target ← readTarget fields
  let qualifier ← fields.optional "as" readText
  let modifiers ← readModifiers fields
  let shown ← readTexts fields "show"
  let hidden ← readTexts fields "hide"
  return { target, qualifier, modifiers, shown, hidden }

/-- A directive. -/
def readDirective (tree : Tree) : Option Directive := do
  let fields ← if tree.isReadable then Fields.ofTable? tree else none
  let kind ← fields.required "kind" readText
  if kind = "import" then (readImport fields).map .importLib
  else if kind = "export" then
    let target ← readTarget fields
    let shown ← readTexts fields "show"
    let hidden ← readTexts fields "hide"
    return .exportLib target shown hidden
  else if kind = "part" then (readTarget fields).map .part
  else none

/-! ### Descriptions -/

/-- The owner of a part file. -/
def readPartOf (surplus : Bool) (tree : Tree) : Option PartOf := do
  let (form, inner) ← readForm tree
  if form = "library" then (readText inner).map .library
  else if form = "uri" then (readText inner).map .uri
  else if form = "asset" then (readAsset surplus inner).map .asset
  else none

/-- A width of at most 255. -/
def readWidth (tree : Tree) : Option Nat := do
  let width ← tree.integer?
  if 0 ≤ width ∧ width ≤ 255 then return width.toNat else none

/-- The fields of an output. -/
def outputNames : List String := ["generator", "indent", "part_of", "asset"]

/-- The layout of a file. It has no other fields than its own. -/
def readOutput (surplus : Bool) (tree : Tree) : Option Output := do
  let fields ← Fields.ofTree? outputNames surplus tree
  if !fields.onlyNames outputNames then none
  else
    let generator ← fields.optional "generator" readText
    let indent ← fields.optional "indent" readWidth
    let partOf ← fields.optional "part_of" (readPartOf surplus)
    let asset ← fields.optional "asset" (readAsset surplus)
    return { generator, indent, partOf, asset }

/-- The fields of a library. -/
def libraryNames : List String := ["output", "directives", "declarations"]

/-- A library. It has no other fields than its own. With `surplus` the output and its assets may
be written as lists with further items, which nobody looks at. -/
def readLibrary (surplus : Bool) (tree : Tree) : Option Library := do
  let fields ← Fields.ofTree? libraryNames false tree
  if !fields.onlyNames libraryNames then none
  else
    let output ← fields.withDefault "output" {} (readOutput surplus)
    let directives ← fields.withDefault "directives" [] (readList readDirective)
    let declarations ← fields.withDefault "declarations" [] (readList readDeclaration)
    return { output, directives, declarations }

end DartSource.Record
