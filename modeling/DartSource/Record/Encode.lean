import DartSource.Record.Basic
import DartSource.Tree.Basic

/-!
# Writing records

Writing a library as a tree of the table notation, from which reading gives it back. What is absent
is left out, and names stand in ascending order, as they do in every table of that notation.

The notation has no null. A constant that is null, or has one inside, cannot be written, and
neither can a record that holds it.
-/

namespace DartSource.Record

/-! ### Fields -/

/-- A field that holds a text. -/
def textField (name text : String) : String × Tree :=
  (name, .text text)

/-- A field that may be absent. -/
def optionalField (name : String) (tree : Option Tree) : List (String × Tree) :=
  tree.toList.map (name, ·)

/-- A text that may be absent. -/
def optionalText (name : String) (text : Option String) : List (String × Tree) :=
  optionalField name (text.map .text)

/-- A field that holds a list of texts. -/
def textsField (name : String) (texts : List String) : String × Tree :=
  (name, .list (texts.map .text))

/-- A list that is left out when it is empty. -/
def optionalList (name : String) (items : List Tree) : List (String × Tree) :=
  if items.isEmpty then [] else [(name, .list items)]

/-- Texts by name. -/
def writeLabelled (labelled : Labelled) : Tree :=
  .ofEntries (labelled.entries.map fun (name, text) => (name, .text text))

/-! ### Constants -/

mutual

/-- A constant. -/
def writeValue : Value → Option Tree
  | .null => none
  | .bool value => some (.bool value)
  | .int value => some (.int value)
  | .double value => some (.double value)
  | .text value => some (.text value)
  | .list items => (writeValues items).map .list
  | .enumValue type value => some (.ofEntries [textField "enum" type, textField "value" value])
  | .custom type fields => do
    let fields ← writeFields fields
    return .ofEntries [textField "custom" type, ("fields", .ofEntries fields)]
  | .map entries => do
    let entries ← writeEntries entries
    return .ofEntries [("map", .list entries)]

/-- The items of a list. -/
def writeValues : List Value → Option (List Tree)
  | [] => some []
  | item :: rest => do
    let first ← writeValue item
    let more ← writeValues rest
    return first :: more

/-- The fields of a custom value. -/
def writeFields : List (String × Value) → Option (List (String × Tree))
  | [] => some []
  | (name, value) :: rest => do
    let first ← writeValue value
    let more ← writeFields rest
    return (name, first) :: more

/-- The entries of a map. -/
def writeEntries : List (Value × Value) → Option (List Tree)
  | [] => some []
  | (key, value) :: rest => do
    let key ← writeValue key
    let value ← writeValue value
    let more ← writeEntries rest
    return .ofEntries [("key", key), ("value", value)] :: more

end

/-- The constant of a field that need not have one. -/
def writeOptionalValue : Option Value → Option (List (String × Tree))
  | none => some []
  | some value => (writeValue value).map fun tree => [("value", tree)]

/-! ### Signatures -/

/-- The keywords of a record. -/
def modifiersField (modifiers : List Modifier) : String × Tree :=
  textsField "modifiers" (modifiers.map Modifier.text)

/-- The doc comment and the annotations of a record. -/
def metaFields (info : Meta) : List (String × Tree) :=
  optionalText "doc" info.doc ++ optionalList "annotations" (info.annotations.map .text)

/-- A type parameter. -/
def writeTypeParam (param : TypeParam) : Tree :=
  .ofEntries (textField "name" param.name :: optionalText "bound" param.bound)

/-- The type parameters of a record. -/
def typeParamsField (params : List TypeParam) : String × Tree :=
  ("type_params", .list (params.map writeTypeParam))

/-- A body. -/
def writeBody : Body → Tree
  | .block text => .table [textField "block" text]
  | .arrow text => .table [textField "arrow" text]

/-- The body of a record. -/
def bodyField (body : Option Body) : List (String × Tree) :=
  optionalField "body" (body.map writeBody)

/-- A parameter. -/
def writeParam (param : Param) : Tree :=
  .ofEntries
    ([textField "name" param.name, modifiersField param.modifiers] ++
      optionalText "type" param.type ++ optionalText "default" param.defaultValue)

/-- The parameters of a record. -/
def paramsField (params : List Param) : String × Tree :=
  ("params", .list (params.map writeParam))

/-- A function or method. -/
def writeCallable (kind : String) (record : Callable) : Tree :=
  .ofEntries
    ([textField "kind" kind, textField "name" record.name, modifiersField record.modifiers,
      ("multiline_params", .bool record.multiline)] ++
      metaFields record.info ++ optionalText "returns" record.returns ++
      optionalList "type_params" (record.typeParams.map writeTypeParam) ++
      optionalList "params" (record.params.map writeParam) ++ bodyField record.body)

/-! ### Members -/

/-- A call of a constructor. -/
def writeCall (kind : String) (call : Call) : Tree :=
  .ofEntries
    ([textField "kind" kind, textsField "args" call.args, ("named", writeLabelled call.named)] ++
      optionalText "constructor" call.constructor)

/-- An entry of an initializer list. -/
def writeInitializer : Initializer → Tree
  | .assert condition message =>
    .ofEntries
      ([textField "kind" "assert", textField "condition" condition] ++
        optionalText "message" message)
  | .field name value =>
    .ofEntries [textField "kind" "field", textField "name" name, textField "value" value]
  | .superCall call => writeCall "super" call
  | .redirect call => writeCall "redirect" call

/-- A member. -/
def writeMember : Member → Option Tree
  | .property record => do
    let value ← writeOptionalValue record.value
    return .ofEntries
      ([textField "kind" "property", textField "name" record.name,
        modifiersField record.modifiers] ++
        metaFields record.info ++ optionalText "type" record.type ++
        optionalText "default" record.defaultValue ++ value)
  | .getter record =>
    some (.ofEntries
      ([textField "kind" "getter", textField "name" record.name,
        modifiersField record.modifiers] ++
        metaFields record.info ++ optionalText "type" record.type ++ bodyField record.body))
  | .setter record =>
    some (.ofEntries
      ([textField "kind" "setter", textField "name" record.name,
        ("param", writeParam record.param), modifiersField record.modifiers] ++
        metaFields record.info ++ bodyField record.body))
  | .constructor record =>
    some (.ofEntries
      ([textField "kind" "constructor", paramsField record.params,
        modifiersField record.modifiers, ("multiline_params", .bool record.multiline),
        ("initializers", .list (record.initializers.map writeInitializer))] ++
        optionalText "class" record.className ++ optionalText "name" record.name ++
        metaFields record.info ++ bodyField record.body))
  | .method record => some (writeCallable "method" record)

/-- The members of a declaration. -/
def writeMembers (members : List Member) : Option (String × Tree) :=
  (members.mapM writeMember).map fun trees => ("members", .list trees)

/-! ### Declarations -/

/-- A constant of an enum. -/
def writeEnumConstant (record : EnumConstant) : Tree :=
  .ofEntries
    ([textField "name" record.name, ("named", writeLabelled record.named)] ++
      metaFields record.info ++ optionalText "constructor" record.constructor ++
      optionalField "args" (record.args.map fun args => .list (args.map .text)))

/-- A declaration. -/
def writeDeclaration : Declaration → Option Tree
  | .classDecl record => do
    let members ← writeMembers record.members
    return .ofEntries
      ([textField "kind" "class", textField "name" record.name, modifiersField record.modifiers,
        typeParamsField record.typeParams, textsField "with" record.mixins,
        textsField "implements" record.interfaces, members] ++
        metaFields record.info ++ optionalText "extends" record.superclass)
  | .enumDecl record => do
    let members ← writeMembers record.members
    return .ofEntries
      ([textField "kind" "enum", textField "name" record.name, typeParamsField record.typeParams,
        textsField "with" record.mixins, textsField "implements" record.interfaces,
        ("constants", .list (record.constants.map writeEnumConstant)), members] ++
        metaFields record.info)
  | .mixinDecl record => do
    let members ← writeMembers record.members
    return .ofEntries
      ([textField "kind" "mixin", textField "name" record.name, modifiersField record.modifiers,
        typeParamsField record.typeParams, textsField "on" record.constraints,
        textsField "implements" record.interfaces, members] ++
        metaFields record.info)
  | .extensionDecl record => do
    let members ← writeMembers record.members
    return .ofEntries
      ([textField "kind" "extension", textField "on" record.target,
        typeParamsField record.typeParams, members] ++
        optionalText "name" record.name ++ metaFields record.info)
  | .functionDecl record => some (writeCallable "function" record)
  | .variable record => do
    let value ← writeOptionalValue record.value
    return .ofEntries
      ([textField "kind" "variable", textField "name" record.name,
        modifiersField record.modifiers] ++
        metaFields record.info ++ optionalText "type" record.type ++
        optionalText "default" record.defaultValue ++ value)

/-! ### Directives -/

/-- An asset. -/
def writeAsset (asset : AssetRef) : Tree :=
  .ofEntries [textField "package" asset.package, textField "path" asset.path]

/-- What a directive points at. -/
def targetField : Target → String × Tree
  | .uri text => textField "uri" text
  | .asset asset => ("asset", writeAsset asset)

/-- A directive. -/
def writeDirective : Directive → Tree
  | .importLib record =>
    .ofEntries
      ([textField "kind" "import", targetField record.target, modifiersField record.modifiers,
        textsField "show" record.shown, textsField "hide" record.hidden] ++
        optionalText "as" record.qualifier)
  | .exportLib target shown hidden =>
    .ofEntries
      [textField "kind" "export", targetField target, textsField "show" shown,
       textsField "hide" hidden]
  | .part target => .ofEntries [textField "kind" "part", targetField target]

/-! ### Descriptions -/

/-- The owner of a part file. -/
def writePartOf : PartOf → Tree
  | .library name => .table [textField "library" name]
  | .uri text => .table [textField "uri" text]
  | .asset asset => .table [("asset", writeAsset asset)]

/-- The layout of a file. -/
def writeOutput (output : Output) : Tree :=
  .ofEntries
    (optionalText "generator" output.generator ++
      optionalField "indent" (output.indent.map fun width => .int width) ++
      optionalField "part_of" (output.partOf.map writePartOf) ++
      optionalField "asset" (output.asset.map writeAsset))

/-- A library. -/
def writeLibrary (library : Library) : Option Tree := do
  let declarations ← library.declarations.mapM writeDeclaration
  return .ofEntries
    [("output", writeOutput library.output),
     ("directives", .list (library.directives.map writeDirective)),
     ("declarations", .list declarations)]

end DartSource.Record
