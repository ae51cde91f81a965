import NightWatch.Source.ProtoDeclarations

namespace NightWatch.Source.ProtoGrammar

open Lib.JsText Source.ProtoLexer Source.ProtoDeclarations

def word (value : String) : ProtoToken := .identifier value.toList

/-- The depth of the braces after some tokens; `none` where a brace closes nothing. -/
def level : (depth : Nat) → List ProtoToken → Option Nat
  | depth, [] => some depth
  | depth, token :: rest =>
      if token = .punctuation '\x7b' then level (depth + 1) rest
      else if token = .punctuation '\x7d' then
        match depth with
        | 0 => none
        | depth + 1 => level depth rest
      else level depth rest

def isBalanced (body : List ProtoToken) : Bool := decide (level 0 body = some 0)

def blockTokens (body : List ProtoToken) : List ProtoToken :=
  .punctuation '\x7b' :: (body ++ [.punctuation '\x7d'])

/-- The inside of a `google.api.http` block, entry after entry. -/
inductive HttpEntries where
  | nil
  | verb (method : ProtoHttpMethod) (routeTemplate : JsString) (rest : HttpEntries)
  | body (value : JsString) (rest : HttpEntries)
  | additional (colon : Bool) (nested rest : HttpEntries)
  | separator (semicolon : Bool) (rest : HttpEntries)

namespace HttpEntries

def methodKey : ProtoHttpMethod → String
  | .get => "get"
  | .post => "post"
  | .put => "put"
  | .patch => "patch"
  | .delete => "delete"

def tokens : HttpEntries → List ProtoToken
  | nil => []
  | verb method routeTemplate rest =>
      word (methodKey method) :: .punctuation ':' :: .string routeTemplate :: rest.tokens
  | body value rest => word "body" :: .punctuation ':' :: .string value :: rest.tokens
  | additional colon nested rest =>
      word "additional_bindings" :: ((if colon then [.punctuation ':'] else []) ++
        (.punctuation '\x7b' :: (nested.tokens ++ .punctuation '\x7d' :: rest.tokens)))
  | separator semicolon rest => .punctuation (if semicolon then ';' else ',') :: rest.tokens

def verbs : HttpEntries → List (ProtoHttpMethod × JsString)
  | nil => []
  | verb method routeTemplate rest => (method, routeTemplate) :: rest.verbs
  | body _ rest => rest.verbs
  | additional _ _ rest => rest.verbs
  | separator _ rest => rest.verbs

def bodies : HttpEntries → List JsString
  | nil => []
  | verb _ _ rest => rest.bodies
  | body value rest => value :: rest.bodies
  | additional _ _ rest => rest.bodies
  | separator _ rest => rest.bodies

def bodyPresence : Option JsString → ProtoBodyPresence
  | none => .absent
  | some value => if value = "*".toList then .wildcard else .present

def bodyField (body : Option JsString) : Option JsString := body.filter (· ≠ "*".toList)

def ownBindings (kind : ProtoBindingKind) (entries : HttpEntries) : List ProtoHttpBinding :=
  entries.verbs.map fun entry =>
    { kind, method := .own entry.1, routeTemplate := entry.2,
      body := bodyPresence entries.bodies.getLast?,
      bodyField := bodyField entries.bodies.getLast? }

def additionalBindings : HttpEntries → List ProtoHttpBinding
  | nil => []
  | verb _ _ rest => rest.additionalBindings
  | body _ rest => rest.additionalBindings
  | additional _ nested rest =>
      ownBindings .additional nested ++ nested.additionalBindings ++ rest.additionalBindings
  | separator _ rest => rest.additionalBindings

def bindings (kind : ProtoBindingKind) (entries : HttpEntries) : List ProtoHttpBinding :=
  ownBindings kind entries ++ entries.additionalBindings

def isRule (entries : HttpEntries) : Bool :=
  decide (entries.verbs.length = 1) && decide (entries.bodies.length ≤ 1) &&
    decide ((entries.bindings .primary).length ≤ protoMaxBindingsPerRpc)

def isWellFormed : (levels : Nat) → HttpEntries → Bool
  | _, nil => true
  | levels, verb _ routeTemplate rest =>
      (safeRouteTemplate routeTemplate).isSome && rest.isWellFormed levels
  | levels, body value rest =>
      (decide (value = "*".toList) || isSafeBodyField value) && rest.isWellFormed levels
  | 0, additional _ _ _ => false
  | levels + 1, additional _ nested rest =>
      nested.isRule && nested.isWellFormed levels && rest.isWellFormed (levels + 1)
  | levels, separator _ rest => rest.isWellFormed levels

end HttpEntries

inductive OptionName where
  | plain (name : JsString)
  | extension (name : JsString) (suffixes : List JsString)

def OptionName.head : OptionName → JsString
  | .plain name => name
  | .extension name _ => name

def OptionName.tokens : OptionName → List ProtoToken
  | .plain name => [.identifier name]
  | .extension name suffixes =>
      .punctuation '(' :: .identifier name :: .punctuation ')' ::
        suffixes.flatMap fun suffix => [.punctuation '.', .identifier suffix]

def OptionName.words : OptionName → List JsString
  | .plain name => [name]
  | .extension name suffixes => name :: suffixes

inductive OptionValue where
  | name (value : JsString)
  | number (value : JsString)
  | text (value : JsString) (others : List JsString)
  | signedNumber (sign : Bool) (value : JsString)
  | signedWord (sign isNan : Bool)
  | block (body : List ProtoToken)

def signToken (sign : Bool) : ProtoToken := .punctuation (if sign then '+' else '-')

def OptionValue.tokens : OptionValue → List ProtoToken
  | .name value => [.identifier value]
  | .number value => [.number value]
  | .text value others => .string value :: others.map ProtoToken.string
  | .signedNumber sign value => [signToken sign, .number value]
  | .signedWord sign isNan => [signToken sign, word (if isNan then "nan" else "inf")]
  | .block body => blockTokens body

def OptionValue.words : OptionValue → List JsString
  | .name value => [value]
  | _ => []

def OptionValue.isWellFormed : OptionValue → Bool
  | .block body => isBalanced body
  | _ => true

structure ProtoOption where
  name : OptionName
  value : OptionValue

def ProtoOption.tokens (option : ProtoOption) : List ProtoToken :=
  word "option" :: (option.name.tokens ++ .punctuation '=' ::
    (option.value.tokens ++ [.punctuation ';']))

def ProtoOption.words (option : ProtoOption) : List JsString :=
  option.name.words ++ option.value.words

inductive RpcEntry where
  | option (option : ProtoOption)
  | http (entries : HttpEntries)

def RpcEntry.tokens : RpcEntry → List ProtoToken
  | .option opt => opt.tokens
  | .http entries =>
      word "option" :: .punctuation '(' :: .identifier httpOptionName :: .punctuation ')' ::
        .punctuation '=' :: (blockTokens entries.tokens ++ [.punctuation ';'])

def RpcEntry.isWellFormed : RpcEntry → Bool
  | .option opt => decide (opt.name.head ≠ httpOptionName) && opt.value.isWellFormed
  | .http entries => entries.isRule && entries.isWellFormed 4

def RpcEntry.bindings : RpcEntry → List ProtoHttpBinding
  | .option _ => []
  | .http entries => entries.bindings .primary

def RpcEntry.isHttp : RpcEntry → Bool
  | .option _ => false
  | .http _ => true

structure Rpc where
  name : JsString
  request : MessageReference
  response : MessageReference
  body : Option (List RpcEntry)

def referenceTokens (reference : MessageReference) : List ProtoToken :=
  (if reference.streaming then [word "stream"] else []) ++ [.identifier reference.message]

def Rpc.tokens (rpc : Rpc) : List ProtoToken :=
  word "rpc" :: .identifier rpc.name :: .punctuation '(' :: (referenceTokens rpc.request ++
    .punctuation ')' :: word "returns" :: .punctuation '(' :: (referenceTokens rpc.response ++
      .punctuation ')' :: match rpc.body with
        | none => [.punctuation ';']
        | some entries => blockTokens (entries.flatMap RpcEntry.tokens)))

def Rpc.entries (rpc : Rpc) : List RpcEntry := rpc.body.getD []

def Rpc.isWellFormed (rpc : Rpc) : Bool :=
  isSafeIdentifier rpc.name && isSafeQualified rpc.request.message &&
    isSafeQualified rpc.response.message && rpc.entries.all RpcEntry.isWellFormed &&
    decide ((rpc.entries.filter RpcEntry.isHttp).length ≤ 1)

def Rpc.bindings (rpc : Rpc) : List ProtoHttpBinding := rpc.entries.flatMap RpcEntry.bindings

/-- A block proves its binding, several bindings are ambiguous, and other options alone are not
supported. -/
def Rpc.bindingState (rpc : Rpc) : ProtoHttpBindingState :=
  if rpc.entries.any RpcEntry.isHttp then
    if 1 < rpc.bindings.length then .ambiguous else .proven
  else if rpc.entries = [] then .absent
  else .unsupportedOption

def Rpc.streamingClass (rpc : Rpc) : ProtoStreamingClass :=
  match rpc.request.streaming, rpc.response.streaming with
  | false, false => .unary
  | true, false => .clientStreaming
  | false, true => .serverStreaming
  | true, true => .bidirectional

def Rpc.declared (package : Option JsString) (serviceName : JsString) (rpc : Rpc) :
    ProtoRpcFact where
  package
  serviceName
  rpcName := rpc.name
  canonicalIdentity := canonicalService package serviceName ++ '/' :: rpc.name
  requestMessage := rpc.request.message
  responseMessage := rpc.response.message
  clientStreaming := rpc.request.streaming
  serverStreaming := rpc.response.streaming
  streamingClass := rpc.streamingClass
  httpBindingState := rpc.bindingState
  bindings := rpc.bindings

inductive ServiceMember where
  | option (option : ProtoOption)
  | rpc (rpc : Rpc)

def ServiceMember.tokens : ServiceMember → List ProtoToken
  | .option opt => opt.tokens
  | .rpc method => method.tokens

def ServiceMember.isWellFormed : ServiceMember → Bool
  | .option opt => opt.value.isWellFormed
  | .rpc method => method.isWellFormed

def ServiceMember.rpc? : ServiceMember → Option Rpc
  | .option _ => none
  | .rpc method => some method

inductive ImportKind where
  | plain
  | publicImport
  | weak

def ImportKind.tokens : ImportKind → List ProtoToken
  | .plain => []
  | .publicImport => [word "public"]
  | .weak => [word "weak"]

inductive FileItem where
  | service (name : JsString) (members : List ServiceMember)
  | message (name : JsString) (body : List ProtoToken)
  | enumeration (name : JsString) (body : List ProtoToken)
  | importFile (kind : ImportKind) (path : JsString)
  | option (option : ProtoOption)

def FileItem.tokens : FileItem → List ProtoToken
  | .service name members =>
      word "service" :: .identifier name :: blockTokens (members.flatMap ServiceMember.tokens)
  | .message name body => word "message" :: .identifier name :: blockTokens body
  | .enumeration name body => word "enum" :: .identifier name :: blockTokens body
  | .importFile kind path =>
      word "import" :: (kind.tokens ++ [.string path, .punctuation ';'])
  | .option opt => opt.tokens

def rpcsOf (members : List ServiceMember) : List Rpc := members.filterMap ServiceMember.rpc?

def FileItem.isWellFormed : FileItem → Bool
  | .service name members =>
      isSafeIdentifier name && members.all ServiceMember.isWellFormed &&
        decide ((rpcsOf members).length ≤ protoMaxRpcsPerService)
  | .message name body => isSafeIdentifier name && isBalanced body
  | .enumeration _ body => isBalanced body
  | .importFile _ _ => true
  | .option opt => opt.value.isWellFormed

def FileItem.service? (package : Option JsString) : FileItem → Option ProtoServiceFact
  | .service name members =>
      some {
        package
        serviceName := name
        canonicalIdentity := canonicalService package name
        rpcs := (rpcsOf members).map (Rpc.declared package name) }
  | _ => none

def FileItem.messageName? : FileItem → Option JsString
  | .message name _ => some name
  | _ => none

structure ProtoFile where
  package : Option JsString
  items : List FileItem

def ProtoFile.tokens (file : ProtoFile) : List ProtoToken :=
  (match file.package with
    | none => []
    | some package => [word "package", .identifier package, .punctuation ';']) ++
    file.items.flatMap FileItem.tokens

def ProtoFile.services (file : ProtoFile) : List ProtoServiceFact :=
  file.items.filterMap (FileItem.service? file.package)

def ProtoFile.messageNames (file : ProtoFile) : List JsString :=
  file.items.filterMap FileItem.messageName?

def ProtoFile.rpcs (file : ProtoFile) : List Rpc :=
  file.items.flatMap fun item =>
    match item with
    | .service _ members => rpcsOf members
    | _ => []

/-- Names, routes and bodies are of their form, and nothing is over a ceiling. -/
structure ProtoFile.WithinCeilings (options : ProtoLexOptions) (file : ProtoFile)
    (text : List Char) : Prop where
  package : file.package.all isSafeQualified = true
  items : file.items.all FileItem.isWellFormed = true
  services : file.services.length ≤ protoMaxServices
  messages : file.messageNames.length ≤ protoMaxMessages
  bytes : text.length ≤ options.maxSourceBytes.getD protoMaxSourceBytes
  tokens : file.tokens.length ≤ options.maxTokens.getD protoMaxTokens
  depth : nestsWithin (options.maxDepth.getD protoMaxDepth) 0 file.tokens = true

def countStreaming (client server : Bool) (rpcs : List Rpc) : Nat :=
  (rpcs.filter fun rpc =>
    rpc.request.streaming == client && rpc.response.streaming == server).length

def ProtoFile.counters (file : ProtoFile) (comments : Nat) : ProtoCounters where
  services := file.services.length
  rpcs := file.rpcs.length
  messages := file.messageNames.length
  httpBindings := (file.rpcs.map fun rpc => rpc.bindings.length).sum
  unary := countStreaming false false file.rpcs
  clientStreaming := countStreaming true false file.rpcs
  serverStreaming := countStreaming false true file.rpcs
  bidirectional := countStreaming true true file.rpcs
  tokens := file.tokens.length
  commentsDiscarded := comments

def ProtoFile.declared (file : ProtoFile) (comments : Nat) : ProtoFileFacts where
  package := file.package
  services := file.services
  messageNames := file.messageNames
  completeness := ⟨.complete, none, 0, 0⟩
  counters := file.counters comments

/-- No word of a file option is taken for the keyword of a service, or of a package where the
file has one. -/
def ProtoFile.OptionsReadOver (file : ProtoFile) : Prop :=
  ∀ option, FileItem.option option ∈ file.items →
    "service".toList ∉ option.words ∧
      (file.package ≠ none → "package".toList ∉ option.words)

end NightWatch.Source.ProtoGrammar
