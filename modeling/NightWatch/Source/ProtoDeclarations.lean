import NightWatch.Source.ProtoLexer

namespace NightWatch.Source.ProtoDeclarations

open Lib.JsText Lib.Loop Source.ProtoLexer

def protoMaxServices : Nat := 256

def protoMaxRpcsPerService : Nat := 2048

def protoMaxBindingsPerRpc : Nat := 32

def protoMaxMessages : Nat := 4096

def protoMaxRouteLength : Nat := 512

inductive ProtoHttpMethod where
  | get
  | post
  | put
  | patch
  | delete
  deriving DecidableEq

/-- What `HTTP_VERB_KEYS[key]` gives: an own key, or one that every object inherits. -/
inductive HttpVerb where
  | own (method : ProtoHttpMethod)
  | inherited (key : JsString)
  deriving DecidableEq

inductive ProtoBindingKind where
  | primary
  | additional
  deriving DecidableEq

inductive ProtoBodyPresence where
  | present
  | absent
  | wildcard
  | unknown
  deriving DecidableEq

structure ProtoHttpBinding where
  kind : ProtoBindingKind
  method : HttpVerb
  routeTemplate : JsString
  body : ProtoBodyPresence
  bodyField : Option JsString
  deriving DecidableEq

inductive ProtoHttpBindingState where
  | proven
  | absent
  | malformed
  | ambiguous
  | unsupportedOption
  deriving DecidableEq

inductive ProtoStreamingClass where
  | unary
  | clientStreaming
  | serverStreaming
  | bidirectional
  deriving DecidableEq

inductive ProtoIncompletenessReason where
  | tokenBudgetExhausted
  | depthExceeded
  | unterminatedComment
  | unterminatedString
  | byteBudgetExhausted
  | malformedDeclaration
  | serviceCeilingReached
  | rpcCeilingReached
  | messageCeilingReached
  deriving DecidableEq

structure ProtoRpcFact where
  package : Option JsString
  serviceName : JsString
  rpcName : JsString
  canonicalIdentity : JsString
  requestMessage : JsString
  responseMessage : JsString
  clientStreaming : Bool
  serverStreaming : Bool
  streamingClass : ProtoStreamingClass
  httpBindingState : ProtoHttpBindingState
  bindings : List ProtoHttpBinding
  deriving DecidableEq

structure ProtoServiceFact where
  package : Option JsString
  serviceName : JsString
  canonicalIdentity : JsString
  rpcs : List ProtoRpcFact
  deriving DecidableEq

inductive SourceCompletenessState where
  | complete
  | truncated
  | unknown
  deriving DecidableEq

structure ProtoCompleteness where
  state : SourceCompletenessState
  reason : Option ProtoIncompletenessReason
  malformedDeclarations : Nat
  droppedByCeiling : Nat
  deriving DecidableEq

structure ProtoCounters where
  services : Nat
  rpcs : Nat
  messages : Nat
  httpBindings : Nat
  unary : Nat
  clientStreaming : Nat
  serverStreaming : Nat
  bidirectional : Nat
  tokens : Nat
  commentsDiscarded : Nat
  deriving DecidableEq

structure ProtoFileFacts where
  package : Option JsString
  services : List ProtoServiceFact
  messageNames : List JsString
  completeness : ProtoCompleteness
  counters : ProtoCounters
  deriving DecidableEq

def isShaped (first rest : Char → Bool) (most : Nat) : JsString → Bool
  | [] => false
  | c :: cs => first c && decide (cs.length ≤ most) && cs.all rest

/-- `SAFE_PLACEHOLDER_RE`. -/
def isSafePlaceholder : JsString → Bool :=
  isShaped Char.isAlpha (fun c => c.isAlphanum || c ∈ ['_', ':', '-']) 63

/-- `SAFE_IDENTIFIER_RE`. -/
def isSafeIdentifier : JsString → Bool :=
  isShaped isIdentifierStart (fun c => c.isAlphanum || c == '_') 127

/-- `SAFE_QUALIFIED_RE`. -/
def isSafeQualified (value : JsString) : Bool :=
  let parts := value.splitOn '.'
  decide (parts.length ≤ 16) && parts.all isSafeIdentifier

/-- `SAFE_BODY_FIELD_RE`. -/
def isSafeBodyField : JsString → Bool := isShaped isIdentifierStart isIdentifierPart 127

def isRouteChar (c : Char) : Bool := c.isAlphanum || c ∈ "._~\x7b\x7d:&-".toList

/-- `SAFE_ROUTE_RE`. -/
def isSafeRoute : JsString → Bool
  | [] => false
  | c :: rest =>
      c == '/' && (rest.splitOn '/').all fun segment =>
        decide (segment.length ≤ 239) && segment.all isRouteChar

def isBrace (c : Char) : Bool := c == '\x7b' || c == '\x7d'

/-- The matches of `/\{([^{}]+)\}/g`; one found holds no brace, so the search goes on right after
its first. -/
def placeholders : List Char → List JsString
  | [] => []
  | c :: rest =>
      let name := rest.takeWhile fun d => !isBrace d
      if c = '\x7b' ∧ name ≠ [] ∧ (rest.drop name.length).head? = some '\x7d' then
        name :: placeholders rest
      else placeholders rest

def safeRouteTemplate (value : JsString) : Option JsString :=
  if value.length = 0 ∨ protoMaxRouteLength < value.length then none
  else if !isSafeRoute value || includes value "..".toList || includes value ['\\'] then none
  else if (placeholders value).all isSafePlaceholder then some value
  else none

/-- `HTTP_VERB_KEYS`. -/
def httpVerbKeys : List (JsString × ProtoHttpMethod) :=
  [("get".toList, .get), ("post".toList, .post), ("put".toList, .put), ("patch".toList, .patch),
    ("delete".toList, .delete)]

/-- The keys of `Object.prototype`. -/
def inheritedKeys : List JsString :=
  ["constructor", "__defineGetter__", "__defineSetter__", "hasOwnProperty", "__lookupGetter__",
    "__lookupSetter__", "isPrototypeOf", "propertyIsEnumerable", "toString", "valueOf",
    "__proto__", "toLocaleString"].map String.toList

def httpVerb (key : JsString) : Option HttpVerb :=
  match httpVerbKeys.lookup key with
  | some method => some (.own method)
  | none => if key ∈ inheritedKeys then some (.inherited key) else none

def knownNonVerbKeys : List JsString :=
  ["body", "response_body", "selector", "custom", "additional_bindings"].map String.toList

def httpOptionName : JsString := "google.api.http".toList

def lexStateReason : ProtoLexState → Option ProtoIncompletenessReason
  | .tokenBudgetExhausted => some .tokenBudgetExhausted
  | .depthExceeded => some .depthExceeded
  | .unterminatedComment => some .unterminatedComment
  | .unterminatedString => some .unterminatedString
  | .byteBudgetExhausted => some .byteBudgetExhausted
  | .complete => none

def streamingClass (clientStreaming serverStreaming : Bool) : ProtoStreamingClass :=
  if clientStreaming && serverStreaming then .bidirectional
  else if clientStreaming then .clientStreaming
  else if serverStreaming then .serverStreaming
  else .unary

/-- The tokens that are left to a `TokenCursor`. -/
abbrev TokenCursor := List ProtoToken

def isPunctuation (value : Char) (cursor : TokenCursor) : Bool :=
  decide (cursor.head? = some (.punctuation value))

def isIdentifier (value : String) (cursor : TokenCursor) : Bool :=
  decide (cursor.head? = some (.identifier value.toList))

def takePunctuation (value : Char) : TokenCursor → Option TokenCursor
  | .punctuation c :: rest => if c = value then some rest else none
  | _ => none

/-- `takePunctuation` where its result is not looked at. -/
def skipPunctuation (value : Char) (cursor : TokenCursor) : TokenCursor :=
  (takePunctuation value cursor).getD cursor

def takeIdentifier : TokenCursor → Option JsString × TokenCursor
  | .identifier value :: rest => (some value, rest)
  | cursor => (none, cursor)

def skipOpen : (depth : Nat) → TokenCursor → Bool × TokenCursor
  | 0, cursor => (true, cursor)
  | _ + 1, [] => (false, [])
  | depth + 1, token :: rest =>
      if token = .punctuation '\x7b' then skipOpen (depth + 2) rest
      else if token = .punctuation '\x7d' then skipOpen depth rest
      else skipOpen (depth + 1) rest

def skipBlock (cursor : TokenCursor) : Bool × TokenCursor :=
  match takePunctuation '\x7b' cursor with
  | none => (false, cursor)
  | some rest => skipOpen 1 rest

def resynchronizeAt : (depth : Nat) → TokenCursor → TokenCursor
  | _, [] => []
  | depth, token :: rest =>
      if token = .punctuation '\x7b' then resynchronizeAt (depth + 1) rest
      else if token = .punctuation '\x7d' then
        if depth = 0 then token :: rest else resynchronizeAt (depth - 1) rest
      else if depth = 0 ∧ token = .punctuation ';' then rest
      else if depth = 0 ∧ token = .identifier "rpc".toList then token :: rest
      else resynchronizeAt depth rest

def resynchronize : TokenCursor → TokenCursor := resynchronizeAt 0

def atEnd (cursor : TokenCursor) : Bool := cursor.isEmpty || isPunctuation '\x7d' cursor

structure BindingBlock where
  verbs : List (HttpVerb × JsString)
  additional : List ProtoHttpBinding
  body : ProtoBodyPresence
  bodyField : Option JsString

def BindingBlock.empty : BindingBlock := ⟨[], [], .absent, none⟩

/-- The bindings of a block that was read to its end; `none` is `MALFORMED`. -/
def BindingBlock.bindings (block : BindingBlock) (kind : ProtoBindingKind) :
    Option (List ProtoHttpBinding) :=
  if block.verbs.length = 0 ∧ block.additional.length = 0 then none
  else
    let primary := block.verbs.map fun entry =>
      { kind, method := entry.1, routeTemplate := entry.2, body := block.body,
        bodyField := block.bodyField }
    let bindings := primary ++ block.additional
    if protoMaxBindingsPerRpc < bindings.length then none else some bindings

def readEntryValue (key : JsString) (block : BindingBlock) :
    TokenCursor → Option BindingBlock × TokenCursor
  | .string value :: cursor =>
      match httpVerb key with
      | some verb =>
          match safeRouteTemplate value with
          | none => (none, cursor)
          | some routeTemplate =>
              (some { block with verbs := block.verbs ++ [(verb, routeTemplate)] }, cursor)
      | none =>
          if key ≠ "body".toList then (some block, cursor)
          else if value = "*".toList then
            (some { block with body := .wildcard, bodyField := none }, cursor)
          else if isSafeBodyField value then
            (some { block with body := .present, bodyField := some value }, cursor)
          else (none, cursor)
  | cursor => (none, cursor)

/-- One turn of the loop over a binding block; `nested` reads the block of an additional
binding. -/
def readEntry (nested : TokenCursor → Option (List ProtoHttpBinding) × TokenCursor)
    (block : BindingBlock) (cursor : TokenCursor) : Option BindingBlock × TokenCursor :=
  if isPunctuation ',' cursor || isPunctuation ';' cursor then (some block, cursor.tail)
  else
    match takeIdentifier cursor with
    | (none, cursor) => (none, cursor)
    | (some key, cursor) =>
        if key = "additional_bindings".toList then
          let cursor := skipPunctuation ':' cursor
          if !isPunctuation '\x7b' cursor then (none, cursor)
          else
            match nested cursor with
            | (none, cursor) => (none, cursor)
            | (some bindings, cursor) =>
                (some { block with additional := block.additional ++ bindings }, cursor)
        else if (httpVerb key).isNone && decide (key ∉ knownNonVerbKeys) then (none, cursor)
        else
          match takePunctuation ':' cursor with
          | some cursor => readEntryValue key block cursor
          | none =>
              if key = "custom".toList ∧ isPunctuation '\x7b' cursor then
                match skipBlock cursor with
                | (false, cursor) => (none, cursor)
                | (true, cursor) => (some block, cursor)
              else (none, cursor)

def entryTurn (nested : TokenCursor → Option (List ProtoHttpBinding) × TokenCursor) :
    BindingBlock × TokenCursor →
      Turn (BindingBlock × TokenCursor) (Option BindingBlock × TokenCursor)
  | (block, cursor) =>
      if atEnd cursor then .done (some block, cursor)
      else
        match readEntry nested block cursor with
        | (none, cursor) => .done (none, cursor)
        | (some block, cursor) => .again (block, cursor)

/-- `levels` counts down as the depth of the source counts up: at none left the depth is over
four. -/
def readBindingBlock : (levels : Nat) → ProtoBindingKind → TokenCursor →
    Option (List ProtoHttpBinding) × TokenCursor
  | 0, _, cursor => (none, cursor)
  | levels + 1, kind, cursor =>
      match takePunctuation '\x7b' cursor with
      | none => (none, cursor)
      | some cursor =>
          match (loop (entryTurn (readBindingBlock levels .additional)) (cursor.length + 1)
              (BindingBlock.empty, cursor)).getD (none, cursor) with
          | (none, cursor) => (none, cursor)
          | (some block, cursor) =>
              match takePunctuation '\x7d' cursor with
              | none => (none, cursor)
              | some cursor => (block.bindings kind, cursor)

structure RpcBodyParse where
  state : ProtoHttpBindingState
  bindings : List ProtoHttpBinding
  wellFormed : Bool

def RpcBodyParse.malformed : RpcBodyParse := ⟨.malformed, [], false⟩

structure RpcBody where
  state : ProtoHttpBindingState
  bindings : List ProtoHttpBinding
  sawUnsupportedOption : Bool

def RpcBody.empty : RpcBody := ⟨.absent, [], false⟩

def skipSuffixes : TokenCursor → TokenCursor
  | .punctuation '.' :: .identifier _ :: rest => skipSuffixes rest
  | .punctuation '.' :: rest => skipSuffixes rest
  | cursor => cursor

def readOptionName (cursor : TokenCursor) : Option JsString × TokenCursor :=
  match takePunctuation '(' cursor with
  | none => takeIdentifier cursor
  | some cursor =>
      match takeIdentifier cursor with
      | (none, cursor) => (none, cursor)
      | (some name, cursor) =>
          match takePunctuation ')' cursor with
          | none => (none, cursor)
          | some cursor => (some name, skipSuffixes cursor)

/-- An option after its `=`. -/
def readOptionValue (optionName : JsString) (body : RpcBody) (cursor : TokenCursor) :
    Option RpcBody × TokenCursor :=
  if optionName ≠ httpOptionName then
    let body := { body with sawUnsupportedOption := true }
    if isPunctuation '\x7b' cursor then
      match skipBlock cursor with
      | (false, cursor) => (none, cursor)
      | (true, cursor) => (some body, skipPunctuation ';' cursor)
    else (some body, skipPunctuation ';' cursor.tail)
  else if !isPunctuation '\x7b' cursor then (none, cursor)
  else
    match readBindingBlock 5 .primary cursor with
    | (none, cursor) => (none, skipPunctuation ';' cursor)
    | (some parsed, cursor) =>
        let bindings := body.bindings ++ parsed
        (some { body with
          state := if 1 < bindings.length then .ambiguous else .proven
          bindings }, skipPunctuation ';' cursor)

/-- One turn of the loop over an rpc body; `none` is the return of `MALFORMED`. -/
def readRpcEntry (body : RpcBody) (cursor : TokenCursor) : Option RpcBody × TokenCursor :=
  if !isIdentifier "option" cursor then
    if isPunctuation '\x7b' cursor then
      match skipBlock cursor with
      | (false, cursor) => (none, cursor)
      | (true, cursor) => (some body, cursor)
    else (some body, cursor.tail)
  else
    match readOptionName cursor.tail with
    | (none, cursor) => (none, cursor)
    | (some optionName, cursor) =>
        match takePunctuation '=' cursor with
        | none => (none, cursor)
        | some cursor => readOptionValue optionName body cursor

def rpcBodyTurn : RpcBody × TokenCursor →
    Turn (RpcBody × TokenCursor) (Option RpcBody × TokenCursor)
  | (body, cursor) =>
      if atEnd cursor then .done (some body, cursor)
      else
        match readRpcEntry body cursor with
        | (none, cursor) => .done (none, cursor)
        | (some body, cursor) => .again (body, cursor)

def RpcBody.parse (body : RpcBody) : RpcBodyParse :=
  if body.state = .absent && body.sawUnsupportedOption then ⟨.unsupportedOption, [], true⟩
  else ⟨body.state, body.bindings, true⟩

def readRpcBody (cursor : TokenCursor) : RpcBodyParse × TokenCursor :=
  match takePunctuation '\x7b' cursor with
  | none => (⟨.absent, [], false⟩, cursor)
  | some cursor =>
      match (loop rpcBodyTurn (cursor.length + 1) (RpcBody.empty, cursor)).getD (none, cursor) with
      | (none, cursor) => (.malformed, cursor)
      | (some body, cursor) =>
          match takePunctuation '\x7d' cursor with
          | none => (.malformed, cursor)
          | some cursor => (body.parse, cursor)

structure MessageReference where
  streaming : Bool
  message : JsString

def readMessageReference (cursor : TokenCursor) : Option MessageReference × TokenCursor :=
  let streaming := isIdentifier "stream" cursor && (takeIdentifier cursor.tail).1.isSome
  match takeIdentifier (if streaming then cursor.tail else cursor) with
  | (none, cursor) => (none, cursor)
  | (some message, cursor) =>
      if isSafeQualified message then (some ⟨streaming, message⟩, cursor) else (none, cursor)

structure ReaderState where
  malformedDeclarations : Nat
  droppedByCeiling : Nat
  ceilingReason : Option ProtoIncompletenessReason

def ReaderState.malformed (state : ReaderState) : ReaderState :=
  { state with malformedDeclarations := state.malformedDeclarations + 1 }

def ReaderState.dropped (state : ReaderState) (reason : ProtoIncompletenessReason) : ReaderState :=
  { state with
    droppedByCeiling := state.droppedByCeiling + 1
    ceilingReason := some reason }

structure RpcHeader where
  rpcName : JsString
  request : MessageReference
  response : MessageReference

def readRpcName (cursor : TokenCursor) : Option JsString × TokenCursor :=
  match takeIdentifier cursor with
  | (none, cursor) => (none, cursor)
  | (some rpcName, cursor) =>
      if !isSafeIdentifier rpcName then (none, cursor)
      else
        match takePunctuation '(' cursor with
        | none => (none, cursor)
        | some cursor => (some rpcName, cursor)

def readClosedReference (cursor : TokenCursor) : Option MessageReference × TokenCursor :=
  match readMessageReference cursor with
  | (none, cursor) => (none, cursor)
  | (some reference, cursor) =>
      match takePunctuation ')' cursor with
      | none => (none, cursor)
      | some cursor => (some reference, cursor)

def readRpcHeader (cursor : TokenCursor) : Option RpcHeader × TokenCursor :=
  match readRpcName cursor with
  | (none, cursor) => (none, cursor)
  | (some rpcName, cursor) =>
      match readClosedReference cursor with
      | (none, cursor) => (none, cursor)
      | (some request, cursor) =>
          if !isIdentifier "returns" cursor then (none, cursor)
          else
            match takePunctuation '(' cursor.tail with
            | none => (none, cursor.tail)
            | some cursor =>
                match readClosedReference cursor with
                | (none, cursor) => (none, cursor)
                | (some response, cursor) => (some ⟨rpcName, request, response⟩, cursor)

def readRpcRest (cursor : TokenCursor) : Option RpcBodyParse × TokenCursor :=
  if isPunctuation '\x7b' cursor then
    let (body, cursor) := readRpcBody cursor
    (some body, cursor)
  else
    match takePunctuation ';' cursor with
    | none => (none, cursor)
    | some cursor => (some ⟨.absent, [], true⟩, cursor)

def canonicalService (packageName : Option JsString) (serviceName : JsString) : JsString :=
  match packageName with
  | none => serviceName
  | some package => package ++ '.' :: serviceName

def rpcFact (packageName : Option JsString) (serviceName : JsString) (header : RpcHeader)
    (body : RpcBodyParse) : ProtoRpcFact where
  package := packageName
  serviceName
  rpcName := header.rpcName
  canonicalIdentity := canonicalService packageName serviceName ++ '/' :: header.rpcName
  requestMessage := header.request.message
  responseMessage := header.response.message
  clientStreaming := header.request.streaming
  serverStreaming := header.response.streaming
  streamingClass := streamingClass header.request.streaming header.response.streaming
  httpBindingState := body.state
  bindings := body.bindings

structure ServiceRead where
  rpcs : List ProtoRpcFact
  state : ReaderState

def ServiceRead.malformed (read : ServiceRead) : ServiceRead :=
  { read with state := read.state.malformed }

def ServiceRead.add (read : ServiceRead) (fact : ProtoRpcFact) : ServiceRead :=
  if protoMaxRpcsPerService ≤ read.rpcs.length then
    { read with state := read.state.dropped .rpcCeilingReached }
  else { read with rpcs := read.rpcs ++ [fact] }

def readRpc (packageName : Option JsString) (serviceName : JsString) (read : ServiceRead)
    (cursor : TokenCursor) : ServiceRead × TokenCursor :=
  match readRpcHeader cursor with
  | (none, cursor) => (read.malformed, resynchronize cursor)
  | (some header, cursor) =>
      match readRpcRest cursor with
      | (none, cursor) => (read.malformed, resynchronize cursor)
      | (some body, cursor) =>
          let broken := !body.wellFormed && decide (body.state = .malformed)
          let read := if broken then read.malformed else read
          (read.add (rpcFact packageName serviceName header body), cursor)

def skipToValueEnd : TokenCursor → TokenCursor
  | [] => []
  | token :: rest =>
      if token = .punctuation ';' ∨ token = .punctuation '\x7b' then token :: rest
      else skipToValueEnd rest

/-- An option of a service after its keyword. A block that never closes leaves the cursor at the
end, where the loop stops. -/
def skipServiceOption (read : ServiceRead) (cursor : TokenCursor) : ServiceRead × TokenCursor :=
  let cursor := skipToValueEnd cursor
  if isPunctuation '\x7b' cursor then
    match skipBlock cursor with
    | (false, cursor) => (read.malformed, cursor)
    | (true, cursor) => (read, skipPunctuation ';' cursor)
  else (read, skipPunctuation ';' cursor)

def memberTurn (packageName : Option JsString) (serviceName : JsString) :
    ServiceRead × TokenCursor → Turn (ServiceRead × TokenCursor) (ServiceRead × TokenCursor)
  | (read, cursor) =>
      if atEnd cursor then .done (read, cursor)
      else if isIdentifier "option" cursor then .again (skipServiceOption read cursor.tail)
      else if !isIdentifier "rpc" cursor then .again (read, cursor.tail)
      else .again (readRpc packageName serviceName read cursor.tail)

def readServiceName (cursor : TokenCursor) : Option JsString × TokenCursor :=
  match takeIdentifier cursor with
  | (none, cursor) => (none, cursor)
  | (some serviceName, cursor) =>
      if !isSafeIdentifier serviceName then (none, cursor)
      else
        match takePunctuation '\x7b' cursor with
        | none => (none, cursor)
        | some cursor => (some serviceName, cursor)

def readService (packageName : Option JsString) (state : ReaderState) (cursor : TokenCursor) :
    Option ProtoServiceFact × ReaderState × TokenCursor :=
  match readServiceName cursor with
  | (none, cursor) => (none, state.malformed, resynchronize cursor)
  | (some serviceName, cursor) =>
      let (read, cursor) :=
        (loop (memberTurn packageName serviceName) (cursor.length + 1) (⟨[], state⟩, cursor)).getD
          (⟨[], state⟩, cursor)
      let fact :=
        { package := packageName, serviceName,
          canonicalIdentity := canonicalService packageName serviceName, rpcs := read.rpcs }
      match takePunctuation '\x7d' cursor with
      | none => (some fact, read.state.malformed, cursor)
      | some cursor => (some fact, read.state, cursor)

structure FileRead where
  packageName : Option JsString
  services : List ProtoServiceFact
  messageNames : List JsString
  state : ReaderState

def FileRead.start : FileRead := ⟨none, [], [], ⟨0, 0, none⟩⟩

def FileRead.malformed (read : FileRead) : FileRead := { read with state := read.state.malformed }

def readPackage (read : FileRead) (cursor : TokenCursor) : FileRead × TokenCursor :=
  let (value, cursor) := takeIdentifier cursor
  ({ read with packageName := value.filter isSafeQualified }, skipPunctuation ';' cursor)

def readFileService (read : FileRead) (cursor : TokenCursor) : FileRead × TokenCursor :=
  if protoMaxServices ≤ read.services.length then
    ({ read with state := read.state.dropped .serviceCeilingReached },
      (skipBlock (takeIdentifier cursor).2).2)
  else
    match readService read.packageName read.state cursor with
    | (none, state, cursor) => ({ read with state }, cursor)
    | (some service, state, cursor) =>
        ({ read with services := read.services ++ [service], state }, cursor)

def FileRead.addMessage (read : FileRead) (name : JsString) : FileRead :=
  if protoMaxMessages ≤ read.messageNames.length then
    { read with state := read.state.dropped .messageCeilingReached }
  else { read with messageNames := read.messageNames ++ [name] }

def skipFileBlock (read : FileRead) (cursor : TokenCursor) : FileRead × TokenCursor :=
  match skipBlock cursor with
  | (true, cursor) => (read, cursor)
  | (false, cursor) => (read.malformed, cursor)

def readMessage (isMessage : Bool) (read : FileRead) (cursor : TokenCursor) :
    FileRead × TokenCursor :=
  let (name, cursor) := takeIdentifier cursor
  let read :=
    match name.filter isSafeIdentifier with
    | some name => if isMessage then read.addMessage name else read
    | none => read
  if isPunctuation '\x7b' cursor then skipFileBlock read cursor else (read, cursor)

def declarationTurn : FileRead × TokenCursor → Turn (FileRead × TokenCursor) FileRead
  | (read, cursor) =>
      if cursor.isEmpty then .done read
      else if isIdentifier "package" cursor then .again (readPackage read cursor.tail)
      else if isIdentifier "service" cursor then .again (readFileService read cursor.tail)
      else if isIdentifier "message" cursor || isIdentifier "enum" cursor then
        .again (readMessage (isIdentifier "message" cursor) read cursor.tail)
      else if isPunctuation '\x7b' cursor then .again (skipFileBlock read cursor)
      else .again (read, cursor.tail)

def countClass (rpcs : List ProtoRpcFact) (streamingClass : ProtoStreamingClass) : Nat :=
  (rpcs.filter fun rpc => rpc.streamingClass = streamingClass).length

/-- The facts that `readProtoDeclarations` returns when its loop is over. -/
def FileRead.facts (read : FileRead) (lexed : ProtoLexResult) : ProtoFileFacts :=
  let lexReason := lexStateReason lexed.state
  let rpcs := read.services.flatMap ProtoServiceFact.rpcs
  let malformedReason : Option ProtoIncompletenessReason :=
    if 0 < read.state.malformedDeclarations then some .malformedDeclaration else none
  let reason := (lexReason.or read.state.ceilingReason).or malformedReason
  { package := read.packageName
    services := read.services
    messageNames := read.messageNames
    completeness := {
      state := if reason = none then .complete else if lexReason ≠ none then .unknown else .truncated
      reason
      malformedDeclarations := read.state.malformedDeclarations
      droppedByCeiling := read.state.droppedByCeiling }
    counters := {
      services := read.services.length
      rpcs := rpcs.length
      messages := read.messageNames.length
      httpBindings := (rpcs.map fun rpc => rpc.bindings.length).sum
      unary := countClass rpcs .unary
      clientStreaming := countClass rpcs .clientStreaming
      serverStreaming := countClass rpcs .serverStreaming
      bidirectional := countClass rpcs .bidirectional
      tokens := lexed.tokenCount
      commentsDiscarded := lexed.commentsDiscarded } }

def readFile (tokens : TokenCursor) : FileRead :=
  (loop declarationTurn (tokens.length + 1) (FileRead.start, tokens)).getD FileRead.start

def readProtoDeclarations (sourceText : List Char) (options : ProtoLexOptions) : ProtoFileFacts :=
  let lexed := lexProto sourceText options
  (readFile lexed.tokens).facts lexed

end NightWatch.Source.ProtoDeclarations
