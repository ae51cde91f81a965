import NightWatch.Lib.JsText

namespace NightWatch.Source.EffectVocabulary

open Lib.JsText

inductive EffectKind where
  | pureRead | dataWrite | auditWrite | cacheWrite | sessionWrite | messagePublish
  | externalCall | unclassified
  deriving DecidableEq

inductive EffectKindAdmission where
  | admissible | disqualifying | failClosed
  deriving DecidableEq

/-- `EFFECT_KIND_POLICY`. -/
def EffectKind.policy : EffectKind → EffectKindAdmission
  | .pureRead => .admissible
  | .dataWrite | .auditWrite | .cacheWrite | .sessionWrite | .messagePublish | .externalCall =>
      .disqualifying
  | .unclassified => .failClosed

def entries (runs : List (EffectKind × List String)) : List (JsString × EffectKind) :=
  runs.flatMap fun run => run.2.map fun name => (name.toList, run.1)

def phpMethodEffects : List (JsString × EffectKind) :=
  entries [
    (.dataWrite, [
      "createItem", "updateItem", "deleteItem", "updatebatchWriteItem", "setItem", "setItems",
      "putItem", "batchWriteItem"]),
    (.pureRead, [
      "getItem", "listItems", "secondaryListItems", "unmarshalItem", "getScanOptions",
      "getOptions", "getDao", "getDaoClassName", "getDynamoDbClientKey", "scan"]),
    (.cacheWrite, [
      "setHash", "setHashMulti", "setHashAccount", "setHashCurAccount", "setHashTagList",
      "setHashTags", "setHashSavingsPlan", "setHashCustomService", "setHashInvoiceTotal",
      "setHashInvoiceTemplate", "setMspHash", "setUserHash", "updateUserHash",
      "setServiceListHash", "deleteHash", "deleteHashData", "deleteMspHash",
      "scanAndSetTimeOut", "hSet", "expire", "setValue"]),
    (.pureRead, [
      "getHash", "getHashMulti", "getHashInvoiceTotal", "getMspHash", "getUserHash",
      "getServiceListHash", "getValue"]),
    (.externalCall, [
      "sendEmail", "sendTemplatedEmail", "sendResellerMail", "sendNotificationMail",
      "sendResetPasswordMail", "execCurul", "execCurulWithResult", "sendIssuesCreate",
      "sendProjectV2Notification", "sendInvoiceNotification", "sendInvoiceFailureAlert",
      "sendInvoiceCreateSummaryAlert", "sendRegisterPayerAccount",
      "sendRegisterPayerSubscription", "sendRegisterPayerDataSet",
      "checkSubscriptionViaWebhookd"]),
    (.messagePublish, [
      "publish", "sendMessage", "sendBatchRequest", "sendPdfRequest"]),
    (.dataWrite, [
      "uploadFile", "putObject", "deleteObject"]),
    (.externalCall, [
      "getObject"])]

def phpFunctionEffects : List (JsString × EffectKind) :=
  entries [
    (.externalCall, [
      "curl_init", "curl_setopt", "curl_setopt_array", "curl_exec", "curl_multi_exec",
      "curl_close", "curl_getinfo", "curl_error", "curl_errno", "fsockopen",
      "stream_socket_client", "mail", "file_get_contents", "fopen"]),
    (.dataWrite, [
      "file_put_contents", "fputs", "fputcsv", "unlink", "rmdir", "mkdir", "touch", "copy",
      "chmod", "tempnam"]),
    (.sessionWrite, [
      "session_start", "session_regenerate_id", "session_destroy", "session_unset", "setcookie",
      "setrawcookie"]),
    (.auditWrite, [
      "error_log", "syslog", "openlog"]),
    (.pureRead, [
      "count", "sizeof", "strlen", "mb_strlen", "substr", "mb_substr", "strpos", "strrpos",
      "str_replace", "str_repeat", "str_pad", "str_contains", "str_starts_with",
      "str_ends_with", "strtolower", "strtoupper", "ucfirst", "trim", "ltrim", "rtrim",
      "sprintf", "number_format", "implode", "explode", "json_encode", "json_decode",
      "base64_encode", "base64_decode", "intval", "floatval", "strval", "boolval", "abs",
      "round", "floor", "ceil", "min", "max", "is_array", "is_null", "is_string", "is_numeric",
      "is_bool", "is_int", "gettype", "in_array", "array_key_exists", "array_keys",
      "array_values", "array_merge", "array_slice", "array_unique", "array_search",
      "array_flip", "array_combine", "array_column", "array_sum", "array_fill", "range",
      "compact", "date", "strtotime", "mktime", "time", "sort", "rsort", "ksort", "asort",
      "arsort", "isset", "empty", "array", "list", "unset"])]

def phpDynamicDispatchFunctions : List JsString :=
  [
    "call_user_func", "call_user_func_array", "forward_static_call",
    "forward_static_call_array", "array_map", "array_filter", "array_walk",
    "array_walk_recursive", "array_reduce", "usort", "uasort", "uksort",
    "preg_replace_callback", "preg_replace_callback_array", "iterator_apply",
    "set_error_handler", "set_exception_handler", "register_shutdown_function",
    "register_tick_function", "spl_autoload_register", "create_function", "eval", "assert",
    "extract", "include", "include_once", "require", "require_once", "function", "fn"].map String.toList

def phpDynamicDispatchMembers : List JsString :=
  [
    "__call", "__callStatic", "__get", "__set", "__isset", "__unset"].map String.toList

def phpControlConstructs : List JsString :=
  [
    "if", "elseif", "while", "for", "foreach", "switch", "match", "catch", "declare", "return",
    "yield", "throw", "clone", "echo", "print", "use", "and", "or", "xor", "not"].map String.toList

def maxEffectClosureDepth : Nat := 6

def maxEffectClosureDeclarations : Nat := 96

def maxEffectClosureCallsites : Nat := 4096

def maxEffectClosureFiles : Nat := 32

def maxEffectClosureTokens : Nat := 400000

inductive PhpCalleeScope where
  | method | function
  deriving DecidableEq

def isPhpDynamicDispatchCallee (identifier : JsString) : PhpCalleeScope → Bool
  | .function => identifier ∈ phpDynamicDispatchFunctions
  | .method => identifier ∈ phpDynamicDispatchMembers

def isPhpControlConstruct (identifier : JsString) : Bool := identifier ∈ phpControlConstructs

def phpCalleeEffectKind (identifier : JsString) (scope : PhpCalleeScope) : EffectKind :=
  let index := match scope with
    | .method => phpMethodEffects
    | .function => phpFunctionEffects
  (index.lookup identifier).getD .unclassified

end NightWatch.Source.EffectVocabulary
