import CcsTrans.Json.Access
import CcsTrans.Protocols.Registry

/-!
Rewriting rules.

A compiled rule changes the document of a request in place and says whether it did. Rules
are compiled from their definitions by the factory of their type.
-/

namespace CcsTrans.Rules

open CcsTrans.Text CcsTrans.Json CcsTrans.Config CcsTrans.Protocols

structure RuleChangeSummary where
  target : Bytes := []
  affectedCount : ℕ := 0

structure RuleApplyResult where
  matched : Bool := false
  modified : Bool := false
  reason : Bytes
  summary : RuleChangeSummary

/-- What may be thrown while a rule is applied. -/
inductive Thrown where
  | ruleRuntimeError (reason message : Bytes)
  | inflightBudgetExceeded
  | other
  deriving DecidableEq

/-- A rule leaves a document behind, also when it throws. -/
structure CompiledRule where
  id : Bytes
  type : Bytes
  apply : Value → Except Thrown RuleApplyResult × Value

/-! ### JSON pointers -/

def kMaxJsonPointerBytes : ℕ := 4096
def kMaxTraceTargetBytes : ℕ := 256

structure ParsedJsonPointer where
  traceTarget : Bytes
  tokens : List Bytes
  deriving DecidableEq

def boundedTraceTarget (pointer : Bytes) : Bytes :=
  if pointer.length ≤ kMaxTraceTargetBytes then pointer
  else str "<json-pointer:" ++ decimal pointer.length ++ str "-bytes>"

def decodePointerToken : Bytes → Except Bytes Bytes
  | [] => .ok []
  | b :: t =>
    if b ≠ ch '~' then (b :: ·) <$> decodePointerToken t
    else match t with
      | c :: r =>
        if c = ch '0' then (ch '~' :: ·) <$> decodePointerToken r
        else if c = ch '1' then (ch '/' :: ·) <$> decodePointerToken r
        else .error (str "path contains an invalid RFC 6901 escape")
      | [] => .error (str "path contains an invalid RFC 6901 escape")

/-- `parse_json_pointer`. -/
def parseJsonPointer (source : Bytes) : Except Bytes ParsedJsonPointer := do
  if source.length > kMaxJsonPointerBytes then
    throw (str "path exceeds the 4096-byte JSON Pointer limit")
  match source with
  | [] => return ⟨[], []⟩
  | b :: t =>
    if b ≠ ch '/' then throw (str "path must be an RFC 6901 JSON Pointer")
    return ⟨boundedTraceTarget source, ← (splitOn (ch '/') t).mapM decodePointerToken⟩

def arrayIndexDigits (value : ℕ) : Bytes → Except Thrown ℕ
  | [] => .ok value
  | b :: t =>
    if !isDigit b then
      .error (.ruleRuntimeError (str "invalid_array_index")
        (str "JSON Pointer contains an invalid array index"))
    else
      let digit := b.toNat - 48
      if value > (2 ^ 64 - 1 - digit) / 10 then
        .error (.ruleRuntimeError (str "invalid_array_index")
          (str "JSON Pointer array index is too large"))
      else arrayIndexDigits (value * 10 + digit) t

/-- `parse_array_index`. -/
def parseArrayIndex (token : Bytes) (size : ℕ) : Except Thrown ℕ := do
  if token = [] ∨ token = str "-" ∨ (token.length > 1 ∧ token.head? = some (ch '0')) then
    throw (.ruleRuntimeError (str "invalid_array_index")
      (str "JSON Pointer contains an invalid array index"))
  let value ← arrayIndexDigits 0 token
  if value ≥ size then
    throw (.ruleRuntimeError (str "array_index_out_of_bounds")
      (str "JSON Pointer array index is out of bounds"))
  return value

def targetMissing : Thrown :=
  .ruleRuntimeError (str "target_missing") (str "JSON Pointer target does not exist")

/-- Follow the tokens by `resolve_child` and change what they lead to. -/
def updateAt (f : Value → Except Thrown (RuleApplyResult × Value)) :
    List Bytes → Value → Except Thrown (RuleApplyResult × Value)
  | [], v => f v
  | token :: tokens, .obj ms =>
    match find token ms with
    | none => .error targetMissing
    | some child => do
      let (r, child') ← updateAt f tokens child
      return (r, .obj (replace token child' ms))
  | token :: tokens, .arr xs => do
    let i ← parseArrayIndex token xs.length
    let (r, child') ← updateAt f tokens (xs.getD i .null)
    return (r, .arr (xs.set i child'))
  | _ :: _, _ =>
    .error (.ruleRuntimeError (str "type_conflict")
      (str "JSON Pointer cannot traverse a scalar value"))

/-- A rule that throws before it changes anything. -/
def atomically (f : Value → Except Thrown (RuleApplyResult × Value)) (v : Value) :
    Except Thrown RuleApplyResult × Value :=
  match f v with
  | .ok (r, v') => (.ok r, v')
  | .error e => (.error e, v)

/-! ### The rules -/

section SetField

variable [Library]

/-- At the target: give it the value, unless it is equal already. -/
def assign (traceTarget : Bytes) (value target : Value) :
    Except Thrown (RuleApplyResult × Value) :=
  if equal target value then
    .ok (⟨true, false, str "value_unchanged", ⟨traceTarget, 0⟩⟩, target)
  else .ok (⟨true, true, str "field_set", ⟨traceTarget, 1⟩⟩, value)

/-- `SetFieldRule`. -/
def setFieldRule (id : Bytes) (pointer : ParsedJsonPointer) (value : Value) : CompiledRule where
  id := id
  type := str "set_field"
  apply := atomically (updateAt (assign pointer.traceTarget value) pointer.tokens)

end SetField

/-- At the parent of the target: remove the child of a name or an index. -/
def removeChild (traceTarget token : Bytes) : Value → Except Thrown (RuleApplyResult × Value)
  | .obj ms =>
    match find token ms with
    | none => .error targetMissing
    | some _ =>
      .ok (⟨true, true, str "field_removed", ⟨traceTarget, 1⟩⟩, .obj (Json.erase token ms))
  | .arr xs => do
    let i ← parseArrayIndex token xs.length
    return (⟨true, true, str "field_removed", ⟨traceTarget, 1⟩⟩, .arr (xs.eraseIdx i))
  | _ =>
    .error (.ruleRuntimeError (str "type_conflict")
      (str "JSON Pointer target parent is a scalar value"))

/-- `RemoveFieldRule`. -/
def removeFieldRule (id : Bytes) (pointer : ParsedJsonPointer) : CompiledRule where
  id := id
  type := str "remove_field"
  apply := atomically (updateAt
    (removeChild pointer.traceTarget (pointer.tokens.getLast?.getD [])) pointer.tokens.dropLast)

inductive ToolLayout where
  | responses
  | chat
  | messages
  deriving DecidableEq

def stringFieldEquals (ms : List (Bytes × Value)) (name expected : Bytes) : Bool :=
  match find name ms with
  | some (.str s) => s == expected
  | _ => false

def matchesTool (layout : ToolLayout) (toolName : Bytes) : Value → Bool
  | .obj ms =>
    match layout with
    | .responses =>
      stringFieldEquals ms (str "name") toolName || stringFieldEquals ms (str "namespace") toolName
    | .chat =>
      match find (str "function") ms with
      | some (.obj fs) => stringFieldEquals fs (str "name") toolName
      | _ => false
    | .messages => stringFieldEquals ms (str "name") toolName
  | _ => false

/-- The tools of a request without those of a name. -/
def removeTool (layout : ToolLayout) (toolName : Bytes) :
    Value → Except Thrown (RuleApplyResult × Value)
  | .obj ms =>
    match find (str "tools") ms with
    | none => .ok (⟨false, false, str "tools_absent", ⟨str "/tools", 0⟩⟩, .obj ms)
    | some (.arr tools) =>
      let retained := tools.filter fun t => !matchesTool layout toolName t
      let removed := (tools.filter (matchesTool layout toolName)).length
      if removed = 0 then .ok (⟨false, false, str "tool_not_found", ⟨str "/tools", 0⟩⟩, .obj ms)
      else .ok (⟨true, true, str "tool_removed", ⟨str "/tools", removed⟩⟩,
        .obj (replace (str "tools") (.arr retained) ms))
    | some _ => .ok (⟨false, false, str "tools_not_array", ⟨str "/tools", 0⟩⟩, .obj ms)
  | _ =>
    .error (.ruleRuntimeError (str "invalid_root_type")
      (str "request body must be a JSON object for remove_tool"))

/-- `RemoveToolRule`. -/
def removeToolRule (id : Bytes) (layout : ToolLayout) (toolName : Bytes) : CompiledRule where
  id := id
  type := str "remove_tool"
  apply := atomically (removeTool layout toolName)

/-! ### Factories -/

inductive RuleOptionValueType where
  | string
  | jsonValue
  | jsonPointer
  deriving DecidableEq

structure RuleOptionDescriptor where
  name : Bytes
  displayNameKey : Bytes
  valueType : RuleOptionValueType := .string
  required : Bool := false
  order : ℕ := 0

structure RuleDescriptor where
  type : Bytes
  displayNameKey : Bytes
  protocolSpecialized : Bool := false
  options : List RuleOptionDescriptor

/-- A factory may report success and give no rule. -/
structure RuleFactory where
  type : Bytes
  descriptor : RuleDescriptor
  compile : RuleDefinition → ProtocolDescriptor → Except Bytes (Option CompiledRule)

def requireJsonProtocol (protocol : ProtocolDescriptor) : Except Bytes Unit :=
  if protocol.requestBodyIsJson then .ok ()
  else .error (str "protocol " ++ protocol.id ++ str " does not declare a JSON request body")

/-- `validate_options`: the options of a rule are the required ones. -/
def validateRuleOptions (definition : RuleDefinition) (required : List Bytes) :
    Except Bytes Unit :=
  match definition.options.find? fun (k, _) => !required.contains k with
  | some (k, _) => .error (str "unsupported option: " ++ k)
  | none => match required.find? fun k => !contains k definition.options with
    | some k => .error (str "missing required option: " ++ k)
    | none => .ok ()

/-- The path option of a rule. -/
def pathOption (definition : RuleDefinition) : Except Bytes ParsedJsonPointer :=
  match find (str "path") definition.options with
  | some (.str path) => parseJsonPointer path
  | _ => .error (str "option path must be a string")

section SetField

variable [Library]

def setFieldRuleFactory : RuleFactory where
  type := str "set_field"
  descriptor := ⟨str "set_field", str "rule.set_field", false,
    [⟨str "path", str "rule.option.path", .jsonPointer, true, 0⟩,
      ⟨str "value", str "rule.option.value", .jsonValue, true, 1⟩]⟩
  compile definition protocol := do
    requireJsonProtocol protocol
    validateRuleOptions definition [str "path", str "value"]
    let pointer ← pathOption definition
    match find (str "value") definition.options with
    | some value => return some (setFieldRule definition.id pointer value)
    | none => throw (str "missing required option: value")

end SetField

def removeFieldRuleFactory : RuleFactory where
  type := str "remove_field"
  descriptor := ⟨str "remove_field", str "rule.remove_field", false,
    [⟨str "path", str "rule.option.path", .jsonPointer, true, 0⟩]⟩
  compile definition protocol := do
    requireJsonProtocol protocol
    validateRuleOptions definition [str "path"]
    let pointer ← pathOption definition
    if pointer.tokens = [] then
      throw (str "remove_field cannot remove the JSON document root")
    return some (removeFieldRule definition.id pointer)

def kMaxToolNameBytes : ℕ := 256

/-- Where the protocol keeps the name of a tool. -/
def toolLayout (protocol : ProtocolDescriptor) : Except Bytes ToolLayout :=
  if protocol.id = str "responses" then .ok .responses
  else if protocol.id = str "chat" then .ok .chat
  else if protocol.id = str "messages" then .ok .messages
  else .error (str "remove_tool has no implementation for protocol " ++ protocol.id)

def removeToolRuleFactory : RuleFactory where
  type := str "remove_tool"
  descriptor := ⟨str "remove_tool", str "rule.remove_tool", true,
    [⟨str "tool", str "rule.option.tool", .string, true, 0⟩]⟩
  compile definition protocol := do
    requireJsonProtocol protocol
    if !protocol.supportsSpecializedRule (str "remove_tool") then
      throw (str "remove_tool is not supported by protocol " ++ protocol.id)
    validateRuleOptions definition [str "tool"]
    match find (str "tool") definition.options with
    | some (.str toolName) =>
      if toolName = [] ∨ toolName.length > kMaxToolNameBytes ∨ containsControl toolName then
        throw (str "option tool must be 1 to 256 bytes without control characters")
      return some (removeToolRule definition.id (← toolLayout protocol) toolName)
    | _ => throw (str "option tool must be a string")

/-! ### The registry -/

structure RuleRegistry where
  factories : List (Bytes × RuleFactory) := []

def RuleRegistry.find (r : RuleRegistry) (type : Bytes) : Option RuleFactory :=
  Json.find type r.factories

def validDescriptorKey (value : Bytes) (maximum : ℕ) : Bool :=
  value != [] && value.length ≤ maximum &&
  value.all fun b => isLower b || isDigit b || b == ch '_' || b == ch '-' || b == ch '.'

/-- The options of a descriptor from the one of number `index` on. -/
def validateOptionDescriptors (type : Bytes) (seen : List Bytes) (index : ℕ) :
    List RuleOptionDescriptor → Except Bytes Unit
  | [] => .ok ()
  | option :: options =>
    if !validDescriptorKey option.name 64 then
      .error (str "rule descriptor has an invalid option name: " ++ type)
    else if !validDescriptorKey option.displayNameKey 128 then
      .error (str "rule descriptor has an invalid option display name key: " ++ type ++
        str "." ++ option.name)
    else if option.order ≠ index then
      .error (str "rule descriptor option order is not contiguous: " ++ type)
    else if seen.contains option.name then
      .error (str "rule descriptor has duplicate option: " ++ type ++ str "." ++ option.name)
    else validateOptionDescriptors type (option.name :: seen) (index + 1) options

def validateDescriptor (d : RuleDescriptor) (factoryType : Bytes) : Except Bytes Unit :=
  if d.type ≠ factoryType then
    .error (str "rule descriptor type does not match factory type: " ++ factoryType)
  else if !validDescriptorKey d.displayNameKey 128 then
    .error (str "rule descriptor has an invalid display name key: " ++ d.type)
  else validateOptionDescriptors d.type [] 0 d.options

/-- `RuleRegistry::register_factory`. -/
def RuleRegistry.registerFactory (r : RuleRegistry) (factory : RuleFactory) :
    Except Bytes RuleRegistry := do
  if !isValidRuleType factory.type then
    throw (str "invalid rule factory type: " ++ factory.type)
  validateDescriptor factory.descriptor factory.type
  if (r.find factory.type).isSome then
    throw (str "rule factory already registered: " ++ factory.type)
  return ⟨r.factories ++ [(factory.type, factory)]⟩

/-- `builtin_rule_registry`, or the text of its exception. -/
def builtinRuleRegistry [Library] : Except Bytes RuleRegistry := do
  let r ← ({} : RuleRegistry).registerFactory setFieldRuleFactory
  let r ← r.registerFactory removeFieldRuleFactory
  r.registerFactory removeToolRuleFactory

/-- One definition: its rule, when it is enabled. -/
def RuleRegistry.compileRule (r : RuleRegistry) (protocol : ProtocolDescriptor)
    (definition : RuleDefinition) : Except Bytes CompiledRule :=
  match r.find definition.type with
  | none => .error (str "enabled rule " ++ definition.id ++ str " has unknown type: " ++
      definition.type)
  | some factory =>
    match factory.compile definition protocol with
    | .error e => .error (str "rule " ++ definition.id ++ str " (" ++ definition.type ++
        str "): " ++ e)
    | .ok none => .error (str "rule factory returned an invalid compiled rule for: " ++
        definition.id)
    | .ok (some rule) =>
      if rule.id ≠ definition.id ∨ rule.type ≠ definition.type then
        .error (str "rule factory returned an invalid compiled rule for: " ++ definition.id)
      else .ok rule

/-- The definitions from left to right, those of the ids `seen` behind them. -/
def RuleRegistry.compileRules (r : RuleRegistry) (protocol : ProtocolDescriptor)
    (seen : List Bytes) : List RuleDefinition → Except Bytes (List CompiledRule)
  | [] => .ok []
  | definition :: definitions =>
    if !isValidRuleId definition.id then .error (str "invalid rule id: " ++ definition.id)
    else if !isValidRuleType definition.type then
      .error (str "rule " ++ definition.id ++ str " has an invalid type")
    else if seen.contains definition.id then
      .error (str "duplicate rule id: " ++ definition.id)
    else if !definition.enabled then r.compileRules protocol (definition.id :: seen) definitions
    else do
      let rule ← r.compileRule protocol definition
      return rule :: (← r.compileRules protocol (definition.id :: seen) definitions)

/-- `RuleRegistry::compile_pipeline`. -/
def RuleRegistry.compilePipeline (r : RuleRegistry) (definitions : List RuleDefinition)
    (protocol : ProtocolDescriptor) : Except Bytes (List CompiledRule) :=
  if definitions.length > kMaxRulesPerProfile then
    .error (str "rule pipeline exceeds the maximum rule count")
  else r.compileRules protocol [] definitions

end CcsTrans.Rules
