import Workbench.Formula.Braces

/-! Calling values: methods, types, and functions that formulas define. -/

set_option autoImplicit false

namespace Workbench.Formula

open Text (Codes)

def calleeText : Value → Eval String
  | .function place => do
    match ← objectAt? place with
    | some (.function definition) => return definition.title ++ "()"
    | _ => return "<lambda>()"
  | .method (.type type) word => return type ++ "." ++ word ++ "()"
  | .method owner word => return owner.typeName ++ "." ++ word ++ "()"
  | .type word => return word ++ "()"
  | value => written value

def isInstance (type : String) (value : Value) : Bool := (ancestry value.typeName).contains type

def sliceSpan (length start stop step : Value) : Eval Value := do
  let length ← match length.integer? with
    | some n => pure n
    | none => throw (.notIndex length.typeName)
  if length < 0 then throw .negativeSpan
  let step := (← boundOf step).getD 1
  if step == 0 then throw .zeroStep
  let low : Int := if 0 < step then 0 else -1
  let high : Int := if 0 < step then length else length - 1
  let start := ((← boundOf start).map (clamp length.toNat low high)).getD (if 0 < step then low else high)
  let stop := ((← boundOf stop).map (clamp length.toNat low high)).getD (if 0 < step then high else low)
  return .tuple [.int start, .int stop, .int step]

def callGenerator (machine : Machine) (place : Nat) (word : String) (passed : Passed) : Eval Value := do
  let title : Passed.Title := ⟨"generator", word⟩
  match word with
  | "close" =>
    passed.nothing title
    match ← objectAt? place with
    | some (.generator state) => replace place (.generator { state with active := [] })
    | _ => pure ()
    return .nothing
  | _ =>
    let _ ← passed.single title
    match ← next machine stepLimit (.generator place) with
    | some item => return item
    | none => throw .exhausted

def callBound (machine : Machine) (owner : Value) (word : String) (passed : Passed) : Eval Value :=
  if (methodsOf owner.typeName).contains word then
    match owner with
    | .text codes =>
      if word == "format" then Braces.format codes passed
      else if word == "format_map" then Braces.formatMap codes passed
      else TextMethod.call machine codes word passed
    | .bytes codes => BytesMethod.call machine codes word passed
    | .float x => NumberMethod.callFloat x word passed
    | .complex z => NumberMethod.callComplex z word passed
    | .tuple items => SequenceMethod.callTuple items word passed
    | .list place => SequenceMethod.callList machine place word passed
    | .set place => CollectionMethod.callSet machine place word passed
    | .mapping place => CollectionMethod.callMapping machine place word passed
    | .generator place => callGenerator machine place word passed
    | .slice start stop step => do
      sliceSpan (← passed.single ⟨"slice", word⟩) start stop step
    | .view view place => do
      let other ← passed.single ⟨owner.typeName, word⟩
      let others ← itemsOf machine .notIterable other
      let keys := view.items (← mappingAt place)
      return .truth !(others.any fun other => keys.any fun key => key.same other)
    | owner => NumberMethod.callInteger machine (owner.integer?.getD 0) word passed
  else OperatorMethod.call machine owner word passed

def emptyOf : String → Value
  | "str" => .text []
  | "bytes" => .bytes []
  | "float" => .float 0.0
  | "dict" => .mapping 0
  | _ => .int 0

/-- Calls a method that was asked of a type: the first argument is the owner. -/
def callUnbound (machine : Machine) (type word : String) (passed : Passed) : Eval Value :=
  if Value.typeMethods.contains word then callBound machine (emptyOf type) word passed
  else
    match passed.positional with
    | [] => throw (.noOwner type word)
    | owner :: rest =>
      if isInstance type owner then callBound machine owner word { passed with positional := rest }
      else throw (.notInstance word type owner.typeName)

def complexFrom (re im : Value) : Eval Value := do
  match toComplex? re, toComplex? im with
  | some z, some w =>
    let z ← z
    let w ← w
    return .complex ⟨z.re - w.im, z.im + w.re⟩
  | none, _ => throw (.complexFirst re.typeName)
  | _, none => throw (.complexSecond im.typeName)

def bytesFrom (machine : Machine) (value : Value) : Eval Value := do
  match value, value.integer? with
  | .text _, _ => throw .textWithoutEncoding
  | _, some n =>
    if n < 0 then throw .negativeCount
    if memoryLimit ≤ n.toNat then throw .outOfMemory
    return .bytes (List.replicate n.toNat 0)
  | value, none => return .bytes (← NumberMethod.bytesArgument machine value)

def integerFrom : Value → Except Fault Value
  | .float x => OperatorMethod.wholeFloat "" x
  | .text text => do
    let (negative, digits) ← spelledInteger (.notAnInteger text) (plain text)
    return .int (if negative then -(ofDigits digits : Int) else ofDigits digits)
  | .bytes bytes => do
    let (negative, digits) ← spelledInteger (.bytesNotAnInteger bytes) bytes
    return .int (if negative then -(ofDigits digits : Int) else ofDigits digits)
  | value =>
    match value.integer? with
    | some n => pure (.int n)
    | none => throw (.notConvertible value.typeName)

def floatFrom : Value → Except Fault Value
  | .text text => floatOfText (Text.quotedCodes text) (plain text)
  | .bytes bytes => floatOfText (Text.quotedBytes bytes) bytes
  | value =>
    match value.number? with
    | some n => return .float (← toFloat n)
    | none => throw (.notFloatConvertible value.typeName)
where
  floatOfText (shown : String) (text : Codes) : Except Fault Value :=
    match spelledDouble? text with
    | some x => pure (.float x)
    | none => throw (.notAFloat shown)

def construct (machine : Machine) (type : String) (passed : Passed) : Eval Value := do
  let title : Passed.Title := ⟨type, type⟩
  let items (values : List Value) : Eval (List Value) :=
    match values with
    | [] => pure []
    | value :: _ => itemsOf machine .notIterable value
  match type with
  | "int" =>
    match ← passed.counted title 0 1 with
    | [] => return .int 0
    | value :: _ => integerFrom value
  | "float" =>
    match ← passed.between title 0 1 with
    | [] => return .float 0.0
    | value :: _ => floatFrom value
  | "complex" =>
    match ← passed.counted title 0 2 with
    | [] => return .complex ⟨0.0, 0.0⟩
    | [value] => complexFrom value (.int 0)
    | re :: im :: _ => complexFrom re im
  | "bool" =>
    match ← passed.between title 0 1 with
    | [] => return .truth false
    | value :: _ => return .truth (← isTrue value)
  | "str" =>
    match ← passed.counted title 0 3 with
    | [] => return .text []
    | [value] => return .text (← shown value)
    | value :: rest =>
      match value with
      | .bytes bytes => BytesMethod.call machine bytes "decode" ⟨rest, []⟩
      | .text _ => throw .decodingText
      | value => throw (.decodingOther value.typeName)
  | "bytes" =>
    match ← passed.counted title 0 3 with
    | [] => return .bytes []
    | [value] => bytesFrom machine value
    | value :: rest =>
      match value with
      | .text codes => TextMethod.call machine codes "encode" ⟨rest, []⟩
      | _ => throw .encodingOther
  | "tuple" => return .tuple (← items (← passed.between title 0 1))
  | "list" => newList (← items (← passed.between title 0 1))
  | "set" =>
    match ← passed.between title 0 1 with
    | [] => newSet {}
    | value :: _ => newSet (← CollectionMethod.unitedWith machine {} [value])
  | "dict" =>
    let place ← allocate (.mapping [])
    if 1 < passed.count then throw (.misuse (.expected type (.atMost 1) passed.count))
    let _ ← CollectionMethod.callMapping machine place "update" passed
    return .mapping place
  | "slice" =>
    match ← passed.between title 1 3 with
    | [stop] => return .slice .nothing stop .nothing
    | [start, stop] => return .slice start stop .nothing
    | start :: stop :: step :: _ => return .slice start stop step
    | [] => return .nothing
  | "type" =>
    match passed.positional with
    | [value] => return .type value.typeName
    | _ => throw .typeArguments
  | "NoneType" =>
    if passed.count + passed.named.length != 0 then throw (.takesNoArguments type)
    return .nothing
  | "ellipsis" =>
    if passed.count + passed.named.length != 0 then throw (.takesNoArguments "EllipsisType")
    return .ellipsis
  | "NotImplementedType" =>
    if passed.count + passed.named.length != 0 then throw (.takesNoArguments type)
    return .unsupported
  | type => throw (.notConstructible type)

def Function.names (definition : Function) : List String :=
  definition.signature.parameters.map Parameter.word ++ definition.signature.others.toList ++
    definition.signature.othersNamed.toList ++ (definition.body.given? {}).getD []

/-- Calls a value. The body of a function is evaluated by `here`, and everything that a method calls by
the machine. -/
def applyValue (here : Scope → Formula → Eval Value) (machine : Machine) (callee : Value)
    (passed : Passed) : Eval Value :=
  match callee with
  | .function place => do
    match ← objectAt? place with
    | some (.function definition) =>
      let bound ← definition.signature.bound definition.title passed
      let frame ← allocate (.frame bound)
      here (⟨definition.names, frame, false, definition.title ++ ".<locals>."⟩ :: definition.scope)
        definition.body
    | _ => throw (.notCallable callee.typeName)
  | .method (.type type) word => callUnbound machine type word passed
  | .method owner word => callBound machine owner word passed
  | .type type => construct machine type passed
  | callee => throw (.notCallable callee.typeName)

end Workbench.Formula
