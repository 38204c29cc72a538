import Moleculer.Base.Json
import Moleculer.Base.Separated

/-! The default generator of cache keys. -/

namespace Moleculer.Cacher

open Base

variable {ν : Type}

/-- What a cacher uses to generate keys: its option, and what it calls of the platform and of
lodash. -/
structure KeyOptions (ν : Type) where
  maxParamsLength : Option Nat
  /-- `number.toString()`, and whether a number is falsy. -/
  printNumber : ν → Text
  falsy : ν → Bool
  /-- The digest of a long key in base64. -/
  digest : Text → Text
  /-- `_.get(object, path)`, where none is undefined. -/
  get : Json ν → Text → Option (Json ν)

/-- What the generator reads of a context, where none is undefined. -/
structure KeyContext (ν : Type) where
  params : Option (Json ν)
  metaData : Option (Json ν)
  headers : Option (Json ν)

namespace KeyOptions

variable (opts : KeyOptions ν)

mutual

/-- The text of a value of JSON. -/
def generateKeyFromObject : Json ν → Text
  | .array items => .ascii "[" ++ (Text.ascii "|").intercalate (generateItems items) ++ .ascii "]"
  | .object members => (Text.ascii "|").intercalate (generateMembers members)
  | .string value => .ascii "\"" ++ value ++ .ascii "\""
  | .bool value => .ascii (if value then "true" else "false")
  | .number value => opts.printNumber value
  | .null => .ascii "null"

/-- The texts of the items of an array. -/
def generateItems : List (Json ν) → List Text
  | [] => []
  | item :: rest => generateKeyFromObject item :: generateItems rest

/-- The texts of the members of an object. -/
def generateMembers : List (Text × Json ν) → List Text
  | [] => []
  | (key, value) :: rest =>
    (key ++ .ascii "|" ++ generateKeyFromObject value) :: generateMembers rest

end

/-- The text of a value that may be undefined. -/
def generateKey : Option (Json ν) → Text
  | some value => opts.generateKeyFromObject value
  | none => .ascii "undefined"

/-- Hash a key if it is too long. -/
def hashedKey (key : Text) : Text :=
  match opts.maxParamsLength with
  | none => key
  | some maxParamsLength =>
    if maxParamsLength = 0 ∨ maxParamsLength < 44 ∨ key.length ≤ maxParamsLength then key
    else
      let prefixLength := maxParamsLength - 44
      if prefixLength < 1 then opts.digest key else key.take prefixLength ++ opts.digest key

/-- A value that is neither null nor undefined. -/
def present : Option (Json ν) → Option (Json ν)
  | some .null => none
  | value => value

/-- The value that a key selects from the params, or from the meta data or the headers. -/
def getParamMetaValue (key : Text) (ctx : KeyContext ν) : Option (Json ν) :=
  if key.head? = some 35 ∧ (present ctx.metaData).isSome then
    (present ctx.metaData).bind fun metaData => opts.get metaData (key.drop 1)
  else if key.head? = some 64 ∧ (present ctx.headers).isSome then
    (present ctx.headers).bind fun headers => opts.get headers (key.drop 1)
  else (present ctx.params).bind fun params => opts.get params key

/-- Whether a value counts as true. -/
def truthy : Option (Json ν) → Bool
  | none | some .null => false
  | some (.bool value) => value
  | some (.number value) => !opts.falsy value
  | some (.string value) => !value.isEmpty
  | some (.array _) | some (.object _) => true

/-- Collections are hashed by themselves. -/
def valueKey : Option (Json ν) → Text
  | some (.array items) => opts.hashedKey (opts.generateKey (some (.array items)))
  | some (.object members) => opts.hashedKey (opts.generateKey (some (.object members)))
  | value => opts.generateKey value

/-- The key for the contents of a context in the cache of an action. -/
def defaultKeygen (action : Text) (keys : Option (List Text)) (ctx : KeyContext ν) : Text :=
  if opts.truthy ctx.params || opts.truthy ctx.metaData || opts.truthy ctx.headers then
    let keyPrefix := action ++ .ascii ":"
    match keys with
    | some [key] => keyPrefix ++ opts.hashedKey (opts.generateKey (opts.getParamMetaValue key ctx))
    | some [] => action
    | some keys =>
      keyPrefix ++ opts.hashedKey (keys.zipIdx.foldl (fun text (key, i) =>
        text ++ (if i ≠ 0 then Text.ascii "|" else []) ++
          opts.valueKey (opts.getParamMetaValue key ctx)) [])
    | none => keyPrefix ++ opts.hashedKey (opts.generateKey ctx.params)
  else action

/-- The values of a context that the key is made for. -/
def relevant (keys : Option (List Text)) (ctx : KeyContext ν) : List (Option (Json ν)) :=
  match keys with
  | some keys => keys.map fun key => opts.getParamMetaValue key ctx
  | none => [ctx.params]

end KeyOptions

end Moleculer.Cacher
