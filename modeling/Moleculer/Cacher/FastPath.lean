import Moleculer.Cacher.Keygen

/-! The way for a single key through the generator of cache keys is only a shorter one. -/

namespace Moleculer.Cacher

open Base

namespace KeyOptions

variable {ν : Type} (opts : KeyOptions ν)

/-- The generator without its shorter way for a single key, for a list of keys that is not empty. -/
def generalKeygen (action : Text) (keys : List Text) (ctx : KeyContext ν) : Text :=
  if opts.truthy ctx.params || opts.truthy ctx.metaData || opts.truthy ctx.headers then
    action ++ .ascii ":" ++ opts.hashedKey (keys.zipIdx.foldl (fun text (key, i) =>
      text ++ (if i ≠ 0 then Text.ascii "|" else []) ++
        opts.valueKey (opts.getParamMetaValue key ctx)) [])
  else action

variable {opts}

theorem hashedKey_of_le {max : Nat} (limit : opts.maxParamsLength = some max) {key : Text}
    (short : key.length ≤ max) : opts.hashedKey key = key := by
  simp [hashedKey, limit, short]

theorem length_hashedKey_le (digest : ∀ key, (opts.digest key).length = 44) {max : Nat}
    (limit : opts.maxParamsLength = some max) (enough : 44 ≤ max) (key : Text) :
    (opts.hashedKey key).length ≤ max := by
  simp only [hashedKey, limit]
  split
  · rename_i kept
    omega
  · split
    · rw [digest]
      exact enough
    · rw [List.length_append, List.length_take, digest]
      omega

theorem hashedKey_idempotent (digest : ∀ key, (opts.digest key).length = 44) (key : Text) :
    opts.hashedKey (opts.hashedKey key) = opts.hashedKey key := by
  cases limit : opts.maxParamsLength with
  | none => simp [hashedKey, limit]
  | some max =>
    by_cases enough : 44 ≤ max
    · exact hashedKey_of_le limit (length_hashedKey_le digest limit enough key)
    · simp [hashedKey, limit, not_le.mp enough]

theorem hashedKey_valueKey (digest : ∀ key, (opts.digest key).length = 44)
    (value : Option (Json ν)) :
    opts.hashedKey (opts.valueKey value) = opts.hashedKey (opts.generateKey value) := by
  unfold valueKey
  split
  · exact hashedKey_idempotent digest _
  · exact hashedKey_idempotent digest _
  · rfl

/-- The shorter way gives the key of the general one, which is taken for more keys. Hashing twice is
hashing once, and a hashed key is not longer than allowed. -/
theorem fast_path_general (opts : KeyOptions ν)
    (digest : ∀ key, (opts.digest key).length = 44) :
    (∀ action first second rest ctx,
      opts.defaultKeygen action (some (first :: second :: rest)) ctx =
        opts.generalKeygen action (first :: second :: rest) ctx) ∧
    (∀ action key ctx,
      opts.defaultKeygen action (some [key]) ctx = opts.generalKeygen action [key] ctx) ∧
    ∀ key, opts.hashedKey (opts.hashedKey key) = opts.hashedKey key ∧
      ∀ max, opts.maxParamsLength = some max → 44 ≤ max → (opts.hashedKey key).length ≤ max := by
  refine ⟨fun _ _ _ _ _ => rfl, fun action key ctx => ?_, fun key => ⟨?_, ?_⟩⟩
  · simp [defaultKeygen, generalKeygen, hashedKey_valueKey digest]
  · exact hashedKey_idempotent digest key
  · exact fun max limit enough => length_hashedKey_le digest limit enough key

/-- A key of a hundred units, for at most sixty. -/
theorem fast_path_general_sixty :
    let opts : KeyOptions Empty :=
      { maxParamsLength := some 60, printNumber := Empty.elim, falsy := Empty.elim
        digest := fun _ => List.replicate 44 65, get := fun _ _ => none }
    opts.hashedKey (opts.hashedKey (List.replicate 100 97)) =
      opts.hashedKey (List.replicate 100 97) :=
  ((fast_path_general
    { maxParamsLength := some 60, printNumber := Empty.elim, falsy := Empty.elim
      digest := fun _ => List.replicate 44 65, get := fun _ _ => none }
    fun _ => List.length_replicate).2.2 (List.replicate 100 97)).1

end KeyOptions

end Moleculer.Cacher
