import Purse.Keys.Chain
import Purse.Store.Error

/-!
# Account records

What an account has handed out: on each branch, the next index that is still unused. Indices above
`maxAddressIndex` are never handed out.
-/

namespace Purse

/-- Why an address could not be derived or handed out. -/
inductive DerivationError where
  | unknownAccount (account : AccountId)
  | indexExhausted (account : AccountId) (branch : Branch)
  | store (fault : StoreError)
  deriving DecidableEq

def DerivationError.message : DerivationError → String
  | .unknownAccount account => "unknown account " ++ account.toText
  | .indexExhausted account branch =>
      "account " ++ account.toText ++ " " ++ branch.name ++ " branch exhausted"
  | .store fault => fault.message

structure AccountRecord where
  /-- The kind of every address of the account. -/
  kind : ScriptKind
  nextExternal : UInt32
  nextInternal : UInt32
  deriving DecidableEq

namespace AccountRecord

def maxAddressIndex : UInt32 := 0x7FFFFFFF

/-- The record of an account that has handed out nothing. -/
def fresh (kind : ScriptKind) : AccountRecord := ⟨kind, 0, 0⟩

def nextIndex (record : AccountRecord) : Branch → UInt32
  | .external => record.nextExternal
  | .internal => record.nextInternal

/-- The record after the next index of `branch` has been handed out. -/
def advanced (record : AccountRecord) (account : AccountId) (branch : Branch) :
    Except DerivationError AccountRecord :=
  let index := record.nextIndex branch
  if index > maxAddressIndex then .error (.indexExhausted account branch)
  else
    match branch with
    | .external => .ok { record with nextExternal := index + 1 }
    | .internal => .ok { record with nextInternal := index + 1 }

instance : Json.Form AccountRecord where
  toJson record :=
    .ofFields [("kind", Json.toJson record.kind),
      ("next_external", Json.toJson record.nextExternal),
      ("next_internal", Json.toJson record.nextInternal)]
  ofJson? json := do
    let [kind, nextExternal, nextInternal] ←
      json.fields? ["kind", "next_external", "next_internal"] | none
    some {
      kind := ← Json.required? kind
      nextExternal := ← Json.required? nextExternal
      nextInternal := ← Json.required? nextInternal }

end AccountRecord

end Purse
