import Purse.Account.Id
import Purse.Keys.Pair
import Purse.Script

/-!
# Key derivation

Every key of a wallet is derived from one seed along a path of account, branch and index. The same
seed always gives the same keys.
-/

namespace Purse

structure Seed where
  bytes : FixedBytes 32
  deriving DecidableEq, Inhabited

/-- The seed as logs show it. -/
def Seed.describe (_ : Seed) : String :=
  "Seed \x7b bytes: \"[REDACTED]\" \x7d"

/-- Receive addresses are external, change addresses internal. -/
inductive Branch where
  | external
  | internal
  deriving DecidableEq, Inhabited

namespace Branch

def code : Branch → UInt8
  | .external => 0
  | .internal => 1

def name : Branch → String
  | .external => "external"
  | .internal => "internal"

/-- The name in records, which is capitalised. -/
def recordName : Branch → String
  | .external => "External"
  | .internal => "Internal"

instance : Json.Form Branch where
  toJson branch := .ofText branch.recordName
  ofJson? json :=
    json.alternative?.bind fun name =>
      [Branch.external, Branch.internal].find? fun branch => branch.recordName = name

end Branch

structure KeyPath where
  account : AccountId
  branch : Branch
  index : UInt32
  deriving DecidableEq

structure KeyChain where
  seed : Seed
  deriving DecidableEq

namespace KeyChain

def context : String := "quill-wallet-key-derivation-v1"

/-- The 41 bytes that a key is derived from. -/
def material (chain : KeyChain) (path : KeyPath) : Bytes :=
  chain.seed.bytes.toBytes ++ Bytes.ofNat 4 path.account.number.toNat ++
    path.branch.code :: Bytes.ofNat 4 path.index.toNat

def keyPair (chain : KeyChain) (path : KeyPath) : KeyPair :=
  ⟨Blake3.deriveKey context (chain.material path)⟩

/-- The script of the given kind that the key at `path` unlocks. -/
def script (chain : KeyChain) (path : KeyPath) (kind : ScriptKind) : Script :=
  ⟨kind, (chain.keyPair path).publicKey.hash⟩

/-- The chain as logs show it. -/
def describe (_ : KeyChain) : String :=
  "KeyChain \x7b .. \x7d"

end KeyChain

end Purse
