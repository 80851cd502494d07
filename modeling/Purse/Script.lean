import Purse.Digest
import Purse.Text.Split

/-!
# Locking scripts

A script is a spending template and the digest of the public key that may spend it. Its text is
the tag of the template, a colon and the digest.
-/

namespace Purse

inductive ScriptKind where
  | p2pkh
  | p2wpkh
  | np2wpkh
  | p2tr
  deriving DecidableEq, Inhabited

namespace ScriptKind

def all : List ScriptKind := [.p2pkh, .p2wpkh, .np2wpkh, .p2tr]

def tag : ScriptKind → String
  | .p2pkh => "p2pkh"
  | .p2wpkh => "p2wpkh"
  | .np2wpkh => "np2wpkh"
  | .p2tr => "p2tr"

def ofTag? (tag : String) : Option ScriptKind :=
  all.find? fun kind => kind.tag = tag

/-- The position in `all`. -/
def code : ScriptKind → Nat
  | .p2pkh => 0
  | .p2wpkh => 1
  | .np2wpkh => 2
  | .p2tr => 3

/-- Whether spending the kind takes witness data. -/
def isWitness : ScriptKind → Bool
  | .p2pkh => false
  | _ => true

@[simp]
theorem ofTag?_tag (kind : ScriptKind) : ofTag? kind.tag = some kind := by
  cases kind <;> decide

theorem tag_of_ofTag? {tag : String} {kind : ScriptKind} (hkind : ofTag? tag = some kind) :
    kind.tag = tag := by
  simpa using List.find?_some hkind

instance : Json.Form ScriptKind where
  toJson kind := .ofText kind.tag
  ofJson? json := json.alternative?.bind ofTag?

end ScriptKind

structure Script where
  kind : ScriptKind
  pubkeyHash : Digest
  deriving DecidableEq, Inhabited

namespace Script

/-- Why a text is no script. -/
inductive Fault where
  | noSeparator (text : String)
  | badHash (fault : Hex.Fault)
  | unknownKind (tag : String)
  deriving DecidableEq

def Fault.message : Fault → String
  | .noSeparator text => "missing ':' in script " ++ text
  | .badHash fault => "invalid pubkey hash: " ++ fault.message
  | .unknownKind tag => "unknown script kind: " ++ tag

def parseKind (tag : String) : Except Fault ScriptKind :=
  match ScriptKind.ofTag? tag with
  | none => .error (.unknownKind tag)
  | some kind => .ok kind

def toText (script : Script) : String :=
  script.kind.tag ++ ":" ++ script.pubkeyHash.toText

/-- Reads the digest first, so a fault in it hides an unknown tag. -/
def parse (text : String) : Except Fault Script :=
  match Text.splitFirst? ':' text.toList with
  | none => .error (.noSeparator text)
  | some (tag, hash) =>
      match Digest.parse (String.ofList hash) with
      | .error fault => .error (.badHash fault)
      | .ok pubkeyHash =>
          match parseKind (String.ofList tag) with
          | .error fault => .error fault
          | .ok kind => .ok ⟨kind, pubkeyHash⟩

def compare (a b : Script) : Ordering :=
  (Ord.compare a.kind.code b.kind.code).then (Digest.compare a.pubkeyHash b.pubkeyHash)

instance : Json.Form Script where
  toJson script :=
    .ofFields [("kind", Json.toJson script.kind), ("pubkey_hash", Json.toJson script.pubkeyHash)]
  ofJson? json := do
    let [kind, pubkeyHash] ← json.fields? ["kind", "pubkey_hash"] | none
    some { kind := ← Json.required? kind, pubkeyHash := ← Json.required? pubkeyHash }

end Script

end Purse
