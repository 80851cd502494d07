import Purse.Command.Arguments
import Purse.Text.Decimal

/-!
# Commands

What the program can be told to do, and how the arguments tell it.
-/

namespace Purse

/-- What the author command is given. -/
structure AuthorArguments where
  account : AccountId
  payments : List String
  feeRate : Option UInt64
  strategy : Option String
  minConf : Option UInt32
  dryRun : Bool
  sign : Bool
  deriving DecidableEq

inductive Command where
  | init (kind : String) (seed : Option String)
  | address (account : AccountId) (fresh : Bool)
  | addresses (account : AccountId)
  | credit (account : AccountId) (amount : Amount)
  | tip (height : UInt64)
  | balance (account : AccountId) (minConf : Option UInt32)
  | author (arguments : AuthorArguments)
  deriving DecidableEq

structure Invocation where
  dataDir : Option String
  command : Command
  deriving DecidableEq

namespace Command

open Arguments

def word64? (text : String) : Option UInt64 :=
  match Decimal.parseUInt64 text with
  | .error _ => none
  | .ok value => some value

/-- Reads a 32-bit word. A minus sign is accepted before zero. -/
def word32? (text : String) : Option UInt32 :=
  let digits := match text.toList with
    | '-' :: rest => if rest.head? = some '+' then none else some (0, String.ofList rest)
    | _ => some (UInt32.size - 1, text)
  match digits with
  | none => none
  | some (bound, digits) =>
      match Decimal.parse bound digits with
      | .error _ => none
      | .ok value => some (UInt32.ofNat value)

def isWord64 (text : String) : Bool := (word64? text).isSome

def isWord32 (text : String) : Bool := (word32? text).isSome

def dataDirRule : Rule := ⟨"data-dir", some 'd', .single fun text => !text.isEmpty⟩
def helpRule : Rule := ⟨"help", some 'h', .help⟩
def versionRule : Rule := ⟨"version", some 'V', .version⟩
def accountRule : Rule := ⟨"account", some 'a', .single isWord32⟩
def minConfRule : Rule := ⟨"min-conf", some 'm', .single isWord32⟩

/-- The options before the name of the command. -/
def globalGrammar : Grammar := ⟨[dataDirRule, helpRule, versionRule], []⟩

/-- The grammar of a command, by its name. -/
def grammar? : String → Option Grammar
  | "init" => some ⟨[dataDirRule, helpRule, ⟨"kind", some 'k', .single fun _ => true⟩,
      ⟨"seed", some 's', .single fun _ => true⟩], []⟩
  | "address" => some ⟨[dataDirRule, helpRule, accountRule, ⟨"new", some 'n', .flag⟩], []⟩
  | "addresses" => some ⟨[dataDirRule, helpRule, accountRule], []⟩
  | "credit" => some ⟨[dataDirRule, helpRule, accountRule], [isWord64]⟩
  | "tip" => some ⟨[dataDirRule, helpRule], [isWord64]⟩
  | "balance" => some ⟨[dataDirRule, helpRule, accountRule, minConfRule], []⟩
  | "author" => some ⟨[dataDirRule, helpRule, accountRule, minConfRule,
      ⟨"to", some 't', .repeated⟩, ⟨"fee-rate", some 'f', .single isWord64⟩,
      ⟨"strategy", some 's', .single fun _ => true⟩, ⟨"dry-run", none, .flag⟩,
      ⟨"sign", none, .flag⟩], []⟩
  | _ => none

def accountOf (found : Findings) : AccountId :=
  ⟨((found.value? "account").bind word32?).getD 0⟩

def minConfOf (found : Findings) : Option UInt32 :=
  (found.value? "min-conf").bind word32?

/-- The command that the findings make up. Arguments that are required may be missing, and a signed
dry run is refused. -/
def ofFindings? (name : String) (found : Findings) : Option Command :=
  match name, found.words.map word64? with
  | "init", [] => some (.init ((found.value? "kind").getD "p2wpkh") (found.value? "seed"))
  | "address", [] => some (.address (accountOf found) (found.has "new"))
  | "addresses", [] => some (.addresses (accountOf found))
  | "credit", [some amount] => some (.credit (accountOf found) amount)
  | "tip", [some height] => some (.tip height)
  | "balance", [] => some (.balance (accountOf found) (minConfOf found))
  | "author", [] =>
      let payments := found.values "to"
      let dryRun := found.has "dry-run"
      let sign := found.has "sign"
      if payments.isEmpty || (dryRun && sign) then none
      else
        some (.author {
          account := accountOf found
          payments
          feeRate := (found.value? "fee-rate").bind word64?
          strategy := found.value? "strategy"
          minConf := minConfOf found
          dryRun
          sign })
  | _, _ => none

/-- Asks for help on a command, or on all of them. -/
def helpOn : List String → Halt
  | [] => .help
  | [name] => if (grammar? name).isSome || name = "help" then .help else .misuse
  | _ => .misuse

end Command

namespace Invocation

open Arguments

/-- Reads the arguments of the program. A data directory given after the command's name wins over
one given before it. -/
def parse (arguments : List String) : Except Halt Invocation :=
  match scanOptions Command.globalGrammar .empty arguments with
  | .error halt => .error halt
  | .ok (_, []) => .error .misuse
  | .ok (before, name :: rest) =>
      if name = "help" then .error (Command.helpOn rest)
      else
        match Command.grammar? name with
        | none => .error .misuse
        | some grammar =>
            match scanAll grammar .empty rest with
            | .error halt => .error halt
            | .ok after =>
                match Command.ofFindings? name after with
                | none => .error .misuse
                | some command =>
                    .ok ⟨(after.value? "data-dir").or (before.value? "data-dir"), command⟩

end Invocation

end Purse
