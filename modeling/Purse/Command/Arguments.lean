import Purse.Account.Id
import Purse.Amount

/-!
# Command-line arguments

An option is written in full or by its letter. Its value follows it, either in the same argument or
as the next one, which then must not look like an option. Letters of options without value may share
an argument. Two dashes end the options.
-/

namespace Purse.Arguments

/-- Why the arguments stand for no command to carry out. -/
inductive Halt where
  | version
  | help
  | misuse
  deriving DecidableEq

/-- What an option is for. -/
inductive Role where
  | help
  | version
  | flag
  /-- An option that may be given once, with a value of the right form. -/
  | single (accepts : String → Bool)
  /-- An option that may be given any number of times. -/
  | repeated

structure Rule where
  name : String
  letter : Option Char
  role : Role

structure Grammar where
  rules : List Rule
  /-- The forms of the arguments that are no options. -/
  words : List (String → Bool)

/-- What was found so far: options with their values, and other arguments. -/
structure Findings where
  options : List (String × String)
  words : List String

namespace Findings

def empty : Findings := ⟨[], []⟩

def has (found : Findings) (name : String) : Bool :=
  found.options.any fun entry => entry.1 = name

/-- The values of an option, in the order in which they were given. -/
def values (found : Findings) (name : String) : List String :=
  (found.options.filter fun entry => entry.1 = name).map Prod.snd

def value? (found : Findings) (name : String) : Option String :=
  (found.values name).head?

def add (found : Findings) (name value : String) : Findings :=
  { found with options := found.options ++ [(name, value)] }

end Findings

/-- Whether an argument is no option. A single dash is none. -/
def isWord (argument : String) : Bool :=
  argument.toList.head? ≠ some '-' || argument = "-"

/-- Takes an option that has no value. -/
def takeFlag (found : Findings) (rule : Rule) : Except Halt Findings :=
  match rule.role with
  | .help => .error .help
  | .version => .error .version
  | .flag => if found.has rule.name then .error .misuse else .ok (found.add rule.name "")
  | _ => .error .misuse

/-- Takes an option with its value. -/
def takeValue (found : Findings) (rule : Rule) (value : String) : Except Halt Findings :=
  match rule.role with
  | .single accepts =>
      if found.has rule.name || !accepts value then .error .misuse
      else .ok (found.add rule.name value)
  | .repeated => .ok (found.add rule.name value)
  | _ => .error .misuse

def Rule.hasValue (rule : Rule) : Bool :=
  match rule.role with
  | .single _ => true
  | .repeated => true
  | _ => false

def Grammar.named? (grammar : Grammar) (name : String) : Option Rule :=
  grammar.rules.find? fun rule => rule.name = name

def Grammar.lettered? (grammar : Grammar) (letter : Char) : Option Rule :=
  grammar.rules.find? fun rule => rule.letter = some letter

/-- What an argument leaves to be done: nothing, or to take the next one as a value. -/
inductive Pending where
  | done (found : Findings)
  | awaits (found : Findings) (rule : Rule)

/-- Takes an option written in full, the two dashes taken off. -/
def takeNamed (grammar : Grammar) (found : Findings) (argument : List Char) :
    Except Halt Pending :=
  let name := argument.takeWhile (· ≠ '=')
  match grammar.named? (String.ofList name), argument.drop name.length with
  | none, _ => .error .misuse
  | some rule, [] =>
      if rule.hasValue then .ok (.awaits found rule) else (takeFlag found rule).map .done
  | some rule, _ :: value =>
      (takeValue found rule (String.ofList value)).map .done

/-- Takes options written by their letters, the dash taken off. -/
def takeLettered (grammar : Grammar) (found : Findings) : List Char → Except Halt Pending
  | [] => .ok (.done found)
  | letter :: rest =>
      match grammar.lettered? letter with
      | none => .error .misuse
      | some rule =>
          if rule.hasValue then
            match rest with
            | [] => .ok (.awaits found rule)
            | '=' :: value => (takeValue found rule (String.ofList value)).map .done
            | value => (takeValue found rule (String.ofList value)).map .done
          else
            match takeFlag found rule with
            | .error halt => .error halt
            | .ok found => takeLettered grammar found rest

def takeOption (grammar : Grammar) (found : Findings) (argument : String) :
    Except Halt Pending :=
  match argument.toList with
  | '-' :: '-' :: name => takeNamed grammar found name
  | '-' :: letters => takeLettered grammar found letters
  | _ => .error .misuse

/-- Takes options up to the first other argument, which it leaves with those after it. -/
def scanOptions (grammar : Grammar) (found : Findings) :
    List String → Except Halt (Findings × List String)
  | [] => .ok (found, [])
  | argument :: rest =>
      if isWord argument then .ok (found, argument :: rest)
      else
        match takeOption grammar found argument with
        | .error halt => .error halt
        | .ok (.done found) => scanOptions grammar found rest
        | .ok (.awaits found rule) =>
            match rest with
            | [] => .error .misuse
            | value :: rest =>
                if isWord value then
                  match takeValue found rule value with
                  | .error halt => .error halt
                  | .ok found => scanOptions grammar found rest
                else .error .misuse

/-- Takes an argument that is no option, if one more is expected. -/
def takeWord (grammar : Grammar) (found : Findings) (word : String) : Except Halt Findings :=
  match grammar.words[found.words.length]? with
  | none => .error .misuse
  | some accepts =>
      if accepts word then .ok { found with words := found.words ++ [word] } else .error .misuse

def takeWords (grammar : Grammar) (found : Findings) : List String → Except Halt Findings
  | [] => .ok found
  | word :: rest =>
      match takeWord grammar found word with
      | .error halt => .error halt
      | .ok found => takeWords grammar found rest

/-- Takes options and other arguments in any order. -/
def scanAll (grammar : Grammar) (found : Findings) : List String → Except Halt Findings
  | [] => .ok found
  | argument :: rest =>
      if isWord argument then
        match takeWord grammar found argument with
        | .error halt => .error halt
        | .ok found => scanAll grammar found rest
      else if argument = "--" then takeWords grammar found rest
      else
        match takeOption grammar found argument with
        | .error halt => .error halt
        | .ok (.done found) => scanAll grammar found rest
        | .ok (.awaits found rule) =>
            match rest with
            | [] => .error .misuse
            | value :: rest =>
                if isWord value then
                  match takeValue found rule value with
                  | .error halt => .error halt
                  | .ok found => scanAll grammar found rest
                else .error .misuse

end Purse.Arguments
