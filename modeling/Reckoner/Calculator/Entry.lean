import Reckoner.Postfix
import Reckoner.Postfix.Value
import Reckoner.Token.Scan

/-! # Entries

From the text of an entry to its value: tokens, postfix order, value. Each stage
is noted when it succeeds, and the first fault ends the work. -/

namespace Reckoner

structure Working where
  tokens : List Char
  arranged : List Char
deriving DecidableEq

def Working.none : Working := ⟨[], []⟩

namespace Calculator

def scan (text : List Char) : Journaled (List Token) := do
  let tokens ← Journaled.ofExcept ((Token.scan text).mapError .lexical)
  Journaled.note (.scanned tokens)
  return tokens

def arrange (registry : Registry) (tokens : List Token) : Journaled (List Token) := do
  let arranged ← Journaled.ofExcept (Postfix.ofTokens registry tokens)
  Journaled.note (.arranged arranged)
  return arranged

/-- The value of an entry and how it was found. White space around an entry does
not count, and nothing is noted for an entry that has nothing else. -/
def work (calculator : Calculator) (entry : List Char) : Journaled (Rat × Working) :=
  match Text.trim entry with
  | [] => .fault .emptyEntry
  | text => do
    let tokens ← scan text
    let arranged ← arrange calculator.registry tokens
    let v ← Postfix.value calculator arranged
    return (v, ⟨Token.line tokens, Token.line arranged⟩)

def evaluate (calculator : Calculator) (entry : List Char) : Journaled Rat := do
  let (v, _) ← calculator.work entry
  return v

/-- The work on an entry at the request of a host. A refusal is noted, after all
else, with the entry as the host has it. -/
def answer (calculator : Calculator) (entry : List Char) : Journaled (Rat × Working) :=
  let work := calculator.work entry
  match work.outcome with
  | .ok _ => work
  | .error fault => ⟨work.records ++ [.refused entry fault], .error fault⟩

end Calculator

end Reckoner
