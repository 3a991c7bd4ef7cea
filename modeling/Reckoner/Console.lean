import Reckoner.Calculator.Entry

/-! # The console

A conversation by lines: one entry a line, one reply an entry. The conversation
ends with the input, at a word that asks for it, or at a line that is no text. It
keeps no state, so a reply depends on its own line alone. Reading and writing are
not done here.

Input comes as bytes, cut into lines after each line feed. A line is only text if all of
it is well-formed UTF-8. -/

namespace Reckoner.Text

def lineFeed : UInt8 := 10

/-- The lines of a sequence of bytes, each with the line feed that ends it. Bytes
after the last line feed are a line of their own. -/
def lines : List UInt8 → List (List UInt8)
  | [] => []
  | byte :: bytes =>
    if byte = lineFeed then
      [byte] :: lines bytes
    else
      match lines bytes with
      | [] => [[byte]]
      | line :: rest => (byte :: line) :: rest

def decode? (bytes : List UInt8) : Option (List Char) :=
  (String.fromUTF8? bytes.toByteArray).map String.toList

end Reckoner.Text

namespace Reckoner.Console

inductive Reply where
  | quit
  | display (text : String)
deriving DecidableEq

def banner : String :=
  " -> Calculatrice EZO\n\nEntrez votre calcul et appuyez sur Entrée.\n" ++
    "Tapez 'exit' ou 'q' pour quitter.\n\n"

def prompt : String := "> "

/-- Whether an entry asks to end, in capitals or small letters. -/
def isQuitWord (entry : List Char) : Bool :=
  let word := entry.map Char.toLower
  word = ['e', 'x', 'i', 't'] || word = ['q']

def report : Except Fault (Rat × Working) → String
  | .ok (v, _) => "= " ++ String.ofList (Decimal.write Decimal.defaultPlaces v)
  | .error fault => "Erreur: " ++ fault.message

def reply (calculator : Calculator) (line : List Char) : Reply × List Record :=
  match Text.trim line with
  | [] => (.display "Expression vide.", [])
  | entry =>
    if isQuitWord entry then
      (.quit, [])
    else
      let answer := calculator.answer entry
      (.display (report answer.outcome), answer.records)

inductive Ending where
  | endOfInput
  | quit
  | invalidText
deriving DecidableEq

/-- What follows a prompt: the text to write, the notes, and the end of the
conversation if this is it. -/
structure Turn where
  output : String
  records : List Record
  ending : Option Ending

/-- The turn that a line brings, or the end of the input. -/
def turn (calculator : Calculator) : Option (List UInt8) → Turn
  | none => ⟨"\n", [.sessionEnded], some .endOfInput⟩
  | some line =>
    match Text.decode? line with
    | none => ⟨"", [], some .invalidText⟩
    | some text =>
      match reply calculator text with
      | (.quit, records) => ⟨"", records ++ [.sessionEnded], some .quit⟩
      | (.display text, records) => ⟨text ++ "\n\n", records, none⟩

structure Session where
  output : String
  records : List Record
  ending : Ending
deriving DecidableEq

def converse (calculator : Calculator) : List (List UInt8) → Session
  | [] =>
    let last := turn calculator none
    ⟨prompt ++ last.output, last.records, .endOfInput⟩
  | line :: lines =>
    let now := turn calculator (some line)
    match now.ending with
    | some ending => ⟨prompt ++ now.output, now.records, ending⟩
    | none =>
      let later := converse calculator lines
      ⟨prompt ++ now.output ++ later.output, now.records ++ later.records, later.ending⟩

def session (calculator : Calculator) (input : List UInt8) : Session :=
  let talk := converse calculator (Text.lines input)
  { talk with output := banner ++ talk.output }

end Reckoner.Console
